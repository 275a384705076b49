import ChartText.Drawing

/-! # What a drawn chart shows

A chart that can be drawn has passed the checks of its type, and its drawing is a page around the
elements of that type. `Drawn` holds of exactly these elements (`Chart.drawing_eq_ok_iff`), so what
is proved of it by cases is proved of every drawing. -/

namespace ChartText

theorem bind_eq_ok_iff {ε α β : Type} {x : Except ε α} {f : α → Except ε β} {b : β} :
    (x >>= f) = .ok b ↔ ∃ a, x = .ok a ∧ f a = .ok b := by
  constructor
  · intro h
    cases x with
    | error e => cases h
    | ok a => exact ⟨a, rfl, h⟩
  · rintro ⟨a, rfl, h⟩
    exact h

namespace Drawing

open Svg (Element)

variable {c : Chart} {o : Options}

theorem checkLengths_eq_ok_iff :
    checkLengths c = .ok () ↔ c.labels ≠ [] ∧ c.values.length = c.labels.length := by
  unfold checkLengths
  rw [← List.isEmpty_eq_false_iff]
  cases c.labels.isEmpty with
  | true => simp
  | false =>
    by_cases hlength : c.values.length = c.labels.length
    · simp [hlength]
    · simp [hlength]

theorem values_ne_nil (h : checkLengths c = .ok ()) : c.values ≠ [] := by
  obtain ⟨hne, hlength⟩ := checkLengths_eq_ok_iff.mp h
  rw [← List.length_pos_iff, hlength]
  exact List.length_pos_iff.mpr hne

/-- With a value for every label, a slice is refused because of its value alone. -/
theorem find?_negative_eq_none_iff (hlengths : checkLengths c = .ok ()) :
    ((c.labels.zip c.values).find? fun (_, value) => value < 0.0) = none ↔
      ∀ v ∈ c.values, ¬ v < 0.0 := by
  rw [List.find?_eq_none]
  constructor
  · intro h v hv
    have hzip : (c.labels.zip c.values).map Prod.snd = c.values :=
      List.map_snd_zip (Nat.le_of_eq (checkLengths_eq_ok_iff.mp hlengths).2)
    rw [← hzip] at hv
    obtain ⟨entry, hentry, rfl⟩ := List.mem_map.mp hv
    simpa using h entry hentry
  · intro h entry hentry
    simpa using h entry.2 (List.of_mem_zip hentry).2

theorem slices_eq_ok_iff {slices : List (Slice Float)} :
    Drawing.slices c = .ok slices ↔
      checkLengths c = .ok () ∧ (∀ v ∈ c.values, ¬ v < 0.0) ∧
        ((Scalar.sum c.values).isFinite && 0.0 < Scalar.sum c.values) = true ∧
        slices = Slice.share Angle.turn (Scalar.sum c.values) Angle.top c.values := by
  unfold Drawing.slices
  rw [bind_eq_ok_iff]
  constructor
  · rintro ⟨⟨⟩, hlengths, h⟩
    refine ⟨hlengths, ?_⟩
    split at h
    · cases h
    · next hfind =>
      refine ⟨(find?_negative_eq_none_iff hlengths).mp hfind, ?_⟩
      dsimp only at h
      split at h
      · next htotal => exact ⟨htotal, (Except.ok.inj h).symm⟩
      · cases h
  · rintro ⟨hlengths, hvalues, htotal, rfl⟩
    refine ⟨(), hlengths, ?_⟩
    rw [(find?_negative_eq_none_iff hlengths).mpr hvalues]
    exact if_pos htotal

/-! ### Pages -/

/-- The document around the elements of a chart. -/
def page (c : Chart) (o : Options) (elements : List Element) : Svg.Document where
  width := o.canvas.width
  height := o.canvas.height
  title := (nonEmpty c.title).getD ""
  description := (nonEmpty c.subtitle).getD ""
  background := some o.backgroundColor
  elements := ((nonEmpty c.title).map (titleLabel o)).toList ++ elements

theorem document_eq_ok_iff {elements : List Element} {d : Svg.Document} :
    document c o elements = .ok d ↔ o.canvas.isDrawable = true ∧ d = page c o elements := by
  unfold document
  split
  · next h =>
    constructor
    · exact fun hd => ⟨h, (Except.ok.inj hd).symm⟩
    · rintro ⟨-, rfl⟩
      rfl
  · next h =>
    constructor
    · exact fun hd => nomatch hd
    · exact fun ⟨hcanvas, _⟩ => absurd hcanvas h

/-! ### Elements -/

/-- A chart with axes: its values can be scaled, and the canvas leaves a plot area. -/
structure Scaled (c : Chart) (o : Options) (values : List Float) (withLegend : Bool)
    (plot : PlotArea Float) (max : Float) : Prop where
  lengths : checkLengths c = .ok ()
  scale : scaleMax c.type values = .ok max
  area : plotArea o withLegend = .ok plot

/-- The elements of the area of a chart. -/
def areaElements (c : Chart) (o : Options) (plot : PlotArea Float) (max : Float) : List Element :=
  [.line { points := plot.points max c.values, color := c.color o 0,
           baseline := some plot.bottom }]

section
variable {plot : PlotArea Float} {max : Float} {p : Element → Prop}

theorem forall_mem_bars (hbar : ∀ b, p (.bar b))
    (hlabel : ∀ l : Svg.Label, l.anchor = .middle → p (.label l)) :
    ∀ e ∈ bars c o plot max, p e := by
  unfold bars
  split
  · simp only [groupedBars, List.forall_mem_flatMap, List.forall_mem_map]
    exact fun _ _ _ _ => hbar _
  · simp only [singleBars, List.forall_mem_flatMap, List.forall_mem_cons, List.not_mem_nil,
      false_imp_iff, implies_true, and_true]
    exact fun _ _ => ⟨hbar _, hlabel _ rfl⟩

theorem forall_mem_lines (hline : ∀ l, p (.line l)) (hmarker : ∀ m, p (.marker m))
    (hlabel : ∀ l : Svg.Label, l.anchor = .middle → p (.label l)) :
    ∀ e ∈ lines c o plot max, p e := by
  unfold lines
  split
  · simp only [seriesLines, List.forall_mem_flatMap, List.forall_mem_cons, List.forall_mem_map]
    exact fun _ _ => ⟨hline _, fun _ _ => hmarker _⟩
  · simp only [singleLine, List.forall_mem_flatMap, List.forall_mem_cons, List.not_mem_nil,
      false_imp_iff, implies_true, and_true]
    exact ⟨hline _, fun _ _ => ⟨hmarker _, hlabel _ rfl⟩⟩

theorem forall_mem_seriesLegend (hswatch : ∀ s, p (.swatch s))
    (hlabel : ∀ l : Svg.Label, l.anchor = .start → p (.label l)) :
    ∀ e ∈ seriesLegend c o, p e := by
  unfold seriesLegend
  split
  · simp only [legend, List.forall_mem_flatMap, List.forall_mem_cons, List.not_mem_nil,
      false_imp_iff, implies_true, and_true]
    exact fun _ _ => ⟨hswatch _, hlabel _ rfl⟩
  · exact fun _ he => absurd he List.not_mem_nil

end

/-- The hole of a radial chart type, as a share of the radius. -/
inductive HasHole : ChartType → Option Float → Prop
  | pie : HasHole .pie none
  | donut : HasHole .donut (some donutHole)

/-- What a chart that can be drawn is drawn as, apart from its title. -/
inductive Drawn (c : Chart) (o : Options) : List Element → Prop
  | bar {plot : PlotArea Float} {max : Float} (type : c.type = .bar)
      (scaled : Scaled c o (scaledValues c) c.multiSeries?.isSome plot max) :
      Drawn c o (seriesLegend c o ++ framed c o plot max (bars c o plot max)
        (Slots.of plot c.labels.length).middle)
  | line {plot : PlotArea Float} {max : Float} (type : c.type = .line)
      (scaled : Scaled c o (scaledValues c) c.multiSeries?.isSome plot max) :
      Drawn c o (seriesLegend c o ++ framed c o plot max (lines c o plot max)
        fun i => plot.pointX i c.labels.length)
  | area {plot : PlotArea Float} {max : Float} (type : c.type = .area)
      (scaled : Scaled c o c.values false plot max) :
      Drawn c o (framed c o plot max (areaElements c o plot max)
        fun i => plot.pointX i c.labels.length)
  | radial {hole : Option Float} {slices : List (Slice Float)} (type : HasHole c.type hole)
      (share : Drawing.slices c = .ok slices)
      (room : ¬ (circleOn o.canvas).radius ≤ 0.0) :
      Drawn c o (radialElements c o (circleOn o.canvas)
        (hole.map ((circleOn o.canvas).radius * ·)) slices)

theorem radialChart_eq_ok_iff {hole : Option Float} {d : Svg.Document} :
    radialChart hole c o = .ok d ↔ ∃ slices, Drawing.slices c = .ok slices ∧
      o.canvas.isDrawable = true ∧ ¬ (circleOn o.canvas).radius ≤ 0.0 ∧
      d = page c o (radialElements c o (circleOn o.canvas)
        (hole.map ((circleOn o.canvas).radius * ·)) slices) := by
  unfold radialChart
  rw [bind_eq_ok_iff]
  refine exists_congr fun slices => and_congr_right fun _ => ?_
  dsimp only
  rw [bind_eq_ok_iff]
  constructor
  · rintro ⟨drawing, hdocument, h⟩
    obtain ⟨hcanvas, rfl⟩ := document_eq_ok_iff.mp hdocument
    split at h
    · cases h
    · next hradius => exact ⟨hcanvas, hradius, (Except.ok.inj h).symm⟩
  · rintro ⟨hcanvas, hradius, rfl⟩
    exact ⟨_, document_eq_ok_iff.mpr ⟨hcanvas, rfl⟩, if_neg hradius⟩

end Drawing

open Drawing

theorem Chart.drawing_eq_ok_iff {c : Chart} {o : Options} {d : Svg.Document} :
    c.drawing o = .ok d ↔ o.canvas.isDrawable = true ∧
      ∃ elements, Drawn c o elements ∧ d = page c o elements := by
  have hscaled : ∀ {values withLegend} {elements : PlotArea Float → Float → List Svg.Element},
      (do
        checkLengths c
        let max ← scaleMax c.type values
        let plot ← plotArea o withLegend
        document c o (elements plot max)) = .ok d ↔
      o.canvas.isDrawable = true ∧ ∃ plot max, Scaled c o values withLegend plot max ∧
        d = page c o (elements plot max) := by
    intro values withLegend elements
    simp only [bind_eq_ok_iff, document_eq_ok_iff]
    constructor
    · rintro ⟨⟨⟩, hlengths, max, hscale, plot, harea, hcanvas, hd⟩
      exact ⟨hcanvas, plot, max, ⟨hlengths, hscale, harea⟩, hd⟩
    · rintro ⟨hcanvas, plot, max, hs, hd⟩
      exact ⟨(), hs.lengths, max, hs.scale, plot, hs.area, hcanvas, hd⟩
  unfold Chart.drawing Chart.drawingAs
  constructor
  · intro h
    cases ht : c.type with
    | bar =>
      rw [ht] at h
      obtain ⟨hcanvas, plot, max, hs, hd⟩ := hscaled.mp h
      exact ⟨hcanvas, _, .bar ht hs, hd⟩
    | line =>
      rw [ht] at h
      obtain ⟨hcanvas, plot, max, hs, hd⟩ := hscaled.mp h
      exact ⟨hcanvas, _, .line ht hs, hd⟩
    | area =>
      rw [ht] at h
      obtain ⟨hcanvas, plot, max, hs, hd⟩ := hscaled.mp h
      exact ⟨hcanvas, _, .area ht hs, hd⟩
    | pie =>
      rw [ht] at h
      obtain ⟨slices, hslices, hcanvas, hradius, hd⟩ := radialChart_eq_ok_iff.mp h
      exact ⟨hcanvas, _, .radial (ht ▸ .pie) hslices hradius, hd⟩
    | donut =>
      rw [ht] at h
      obtain ⟨slices, hslices, hcanvas, hradius, hd⟩ := radialChart_eq_ok_iff.mp h
      exact ⟨hcanvas, _, .radial (ht ▸ .donut) hslices hradius, hd⟩
  · rintro ⟨hcanvas, elements, hdrawn, hd⟩
    cases hdrawn with
    | bar ht hs | line ht hs | area ht hs =>
      rw [ht]
      exact hscaled.mpr ⟨hcanvas, _, _, hs, hd⟩
    | @radial hole slices htype hslices hradius =>
      have hd := radialChart_eq_ok_iff.mpr ⟨slices, hslices, hcanvas, hradius, hd⟩
      generalize c.type = type at htype
      cases htype with
      | pie => exact hd
      | donut => exact hd

theorem Chart.render_eq_ok_iff {c : Chart} {o : Options} {svg : String} :
    c.render o = .ok svg ↔ o.canvas.isDrawable = true ∧
      ∃ elements, Drawn c o elements ∧ svg = (page c o elements).write := by
  have hmap : c.render o = (c.drawing o).map Svg.Document.write := rfl
  rw [hmap]
  constructor
  · intro h
    cases hd : c.drawing o with
    | error e =>
      rw [hd] at h
      cases h
    | ok d =>
      obtain ⟨hcanvas, elements, hdrawn, rfl⟩ := drawing_eq_ok_iff.mp hd
      rw [hd] at h
      exact ⟨hcanvas, elements, hdrawn, (Except.ok.inj h).symm⟩
  · rintro ⟨hcanvas, elements, hdrawn, rfl⟩
    rw [drawing_eq_ok_iff.mpr ⟨hcanvas, elements, hdrawn, rfl⟩]
    rfl

end ChartText
