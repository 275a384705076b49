import ChartText.Proofs.Drawing.Skeleton
import ChartText.Proofs.Layout.Shares
import ChartText.Proofs.Svg.Marks

/-! # Every data point is drawn once

`Chart.markCount` says how many marks of every kind a chart has, from its type, its labels and its
series alone. A drawing shows exactly these (`Chart.render_marks`): the marks of its parts are
counted one part after the other. -/

namespace ChartText

open Svg (Element Mark)

/-! ### What is expected -/

namespace Chart

/-- The lines of a chart, or the bars at each of its labels. -/
def seriesCount (c : Chart) : Nat :=
  (c.multiSeries?.map List.length).getD 1

/-- The entries of the legend. -/
def legendCount (c : Chart) : Nat :=
  (c.multiSeries?.map List.length).getD 0

def captionCount (c : Chart) : Nat :=
  (c.hints.bind (·.xAxis)).isSome.toNat + (c.hints.bind (·.yAxis)).isSome.toNat

/-- The labels of a chart of several series have the names of these in the legend, and the other
ones have the values of their only series at its marks. -/
def labelCount (c : Chart) : Nat :=
  match c.type with
  | .bar | .line =>
    (match c.multiSeries? with
    | some series => 4 + series.length + c.labels.length
    | none => 4 + 2 * c.labels.length) + c.captionCount
  | .area => 4 + c.labels.length + c.captionCount
  | .pie | .donut => c.labels.length

/-- How many marks of each kind a chart has. -/
def markCount (c : Chart) (m : Mark) : Nat :=
  match m, c.type with
  | .bar, .bar => c.labels.length * c.seriesCount
  | .line, .line => c.seriesCount
  | .point, .line => c.seriesCount * c.labels.length
  | .swatch, .bar | .swatch, .line => c.legendCount
  | .area, .area | .line, .area => 1
  | .slice, .pie | .slice, .donut => c.values.countP fun v => 0.0 < v
  | .dash, .bar | .dash, .line | .dash, .area => 4
  | .label, _ => c.labelCount + (Drawing.nonEmpty c.title).isSome.toNat
  | _, _ => 0

end Chart

namespace Drawing
variable {c : Chart} {o : Options} {plot : PlotArea Float} {max : Float} (m : Mark)

/-! ### Counting -/

/-- How many marks of a kind some elements have. -/
def count (m : Mark) (es : List Element) : Nat :=
  (es.flatMap Element.marks).count m

theorem count_append (es fs : List Element) : count m (es ++ fs) = count m es + count m fs := by
  unfold count
  rw [List.flatMap_append, List.count_append]

theorem count_flatMap {α : Type} {s : List α} {f : α → List Element} (n : Nat)
    (h : ∀ a ∈ s, count m (f a) = n) : count m (s.flatMap f) = s.length * n := by
  induction s with
  | nil => simp [count]
  | cons a s ih =>
    have hrest := ih fun b hb => h b (List.mem_cons_of_mem a hb)
    rw [List.flatMap_cons, count_append, hrest, h a List.mem_cons_self, List.length_cons,
      Nat.succ_mul, Nat.add_comm]

theorem count_flatMap_ite {α : Type} {s : List α} {f : α → List Element} {p : α → Bool} (n k : Nat)
    (h : ∀ a ∈ s, count m (f a) = (if p a then n else 0) + k) :
    count m (s.flatMap f) = s.countP p * n + s.length * k := by
  induction s with
  | nil => simp [count]
  | cons a s ih =>
    have hrest := ih fun b hb => h b (List.mem_cons_of_mem a hb)
    have hmore : (s.countP p + if p a then 1 else 0) * n =
        s.countP p * n + if p a then n else 0 := by
      split <;> simp [Nat.add_mul]
    rw [List.flatMap_cons, count_append, hrest, h a List.mem_cons_self, List.countP_cons, hmore,
      List.length_cons, Nat.succ_mul]
    omega

theorem count_map {α : Type} {s : List α} {f : α → Element} (n : Nat)
    (h : ∀ a ∈ s, count m [f a] = n) : count m (s.map f) = s.length * n := by
  have hmap : s.map f = s.flatMap fun a => [f a] := List.map_eq_flatMap
  rw [hmap]
  exact count_flatMap m n h

theorem count_cons (e : Element) (es : List Element) :
    count m (e :: es) = e.marks.count m + count m es := by
  unfold count
  rw [List.flatMap_cons, List.count_append]

/-! ### The parts of a drawing -/

theorem count_seriesLegend :
    count m (seriesLegend c o) = c.legendCount * [Mark.swatch, Mark.label].count m := by
  unfold seriesLegend Chart.legendCount
  cases c.multiSeries? with
  | none => simp [count]
  | some series =>
    show count m (legend o _) = _
    unfold legend
    refine (count_flatMap m ([Mark.swatch, Mark.label].count m) fun _ _ => ?_).trans ?_
    · rfl
    · rw [List.length_zipIdx, List.length_map, List.length_zipIdx]
      rfl

theorem count_gridlines :
    count m (gridlines o plot max) = 4 * [Mark.dash, Mark.label].count m := by
  unfold gridlines
  refine (count_flatMap m ([Mark.dash, Mark.label].count m) fun _ _ => ?_).trans ?_
  · rfl
  · rw [List.length_range']
    rfl

theorem count_axes : count m (axes o plot) = 0 := rfl

theorem count_categoryLabels (x : Nat → Float) :
    count m (categoryLabels c o plot x) = c.labels.length * [Mark.label].count m := by
  unfold categoryLabels
  refine (count_map m ([Mark.label].count m) fun _ _ => ?_).trans ?_
  · rfl
  · rw [List.length_zipIdx]

theorem count_captions :
    count m (captions c o plot) = c.captionCount * [Mark.label].count m := by
  have hcaption : ∀ (caption : Option String) (f : String → Svg.Label),
      count m ((caption.map fun s => Element.label (f s)).toList) =
        caption.isSome.toNat * [Mark.label].count m := by
    intro caption f
    cases caption with
    | none => simp [count]
    | some s => simp [count, Element.marks]
  unfold captions Chart.captionCount
  rw [count_append, Nat.add_mul]
  exact congrArg₂ _ (hcaption _ _) (hcaption _ _)

theorem count_framed (marks : List Element) (x : Nat → Float) :
    count m (framed c o plot max marks x) =
      4 * [Mark.dash, Mark.label].count m + count m marks +
        (c.labels.length + c.captionCount) * [Mark.label].count m := by
  unfold framed
  rw [count_append, count_append, count_append, count_append, count_gridlines, count_axes,
    count_categoryLabels, count_captions, Nat.add_mul]
  omega

theorem count_singleBars (h : c.values.length = c.labels.length) :
    count m (singleBars c o plot max) = c.labels.length * [Mark.bar, Mark.label].count m := by
  unfold singleBars
  refine (count_flatMap m ([Mark.bar, Mark.label].count m) fun _ _ => ?_).trans ?_
  · rfl
  · rw [List.length_zipIdx, List.length_zip, h, Nat.min_self]

theorem count_groupedBars (series : List Series) :
    count m (groupedBars c o plot max series) =
      c.labels.length * (series.length * [Mark.bar].count m) := by
  unfold groupedBars
  refine (count_flatMap m (series.length * [Mark.bar].count m) fun _ _ => ?_).trans ?_
  · refine (count_map m ([Mark.bar].count m) fun _ _ => ?_).trans ?_
    · rfl
    · rw [List.length_zipIdx]
  · rw [List.length_zipIdx]

/-- A line has as many points as values, and is drawn if there are any. -/
theorem marks_line {values : List Float} (h : values ≠ []) (color : String) (width : Float) :
    (Element.line { points := plot.points max values, color, strokeWidth := width }).marks =
      [.line] := by
  have hpoints : (plot.points max values).isEmpty = false := by
    simp [PlotArea.points, h]
  simp [Element.marks, hpoints]

theorem length_points (values : List Float) : (plot.points max values).length = values.length := by
  simp [PlotArea.points]

theorem length_fitted (count : Nat) (values : List Float) :
    (fitted count values).length = count := by
  simp only [fitted, List.length_append, List.length_take, List.length_replicate]
  omega

theorem count_singleLine (h : checkLengths c = .ok ()) :
    count m (singleLine c o plot max) =
      [Mark.line].count m + c.labels.length * [Mark.point, Mark.label].count m := by
  have hlength := (checkLengths_eq_ok_iff.mp h).2
  unfold singleLine
  rw [count_cons, marks_line (values_ne_nil h)]
  congr 1
  refine (count_flatMap m ([Mark.point, Mark.label].count m) fun _ _ => ?_).trans ?_
  · rfl
  · rw [List.length_zip, length_points, hlength, Nat.min_self]

theorem count_seriesLines (hne : c.labels ≠ []) (series : List Series) :
    count m (seriesLines c o plot max series) =
      series.length * ([Mark.line].count m + c.labels.length * [Mark.point].count m) := by
  have hline : ∀ a ∈ series.zipIdx, count m
      (Element.line { points := plot.points max (fitted c.labels.length a.1.values),
                      color := c.seriesColor o a.1 a.2 } ::
        (plot.points max (fitted c.labels.length a.1.values)).map
          (marker o (c.seriesColor o a.1 a.2) 4.0)) =
      [Mark.line].count m + c.labels.length * [Mark.point].count m := by
    intro a _
    have hfitted : fitted c.labels.length a.1.values ≠ [] := by
      intro hnil
      have hlength := length_fitted c.labels.length a.1.values
      rw [hnil] at hlength
      exact hne (List.length_eq_zero_iff.mp hlength.symm)
    rw [count_cons, marks_line hfitted]
    congr 1
    refine (count_map m ([Mark.point].count m) fun _ _ => ?_).trans ?_
    · rfl
    · rw [length_points, length_fitted]
  refine (count_flatMap m _ hline).trans ?_
  rw [List.length_zipIdx]

theorem count_areaElements (h : c.values ≠ []) :
    count m (areaElements c o plot max) = [Mark.area, Mark.line].count m := by
  have hpoints : (plot.points max c.values).isEmpty = false := by
    simp [PlotArea.points, h]
  simp [areaElements, count, Element.marks, hpoints]

theorem count_wedge? {circle : Circle} {inner : Option Float} {i : Nat} {s : Slice Float}
    {label : String} {value : Float} :
    count m (wedge? c o circle inner i s label value).toList =
      if 0.0 < value then [Mark.slice].count m else 0 := by
  unfold wedge?
  split <;> rfl

theorem count_radialElements {circle : Circle} {inner : Option Float} {slices : List (Slice Float)}
    (h : c.values.length = c.labels.length) (hslices : slices.length = c.values.length) :
    count m (radialElements c o circle inner slices) =
      (c.values.countP fun v => 0.0 < v) * [Mark.slice].count m +
        c.labels.length * [Mark.label].count m := by
  have hlength : (slices.zip (c.labels.zip c.values)).zipIdx.length = c.labels.length := by
    rw [List.length_zipIdx, List.length_zip, List.length_zip, h, hslices, h, Nat.min_self,
      Nat.min_self]
  have hvalues : ((slices.zip (c.labels.zip c.values)).zipIdx).map (fun a => a.1.2.2) =
      c.values := by
    have hzip : (c.labels.zip c.values).length = slices.length := by
      rw [List.length_zip, h, hslices, h, Nat.min_self]
    have hcompose : (fun a : (Slice Float × String × Float) × Nat => a.1.2.2) =
        Prod.snd ∘ Prod.snd ∘ Prod.fst := rfl
    rw [hcompose, ← List.map_map, ← List.map_map, List.zipIdx_map_fst,
      List.map_snd_zip (Nat.le_of_eq hzip), List.map_snd_zip (Nat.le_of_eq h)]
  have hcount : ((slices.zip (c.labels.zip c.values)).zipIdx.countP fun a => 0.0 < a.1.2.2) =
      c.values.countP fun v => 0.0 < v := by
    conv_rhs => rw [← hvalues]
    rw [List.countP_map]
    rfl
  rw [← hcount, ← hlength]
  refine count_flatMap_ite m _ _ fun a _ => ?_
  rw [count_append, count_wedge?, if_congr decide_eq_true_iff rfl rfl]
  rfl

theorem count_title :
    count m ((nonEmpty c.title).map (titleLabel o)).toList =
      (nonEmpty c.title).isSome.toNat * [Mark.label].count m := by
  cases nonEmpty c.title with
  | none => simp [count]
  | some title => simp [count, Element.marks, titleLabel]

/-! ### Drawings -/

theorem Drawn.count {es : List Element} (h : Drawn c o es) :
    count m (((nonEmpty c.title).map (titleLabel o)).toList ++ es) = c.markCount m := by
  rw [count_append, count_title]
  cases h with
  | bar ht hs =>
    rw [count_append, count_seriesLegend, count_framed]
    unfold bars Chart.markCount Chart.legendCount Chart.seriesCount Chart.labelCount
    rw [ht]
    cases c.multiSeries? with
    | none =>
      rw [count_singleBars m (checkLengths_eq_ok_iff.mp hs.lengths).2]
      cases m <;> simp +arith
    | some series =>
      rw [count_groupedBars]
      cases m <;> simp +arith
  | line ht hs =>
    rw [count_append, count_seriesLegend, count_framed]
    unfold lines Chart.markCount Chart.legendCount Chart.seriesCount Chart.labelCount
    rw [ht]
    cases c.multiSeries? with
    | none =>
      rw [count_singleLine m hs.lengths]
      cases m <;> simp +arith
    | some series =>
      rw [count_seriesLines m (checkLengths_eq_ok_iff.mp hs.lengths).1]
      cases m <;> simp +arith
  | area ht hs =>
    rw [count_framed, count_areaElements m (values_ne_nil hs.lengths)]
    unfold Chart.markCount Chart.labelCount
    rw [ht]
    cases m <;> simp +arith
  | radial ht hslices hradius =>
    obtain ⟨hlengths, -, -, rfl⟩ := slices_eq_ok_iff.mp hslices
    have hlength := (checkLengths_eq_ok_iff.mp hlengths).2
    rw [count_radialElements m hlength (Slice.length_share _ _)]
    unfold Chart.markCount Chart.labelCount
    generalize c.type = type at ht
    cases ht with
    | pie => cases m <;> simp +arith
    | donut => cases m <;> simp +arith

end Drawing

open Drawing

/-- A drawing shows every data point of its chart once, and nothing else shows as one. -/
theorem Chart.render_marks {c : Chart} {o : Options} {svg : String} (h : c.render o = .ok svg)
    (m : Mark) : Text.occurrences m.text.toList svg.toList = c.markCount m := by
  obtain ⟨-, es, hdrawn, rfl⟩ := render_eq_ok_iff.mp h
  rw [Svg.Document.occurrences_write hdrawn.isPlain_page]
  exact hdrawn.count m

/-- Texts that look like marks do not count: there are two labels and three series. -/
theorem Chart.render_marks_hostile :
    let c : Chart :=
      { type := .bar, title := some "class=\"pv-bar\"", labels := ["<text ", "class=\"pv-bar\""]
        values := [1.0, 2.0]
        series := some [⟨"class=\"pv-swatch\"", [1.0, 2.0], some "\" class=\"pv-bar\""⟩,
          ⟨"t", [3.0], none⟩, ⟨"u", [], none⟩] }
    ∃ svg, c.render (.themed .dark) = .ok svg ∧
      Text.occurrences "class=\"pv-bar\"".toList svg.toList = 6 ∧
      Text.occurrences "class=\"pv-swatch\"".toList svg.toList = 3 ∧
      Text.occurrences "<text ".toList svg.toList = 10 := by
  intro c
  have hdrawn : (c.render (.themed .dark)).toOption.isSome = true := by decide +kernel
  cases h : c.render (.themed .dark) with
  | error e =>
    rw [h] at hdrawn
    cases hdrawn
  | ok svg =>
    have hlabel : c.markCount .label = 10 := by decide +kernel
    exact ⟨svg, rfl, render_marks h .bar, render_marks h .swatch,
      (render_marks h .label).trans hlabel⟩

end ChartText
