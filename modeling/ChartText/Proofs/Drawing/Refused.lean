import ChartText.Proofs.Drawing.Drawn

/-! # Why a chart is not drawn

The counterpart of `Drawn`: a chart that is refused lacks labels or values, or its values cannot
be scaled or shared out, or the canvas leaves no room for it (`Chart.refused_of_drawing`). -/

namespace ChartText

theorem bind_eq_error_iff {ε α β : Type} {x : Except ε α} {f : α → Except ε β} {e : ε} :
    (x >>= f) = .error e ↔ x = .error e ∨ ∃ a, x = .ok a ∧ f a = .error e := by
  constructor
  · intro h
    cases x with
    | error e' =>
      cases h
      exact .inl rfl
    | ok a => exact .inr ⟨a, rfl, h⟩
  · rintro (rfl | ⟨a, rfl, h⟩)
    · rfl
    · exact h

namespace Drawing

variable {c : Chart} {o : Options} {e : RenderError}

/-- The chart types with axes, which are drawn on a plot area. -/
def HasAxes : ChartType → Prop
  | .bar | .line | .area => True
  | .pie | .donut => False

/-- The values that a chart shows. Only bar and line charts show several series. -/
def drawnValues (c : Chart) : List Float :=
  match c.type with
  | .bar | .line => scaledValues c
  | _ => c.values

/-- The chart has axes and a legend above them. -/
def hasLegend (c : Chart) : Bool :=
  match c.type with
  | .bar | .line => c.multiSeries?.isSome
  | _ => false

/-- The reasons why a chart is not drawn. -/
inductive Refused (c : Chart) (o : Options) : RenderError → Prop
  | lengths {e : RenderError} (h : checkLengths c = .error e) : Refused c o e
  | scale {e : RenderError} (type : HasAxes c.type) (h : scaleMax c.type (drawnValues c) = .error e) :
      Refused c o e
  | plotArea (type : HasAxes c.type) (h : PlotArea.ofCanvas? o.canvas (hasLegend c) = none) :
      Refused c o (.canvasTooSmall o.canvas)
  | slices {e : RenderError} (type : ¬ HasAxes c.type) (lengths : checkLengths c = .ok ())
      (h : Drawing.slices c = .error e) : Refused c o e
  | radius (type : ¬ HasAxes c.type) (h : (circleOn o.canvas).radius ≤ 0.0) :
      Refused c o (.canvasTooSmall o.canvas)
  | canvas (h : o.canvas.isDrawable = false) : Refused c o (.canvasTooSmall o.canvas)

theorem checkLengths_eq_error (h : checkLengths c = .error e) :
    e = .noData c.type ∨ e = .mismatchedLengths c.type c.labels.length c.values.length := by
  unfold checkLengths at h
  split at h
  · exact .inl (Except.error.inj h).symm
  · split at h
    · exact .inr (Except.error.inj h).symm
    · cases h

theorem scaleMax_eq_error {type : ChartType} {values : List Float}
    (h : scaleMax type values = .error e) :
    ∃ max, (Scalar.largest? values).getD (Binary64.infinity true) = max ∧
      (max.isFinite && 0.0 < max) = false ∧ e = .nonPositiveScale type max := by
  unfold scaleMax at h
  dsimp only at h
  split at h
  · cases h
  · next hmax => exact ⟨_, rfl, by simpa using hmax, (Except.error.inj h).symm⟩

theorem slices_eq_error (hlengths : checkLengths c = .ok ()) (h : Drawing.slices c = .error e) :
    (∃ label value, e = .negativeSlice c.type label value) ∨
      (∀ v ∈ c.values, ¬ v < 0.0) ∧
        ((Scalar.sum c.values).isFinite && 0.0 < Scalar.sum c.values) = false ∧
        e = .nonPositiveTotal c.type (Scalar.sum c.values) := by
  unfold Drawing.slices at h
  rw [bind_eq_error_iff] at h
  rcases h with h | ⟨⟨⟩, -, h⟩
  · rw [hlengths] at h
    cases h
  split at h
  · exact .inl ⟨_, _, (Except.error.inj h).symm⟩
  · next hfind =>
    refine .inr ⟨(find?_negative_eq_none_iff hlengths).mp hfind, ?_⟩
    dsimp only at h
    split at h
    · cases h
    · next htotal => exact ⟨by simpa using htotal, (Except.error.inj h).symm⟩

theorem plotArea_eq_error_iff {withLegend : Bool} :
    plotArea o withLegend = .error e ↔
      PlotArea.ofCanvas? o.canvas withLegend = none ∧ e = .canvasTooSmall o.canvas := by
  unfold plotArea
  cases PlotArea.ofCanvas? o.canvas withLegend with
  | none => simp [eq_comm]
  | some plot => simp

theorem document_eq_error_iff {elements : List Svg.Element} :
    document c o elements = .error e ↔
      o.canvas.isDrawable = false ∧ e = .canvasTooSmall o.canvas := by
  unfold document
  cases o.canvas.isDrawable with
  | true => simp
  | false => simp [eq_comm]

theorem refused_of_axes {values : List Float} {withLegend : Bool}
    {elements : PlotArea Float → Float → List Svg.Element} (type : HasAxes c.type)
    (hvalues : drawnValues c = values) (hlegend : hasLegend c = withLegend)
    (h : (do
      checkLengths c
      let max ← scaleMax c.type values
      let plot ← plotArea o withLegend
      document c o (elements plot max)) = .error e) : Refused c o e := by
  subst hvalues hlegend
  rcases bind_eq_error_iff.mp h with hlengths | ⟨⟨⟩, -, h⟩
  · exact .lengths hlengths
  rcases bind_eq_error_iff.mp h with hscale | ⟨max, -, h⟩
  · exact .scale type hscale
  rcases bind_eq_error_iff.mp h with harea | ⟨plot, -, h⟩
  · obtain ⟨hnone, rfl⟩ := plotArea_eq_error_iff.mp harea
    exact .plotArea type hnone
  · obtain ⟨hcanvas, rfl⟩ := document_eq_error_iff.mp h
    exact .canvas hcanvas

theorem refused_of_radialChart {hole : Option Float} (type : ¬ HasAxes c.type)
    (h : radialChart hole c o = .error e) : Refused c o e := by
  rcases bind_eq_error_iff.mp h with hslices | ⟨slices, -, h⟩
  · rcases bind_eq_error_iff.mp hslices with hlengths | ⟨⟨⟩, hlengths, -⟩
    · exact .lengths hlengths
    · exact .slices type hlengths hslices
  dsimp only at h
  rcases bind_eq_error_iff.mp h with hdocument | ⟨drawing, -, h⟩
  · obtain ⟨hcanvas, rfl⟩ := document_eq_error_iff.mp hdocument
    exact .canvas hcanvas
  · split at h
    · next hradius =>
      cases h
      exact .radius type hradius
    · cases h

end Drawing

open Drawing

variable {c : Chart} {o : Options} {e : RenderError}

theorem Chart.refused_of_drawing (h : c.drawing o = .error e) : Refused c o e := by
  unfold Chart.drawing Chart.drawingAs at h
  cases ht : c.type with
  | bar | line | area =>
    rw [ht] at h
    exact refused_of_axes (by rw [ht]; trivial) (by rw [drawnValues, ht]) (by rw [hasLegend, ht]) h
  | pie | donut =>
    rw [ht] at h
    exact refused_of_radialChart (by rw [ht]; exact id) h

theorem Chart.refused_of_render (h : c.render o = .error e) : Refused c o e := by
  have hmap : c.render o = (c.drawing o).map Svg.Document.write := rfl
  rw [hmap] at h
  cases hd : c.drawing o with
  | error e' =>
    rw [hd] at h
    cases h
    exact refused_of_drawing hd
  | ok d =>
    rw [hd] at h
    cases h

end ChartText
