import ChartText.Proofs.Drawing.Refused
import Mathlib.Control.Monad.Basic

/-! # Data before canvas

Whether a chart is drawn is decided in two steps. First its data are checked (`checkData`), which
has nothing to do with the options, and then the canvas (`hasRoom`), which has nothing to do with
the data but for the type of the chart and its legend. `Chart.discard_drawing` says so of all chart
types at once, and so a fault of the data is reported on any canvas, and a canvas that is too small
for one chart is too small for all charts of its kind (`Chart.render_independent`). -/

namespace ChartText

/-- The data of the chart are at fault, not the canvas. -/
def RenderError.IsOfData : RenderError → Prop
  | .canvasTooSmall _ => False
  | _ => True

namespace Drawing

variable {c : Chart} {o : Options} {e : RenderError}

/-- The checks that a chart has to pass whatever it is drawn on. -/
def checkData (c : Chart) : Except RenderError Unit :=
  match c.type with
  | .bar | .line | .area => do
    checkLengths c
    discard (scaleMax c.type (drawnValues c))
  | .pie | .donut => discard (slices c)

/-- The canvas can be drawn on, and something is left of it for the marks of a chart. -/
def hasRoom (type : ChartType) (withLegend : Bool) (canvas : Canvas Float) : Bool :=
  canvas.isDrawable &&
    match type with
    | .bar | .line | .area => (PlotArea.ofCanvas? canvas withLegend).isSome
    | .pie | .donut => !decide ((circleOn canvas).radius ≤ 0.0)

def checkCanvas (c : Chart) (o : Options) : Except RenderError Unit :=
  if hasRoom c.type (hasLegend c) o.canvas then .ok () else .error (.canvasTooSmall o.canvas)

theorem checkData_of_axes (type : HasAxes c.type) :
    checkData c = (do
      checkLengths c
      discard (scaleMax c.type (drawnValues c))) := by
  unfold checkData
  generalize c.type = t at type ⊢
  cases t with
  | bar | line | area => rfl
  | pie | donut => exact type.elim

theorem checkData_of_not_axes (type : ¬ HasAxes c.type) : checkData c = discard (slices c) := by
  unfold checkData
  generalize c.type = t at type ⊢
  cases t with
  | bar | line | area => exact absurd trivial type
  | pie | donut => rfl

theorem hasRoom_of_axes {type : ChartType} {withLegend : Bool} {canvas : Canvas Float}
    (htype : HasAxes type) :
    hasRoom type withLegend canvas =
      (canvas.isDrawable && (PlotArea.ofCanvas? canvas withLegend).isSome) := by
  cases type with
  | bar | line | area => rfl
  | pie | donut => exact htype.elim

theorem hasRoom_of_not_axes {type : ChartType} {withLegend : Bool} {canvas : Canvas Float}
    (htype : ¬ HasAxes type) :
    hasRoom type withLegend canvas =
      (canvas.isDrawable && !decide ((circleOn canvas).radius ≤ 0.0)) := by
  cases type with
  | bar | line | area => exact absurd trivial htype
  | pie | donut => rfl

/-! ### The verdict on a chart -/

section
variable {α : Type} {x : Except RenderError α}

theorem discard_eq_error_iff : discard x = .error e ↔ x = .error e := by
  cases x with
  | error e' => constructor <;> rintro ⟨⟩ <;> rfl
  | ok a => exact ⟨nofun, nofun⟩

theorem discard_eq_ok_iff : discard x = .ok () ↔ ∃ a, x = .ok a := by
  cases x with
  | error e' => exact ⟨nofun, nofun⟩
  | ok a => exact ⟨fun _ => ⟨a, rfl⟩, fun _ => rfl⟩

end

theorem discard_axes {values : List Float} {withLegend : Bool}
    {elements : PlotArea Float → Float → List Svg.Element} (type : HasAxes c.type)
    (hvalues : drawnValues c = values) (hlegend : hasLegend c = withLegend) :
    discard (do
      checkLengths c
      let max ← scaleMax c.type values
      let plot ← plotArea o withLegend
      document c o (elements plot max)) = (do checkData c; checkCanvas c o) := by
  subst hvalues hlegend
  rw [checkData_of_axes type, checkCanvas, hasRoom_of_axes type]
  cases checkLengths c with
  | error e => rfl
  | ok =>
    cases scaleMax c.type (drawnValues c) with
    | error e => rfl
    | ok max =>
      unfold plotArea document
      cases PlotArea.ofCanvas? o.canvas (hasLegend c) with
      | none => cases o.canvas.isDrawable <;> rfl
      | some plot => cases o.canvas.isDrawable <;> rfl

theorem discard_radialChart {hole : Option Float} (type : ¬ HasAxes c.type) :
    discard (radialChart hole c o) = (do checkData c; checkCanvas c o) := by
  rw [checkData_of_not_axes type, checkCanvas, hasRoom_of_not_axes type, radialChart]
  cases slices c with
  | error e => rfl
  | ok slices =>
    unfold document
    by_cases hradius : (circleOn o.canvas).radius ≤ 0.0
    · cases o.canvas.isDrawable <;> simp [hradius] <;> rfl
    · cases o.canvas.isDrawable <;> simp [hradius] <;> rfl

theorem checkData_eq_error (h : checkData c = .error e) :
    checkLengths c = .error e ∨ (∃ max, e = .nonPositiveScale c.type max) ∨
      (∃ label value, e = .negativeSlice c.type label value) ∨
      ∃ total, e = .nonPositiveTotal c.type total := by
  by_cases type : HasAxes c.type
  · rw [checkData_of_axes type] at h
    rcases bind_eq_error_iff.mp h with hlengths | ⟨⟨⟩, -, hscale⟩
    · exact .inl hlengths
    · obtain ⟨max, -, -, rfl⟩ := scaleMax_eq_error (discard_eq_error_iff.mp hscale)
      exact .inr (.inl ⟨max, rfl⟩)
  · rw [checkData_of_not_axes type, discard_eq_error_iff] at h
    rcases bind_eq_error_iff.mp (show (checkLengths c >>= _) = _ from h) with
      hlengths | ⟨⟨⟩, hlengths, -⟩
    · exact .inl hlengths
    · rcases slices_eq_error hlengths h with ⟨label, value, rfl⟩ | ⟨-, -, rfl⟩
      · exact .inr (.inr (.inl ⟨label, value, rfl⟩))
      · exact .inr (.inr (.inr ⟨_, rfl⟩))

theorem isOfData_of_checkData (h : checkData c = .error e) : e.IsOfData := by
  rcases checkData_eq_error h with hlengths | ⟨max, rfl⟩ | ⟨label, value, rfl⟩ | ⟨total, rfl⟩
  · rcases checkLengths_eq_error hlengths with rfl | rfl <;> trivial
  · trivial
  · trivial
  · trivial

theorem checkCanvas_eq_error_iff :
    checkCanvas c o = .error e ↔
      hasRoom c.type (hasLegend c) o.canvas = false ∧ e = .canvasTooSmall o.canvas := by
  unfold checkCanvas
  cases hasRoom c.type (hasLegend c) o.canvas with
  | true => simp
  | false => simp [eq_comm]

end Drawing

open Drawing

variable {c : Chart} {o : Options} {e : RenderError}

/-- A chart is drawn if its data pass their checks and then the canvas passes its own. -/
theorem Chart.discard_drawing (c : Chart) (o : Options) :
    discard (c.drawing o) = (do checkData c; checkCanvas c o) := by
  unfold Chart.drawing Chart.drawingAs
  cases ht : c.type with
  | bar | line | area =>
    exact discard_axes (by rw [ht]; trivial) (by rw [drawnValues, ht]) (by rw [hasLegend, ht])
  | pie | donut => exact discard_radialChart (by rw [ht]; exact id)

theorem Chart.discard_render (c : Chart) (o : Options) :
    discard (c.render o) = (do checkData c; checkCanvas c o) := by
  rw [← discard_drawing]
  have hmap : c.render o = (c.drawing o).map Svg.Document.write := rfl
  rw [hmap]
  cases c.drawing o with
  | error e => rfl
  | ok d => rfl

theorem Chart.render_of_checkData (h : checkData c = .error e) (o : Options) :
    c.render o = .error e := by
  rw [← discard_eq_error_iff, discard_render, h]
  rfl

theorem Chart.discard_render_of_checkData (h : checkData c = .ok ()) (o : Options) :
    discard (c.render o) = checkCanvas c o := by
  rw [discard_render, h]
  rfl

theorem Chart.checkData_of_render (he : e.IsOfData) (h : c.render o = .error e) :
    checkData c = .error e := by
  rw [← discard_eq_error_iff, discard_render, bind_eq_error_iff] at h
  rcases h with hdata | ⟨⟨⟩, -, hcanvas⟩
  · exact hdata
  · obtain ⟨-, rfl⟩ := checkCanvas_eq_error_iff.mp hcanvas
    exact he.elim

theorem Chart.checkData_eq_ok (h : ∀ e, c.render o = .error e → ¬ e.IsOfData) :
    checkData c = .ok () := by
  cases hdata : checkData c with
  | error e => exact absurd (isOfData_of_checkData hdata) (h e (render_of_checkData hdata o))
  | ok => rfl

/-- A fault of the data is reported on any canvas. Two charts of one type, both with several series
or both without, and neither with a fault in its data, are both drawn or both told that the
canvas is too small. -/
theorem Chart.render_independent (c : Chart) (o₁ o₂ : Options) :
    (∀ e, e.IsOfData → c.render o₁ = .error e → c.render o₂ = .error e) ∧
    ∀ d : Chart, c.type = d.type → c.multiSeries?.isSome = d.multiSeries?.isSome →
      (∀ e, c.render o₁ = .error e → ¬ e.IsOfData) →
      (∀ e, d.render o₁ = .error e → ¬ e.IsOfData) →
      (c.render o₁ = .error (.canvasTooSmall o₁.canvas) ∧
          d.render o₁ = .error (.canvasTooSmall o₁.canvas)) ∨
        (∃ svg, c.render o₁ = .ok svg) ∧ ∃ svg, d.render o₁ = .ok svg := by
  refine ⟨fun e he h => render_of_checkData (checkData_of_render he h) o₂, ?_⟩
  intro d htype hseries hc hd
  have hlegend : hasLegend c = hasLegend d := by rw [hasLegend, htype, hseries, hasLegend]
  have hcanvas : checkCanvas c o₁ = checkCanvas d o₁ := by
    rw [checkCanvas, htype, hlegend, checkCanvas]
  have hc' := discard_render_of_checkData (checkData_eq_ok hc) o₁
  have hd' := discard_render_of_checkData (checkData_eq_ok hd) o₁
  rw [← hcanvas] at hd'
  cases hverdict : checkCanvas c o₁ with
  | error e =>
    obtain ⟨-, rfl⟩ := checkCanvas_eq_error_iff.mp hverdict
    rw [hverdict, discard_eq_error_iff] at hc' hd'
    exact .inl ⟨hc', hd'⟩
  | ok =>
    rw [hverdict, discard_eq_ok_iff] at hc' hd'
    exact .inr ⟨hc', hd'⟩

/-- A negative value is reported on a canvas without a width. Two charts with a legend, whose values
have nothing in common, do not fit on a canvas that a chart without a legend fits on. -/
theorem Chart.render_independent_legend :
    let pie : Chart := { type := .pie, labels := ["A"], values := [-1.0] }
    let low : Options := ((Options.themed .dark).withSize 500.0 70.0).withPadding 10.0
    let c : Chart :=
      { labels := ["A"], values := [1.0], series := some [⟨"s", [1.0], none⟩, ⟨"t", [2.0], none⟩] }
    let d : Chart :=
      { labels := ["B", "C"], values := [0.0, 0.0]
        series := some [⟨"s", [], none⟩, ⟨"t", [7.5], none⟩, ⟨"u", [-1.0], none⟩] }
    pie.render ((Options.themed .dark).withSize (0.0 / 0.0) (-1.0)) =
        .error (.negativeSlice .pie "A" (-1.0)) ∧
      (c.render low = .error (.canvasTooSmall low.canvas) ∧
          d.render low = .error (.canvasTooSmall low.canvas) ∨
        (∃ svg, c.render low = .ok svg) ∧ ∃ svg, d.render low = .ok svg) ∧
      c.render low = .error (.canvasTooSmall low.canvas) ∧
      hasRoom .bar false low.canvas = true := by
  intro pie low c d
  have hpie : pie.render (.themed .dark) = .error (.negativeSlice .pie "A" (-1.0)) := by
    decide +kernel
  have hc : c.render low = .error (.canvasTooSmall low.canvas) := by decide +kernel
  have hd : d.render low = .error (.canvasTooSmall low.canvas) := by decide +kernel
  refine ⟨(render_independent pie _ _).1 _ trivial hpie, ?_, hc, by decide +kernel⟩
  refine (render_independent c low low).2 d rfl rfl (fun e he => ?_) fun e he => ?_
  · rw [hc] at he
    cases he
    exact id
  · rw [hd] at he
    cases he
    exact id

end ChartText
