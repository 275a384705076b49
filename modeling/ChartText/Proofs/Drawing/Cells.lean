import ChartText.Drawing
import Mathlib.Data.List.Basic

/-! # Cells that are drawn

A series may have more cells than the chart has labels. The marks of bar and line charts stop at the
last label, so of the cells behind it only the scale takes notice: a chart is drawn as the one whose
series are cut to its labels (`Chart.cut`), provided that both have the same largest value
(`Chart.render_cut`). -/

namespace ChartText

/-- The series without what lies behind its first `count` cells. -/
def Series.cut (count : Nat) (s : Series) : Series :=
  { s with values := s.values.take count }

/-- The chart without the cells that have no label. -/
def Chart.cut (c : Chart) : Chart :=
  { c with series := c.series.map fun ss => ss.map (Series.cut c.labels.length) }

namespace Chart
variable {c : Chart}

theorem multiSeries?_cut :
    c.cut.multiSeries? = c.multiSeries?.map fun ss => ss.map (Series.cut c.labels.length) := by
  unfold multiSeries? cut
  match c.series with
  | none | some [] | some [_] | some (_ :: _ :: _) => rfl

end Chart

@[simp] theorem fitted_cut (count : Nat) (s : Series) :
    fitted count (s.cut count).values = fitted count s.values := by
  have hlength : count - (s.values.take count).length = count - s.values.length := by
    rw [List.length_take]
    omega
  rw [fitted, Series.cut, hlength, List.take_take, Nat.min_self, fitted]

namespace Drawing
variable {c : Chart} {o : Options} {plot : PlotArea Float} {max : Float}

/-! ### The parts of a drawing -/

theorem seriesLegend_cut : seriesLegend c.cut o = seriesLegend c o := by
  unfold seriesLegend
  rw [Chart.multiSeries?_cut]
  cases c.multiSeries? with
  | none => rfl
  | some ss =>
    simp only [Option.map_some, List.zipIdx_map, List.map_map]
    rfl

/-- A bar looks up its cell by the position of its label. -/
theorem groupedBars_cut (ss : List Series) :
    groupedBars c.cut o plot max (ss.map (Series.cut c.labels.length)) =
      groupedBars c o plot max ss := by
  have hcell : ∀ i < c.labels.length, ∀ s : Series,
      (s.cut c.labels.length).values[i]? = s.values[i]? := by
    intro i hi s
    exact List.getElem?_take_of_lt hi
  unfold groupedBars
  simp only [List.zipIdx_map, List.map_map, List.length_map]
  refine List.flatMap_congr fun (label, i) hmem => List.map_congr_left fun (s, j) _ => ?_
  have hi := (List.mem_zipIdx' hmem).1
  simp only [Function.comp_apply, Prod.map_apply, hcell i hi]
  rfl

theorem seriesLines_cut (ss : List Series) :
    seriesLines c.cut o plot max (ss.map (Series.cut c.labels.length)) =
      seriesLines c o plot max ss := by
  unfold seriesLines
  rw [List.zipIdx_map, List.flatMap_map]
  refine List.flatMap_congr fun (s, i) _ => ?_
  have hfit := fitted_cut c.labels.length s
  change Svg.Element.line { points := plot.points max (fitted c.labels.length _), color := _ } ::
    (plot.points max (fitted c.labels.length _)).map _ = _
  rw [hfit]
  rfl

theorem bars_cut : bars c.cut o plot max = bars c o plot max := by
  unfold bars
  rw [Chart.multiSeries?_cut]
  cases c.multiSeries? with
  | none => rfl
  | some ss => exact groupedBars_cut ss

theorem lines_cut : lines c.cut o plot max = lines c o plot max := by
  unfold lines
  rw [Chart.multiSeries?_cut]
  cases c.multiSeries? with
  | none => rfl
  | some ss => exact seriesLines_cut ss

theorem isSome_multiSeries?_cut : c.cut.multiSeries?.isSome = c.multiSeries?.isSome := by
  rw [Chart.multiSeries?_cut, Option.isSome_map]

theorem scaleMax_cut
    (h : Scalar.largest? (scaledValues c.cut) = Scalar.largest? (scaledValues c)) :
    scaleMax c.cut.type (scaledValues c.cut) = scaleMax c.type (scaledValues c) := by
  unfold scaleMax
  rw [h]
  rfl

/-! ### Charts -/

theorem barChart_cut
    (h : Scalar.largest? (scaledValues c.cut) = Scalar.largest? (scaledValues c)) :
    barChart c.cut o = barChart c o := by
  unfold barChart
  rw [scaleMax_cut h, isSome_multiSeries?_cut, seriesLegend_cut]
  simp only [bars_cut]
  rfl

theorem lineChart_cut
    (h : Scalar.largest? (scaledValues c.cut) = Scalar.largest? (scaledValues c)) :
    lineChart c.cut o = lineChart c o := by
  unfold lineChart
  rw [scaleMax_cut h, isSome_multiSeries?_cut, seriesLegend_cut]
  simp only [lines_cut]
  rfl

end Drawing

/-- Cells without a label show only in the scale of bar and line charts: where they do not change
the largest value, the chart is drawn, or refused, as the chart without them. -/
theorem Chart.render_cut {c : Chart} {o : Options}
    (h : c.type = .bar ∨ c.type = .line →
      Scalar.largest? (Drawing.scaledValues c.cut) = Scalar.largest? (Drawing.scaledValues c)) :
    c.cut.render o = c.render o := by
  change (c.cut.drawingAs c.type o).map _ = (c.drawingAs c.type o).map _
  cases ht : c.type with
  | bar =>
    have hbar : Drawing.barChart c.cut o = Drawing.barChart c o :=
      Drawing.barChart_cut (h (.inl ht))
    exact congrArg (Except.map Svg.Document.write) hbar
  | line =>
    have hline : Drawing.lineChart c.cut o = Drawing.lineChart c o :=
      Drawing.lineChart_cut (h (.inr ht))
    exact congrArg (Except.map Svg.Document.write) hline
  | pie | area | donut => rfl

/-- The hundred of the first series has no label and lies below the largest cell of the second. -/
theorem Chart.render_cut_low :
    let c : Chart :=
      { type := .line, labels := ["A", "B"], values := [1.0, 2.0]
        series := some [⟨"s", [1.0, 2.0, 100.0], none⟩, ⟨"t", [500.0], none⟩] }
    c.cut.series = some [⟨"s", [1.0, 2.0], none⟩, ⟨"t", [500.0], none⟩] ∧
      ∀ o, c.cut.render o = c.render o := by
  refine ⟨rfl, fun o => render_cut fun _ => ?_⟩
  decide +kernel

/-- All cells with a label are zeros, which cannot be scaled; the cell without one scales them. -/
theorem Chart.render_cut_hidden_scale :
    ∃ (c : Chart) (o : Options), c.cut.render o ≠ c.render o := by
  refine ⟨{ labels := ["A"], values := [0.0]
            series := some [⟨"s", [0.0, 5.0], none⟩, ⟨"t", [0.0], none⟩] }, .themed .dark, ?_⟩
  decide +kernel

end ChartText
