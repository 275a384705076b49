import ChartText.Proofs.Drawing.Positive
import ChartText.Proofs.Layout.Reading

/-! # Where a drawing has its marks

The bars, lines and markers of a drawing are those of the layout of its cells (`Drawn.dataMarks`).
The layout is written for any kind of number, so it can be read over the rationals: there every mark
is inside the plot area and no bar overlaps another one (`Chart.drawingAs_placed`). -/

namespace ChartText

open Svg (Element)

/-- The cells that a chart shows if it is drawn as one of the given type. -/
def Chart.cells (type : ChartType) (c : Chart) : Cells Float :=
  match type with
  | .bar | .line =>
    match c.multiSeries? with
    | some series => .grouped (series.map Series.values)
    | none => .single c.values
  | _ => .single c.values

/-- What shows the data of a chart with axes. -/
inductive DataMark (α : Type)
  | bar (value : α) (shape : Rectangle α)
  | path (points : List (Point α))
  | dot (center : Point α)

/-- The marks of cells over `count` labels, in the order in which they are drawn. -/
def Scale.marks {α : Type} [Scalar α] (s : Scale α) (type : ChartType) (count : Nat)
    (cells : Cells α) : List (DataMark α) :=
  match type with
  | .bar => (s.bars count cells).map fun (value, shape) => .bar value shape
  | .line =>
    (s.paths count cells).flatMap fun path =>
      .path (path.map Prod.snd) :: path.map fun (_, p) => .dot p
  | _ => (s.paths count cells).map fun path => .path (path.map Prod.snd)

namespace Drawing
variable {c : Chart} {o : Options} {plot : PlotArea Float} {max : Float}

def dataMark? : Element → Option (DataMark Float)
  | .bar b => some (.bar b.value b.shape)
  | .line l => some (.path l.points)
  | .marker m => some (.dot m.center)
  | _ => none

def dataMarks (elements : List Element) : List (DataMark Float) :=
  elements.filterMap dataMark?

theorem dataMarks_append (es fs : List Element) :
    dataMarks (es ++ fs) = dataMarks es ++ dataMarks fs :=
  List.filterMap_append

theorem dataMarks_flatMap {α : Type} (s : List α) (f : α → List Element) :
    dataMarks (s.flatMap f) = s.flatMap fun a => dataMarks (f a) :=
  List.filterMap_flatMap

theorem dataMarks_eq_nil {es : List Element} (h : ∀ e ∈ es, dataMark? e = none) :
    dataMarks es = [] :=
  List.filterMap_eq_nil_iff.mpr h

theorem dataMarks_map {α : Type} {s : List α} {f : α → Element} {g : α → DataMark Float}
    (h : ∀ a, dataMark? (f a) = some (g a)) : dataMarks (s.map f) = s.map g := by
  rw [dataMarks, List.filterMap_map, ← List.filterMap_eq_map]
  exact congrArg (s.filterMap ·) (funext h)

/-! ### Around the marks -/

theorem dataMarks_seriesLegend : dataMarks (seriesLegend c o) = [] := by
  unfold seriesLegend
  cases c.multiSeries? with
  | none => rfl
  | some series =>
    change dataMarks (legend o _) = []
    rw [legend, dataMarks_flatMap]
    exact List.flatMap_eq_nil_iff.mpr fun _ _ => rfl

theorem dataMarks_framed (marks : List Element) (x : Nat → Float) :
    dataMarks (framed c o plot max marks x) = dataMarks marks := by
  have hgridlines : dataMarks (gridlines o plot max) = [] := by
    rw [gridlines, dataMarks_flatMap]
    exact List.flatMap_eq_nil_iff.mpr fun _ _ => rfl
  have haxes : dataMarks (axes o plot) = [] := rfl
  have hlabels : dataMarks (categoryLabels c o plot x) = [] :=
    dataMarks_eq_nil (List.forall_mem_map.mpr fun _ _ => rfl)
  have hcaptions : dataMarks (captions c o plot) = [] := by
    unfold captions
    rw [dataMarks_append]
    cases c.hints.bind (·.xAxis) <;> cases c.hints.bind (·.yAxis) <;> rfl
  rw [framed, dataMarks_append, dataMarks_append, dataMarks_append, dataMarks_append, hgridlines,
    haxes, hlabels, hcaptions, List.append_nil, List.append_nil, List.nil_append, List.nil_append]

/-! ### The marks -/

theorem dataMarks_singleBars (hlength : c.values.length = c.labels.length) :
    dataMarks (singleBars c o plot max) =
      (Scale.mk plot max).marks .bar c.labels.length (.single c.values) := by
  have hvalues : (c.labels.zip c.values).map Prod.snd = c.values :=
    List.map_snd_zip hlength.le
  have hmarks : dataMarks (singleBars c o plot max) =
      (c.labels.zip c.values).zipIdx.map fun p =>
        .bar p.1.2 ((Slots.of plot c.labels.length).bar plot max p.2 p.1.2) := by
    rw [singleBars, dataMarks_flatMap, List.map_eq_flatMap]
    rfl
  rw [hmarks, Scale.marks, Scale.bars]
  conv => rhs; rw [← hvalues, List.zipIdx_map, List.map_map, List.map_map]
  rfl

theorem dataMarks_groupedBars (series : List Series) :
    dataMarks (groupedBars c o plot max series) =
      (Scale.mk plot max).marks .bar c.labels.length (.grouped (series.map Series.values)) := by
  have hindices : List.range c.labels.length = c.labels.zipIdx.map Prod.snd := by
    rw [List.zipIdx_map_snd, List.range_eq_range']
  rw [groupedBars, dataMarks_flatMap, Scale.marks, Scale.bars, hindices, List.flatMap_map,
    List.map_flatMap]
  refine List.flatMap_congr fun entry _ => (dataMarks_map fun _ => rfl).trans ?_
  rw [List.zipIdx_map, List.map_map, List.map_map, List.length_map]
  rfl

theorem dataMarks_bars (hlength : c.values.length = c.labels.length) :
    dataMarks (bars c o plot max) =
      (Scale.mk plot max).marks .bar c.labels.length (c.cells .bar) := by
  unfold bars Chart.cells
  cases c.multiSeries? with
  | none => exact dataMarks_singleBars hlength
  | some series => exact dataMarks_groupedBars series

theorem dataMarks_line (l : Svg.Line) (es : List Element) :
    dataMarks (.line l :: es) = .path l.points :: dataMarks es := rfl

theorem map_snd_path (values : List Float) :
    ((Scale.mk plot max).path values).map Prod.snd = plot.points max values := by
  rw [Scale.path, List.map_map]
  rfl

theorem map_dot_path (values : List Float) :
    (((Scale.mk plot max).path values).map fun (_, p) => DataMark.dot p) =
      (plot.points max values).map .dot := by
  rw [← map_snd_path, List.map_map]
  rfl

theorem dataMarks_singleLine :
    dataMarks (singleLine c o plot max) =
      (Scale.mk plot max).marks .line c.labels.length (.single c.values) := by
  have hpoints : ((plot.points max c.values).zip c.values).map Prod.fst = plot.points max c.values :=
    List.map_fst_zip (by simp [PlotArea.points])
  have hdots : (plot.points max c.values).map DataMark.dot =
      ((plot.points max c.values).zip c.values).flatMap fun entry => [.dot entry.1] := by
    conv => lhs; rw [← hpoints, List.map_map, List.map_eq_flatMap]
    rfl
  rw [singleLine, dataMarks_line, dataMarks_flatMap, Scale.marks, Scale.paths,
    List.flatMap_singleton, map_snd_path, map_dot_path, hdots]
  rfl

theorem dataMarks_seriesLines (series : List Series) :
    dataMarks (seriesLines c o plot max series) =
      (Scale.mk plot max).marks .line c.labels.length (.grouped (series.map Series.values)) := by
  have hseries : series.map Series.values = series.zipIdx.map (Series.values ∘ Prod.fst) := by
    rw [← List.map_map, List.zipIdx_map_fst]
  rw [seriesLines, dataMarks_flatMap, Scale.marks, Scale.paths, hseries, List.map_map,
    List.flatMap_map]
  refine List.flatMap_congr fun entry _ => ?_
  change dataMarks (.line _ :: _) = .path (((Scale.mk plot max).path _).map Prod.snd) ::
    ((Scale.mk plot max).path _).map _
  rw [map_snd_path, map_dot_path, dataMarks_line, dataMarks_map fun _ => rfl]
  rfl

theorem dataMarks_lines :
    dataMarks (lines c o plot max) =
      (Scale.mk plot max).marks .line c.labels.length (c.cells .line) := by
  unfold lines Chart.cells
  cases c.multiSeries? with
  | none => exact dataMarks_singleLine
  | some series => exact dataMarks_seriesLines series

theorem dataMarks_areaElements :
    dataMarks (areaElements c o plot max) =
      (Scale.mk plot max).marks .area c.labels.length (c.cells .area) := by
  change [DataMark.path (plot.points max c.values)] =
    [.path (((Scale.mk plot max).path c.values).map Prod.snd)]
  rw [map_snd_path]

/-! ### Drawings -/

theorem all_cells : (c.cells .bar).all = scaledValues c := by
  unfold Chart.cells scaledValues
  cases c.multiSeries? with
  | none => rfl
  | some series => exact List.flatMap_def.symm

theorem isGrouped_cells : (c.cells .bar).isGrouped = c.multiSeries?.isSome := by
  unfold Chart.cells
  cases c.multiSeries? <;> rfl

theorem fits_cells (type : ChartType) (hlength : c.values.length = c.labels.length) :
    (c.cells type).Fits c.labels.length := by
  unfold Chart.cells
  cases type with
  | bar | line =>
    cases c.multiSeries? with
    | none => exact hlength
    | some series => trivial
  | pie | area | donut => exact hlength

theorem plotArea_eq_ok_iff {withLegend : Bool} :
    plotArea o withLegend = .ok plot ↔ PlotArea.ofCanvas? o.canvas withLegend = some plot := by
  unfold plotArea
  cases PlotArea.ofCanvas? o.canvas withLegend <;> simp

theorem scaleMax_eq_ok_iff {type : ChartType} {values : List Float} :
    scaleMax type values = .ok max ↔
      Scalar.largest? values = some max ∧ (max.isFinite && 0.0 < max) = true := by
  unfold scaleMax
  cases Scalar.largest? values with
  | none =>
    have hinfinite : ((Binary64.infinity true).isFinite && decide (0.0 < Binary64.infinity true)) =
        false := by decide
    simp [hinfinite]
  | some m =>
    simp only [Option.getD_some, Option.some.injEq]
    split
    · next hm =>
      rw [Except.ok.injEq]
      exact ⟨fun h => ⟨h, h ▸ hm⟩, And.left⟩
    · next hm =>
      simp only [reduceCtorEq, false_iff, not_and]
      exact fun h => h ▸ hm

theorem Scaled.scale_of? {cells : Cells Float} (h : Scaled c o cells.all cells.isGrouped plot max)
    (hcanvas : o.canvas.isDrawable = true) : Scale.of? o.canvas cells = some ⟨plot, max⟩ := by
  obtain ⟨hlargest, hmax⟩ := scaleMax_eq_ok_iff.mp h.scale
  rw [Scale.of?, hlargest, plotArea_eq_ok_iff.mp h.area]
  exact if_pos (by rw [hcanvas]; exact hmax)

theorem Drawn.lengths {elements : List Element} (h : Drawn c o elements) :
    checkLengths c = .ok () := by
  cases h with
  | bar type scaled | line type scaled | area type scaled => exact scaled.lengths
  | radial type share => exact (slices_eq_ok_iff.mp share).1

theorem dataMarks_page (elements : List Element) :
    dataMarks (page c o elements).elements = dataMarks elements := by
  have htitle : dataMarks ((nonEmpty c.title).map (titleLabel o)).toList = [] := by
    cases nonEmpty c.title <;> rfl
  rw [page, dataMarks_append, htitle, List.nil_append]

theorem Drawn.dataMarks_eq {elements : List Element} (h : Drawn c o elements)
    (haxes : HasAxes c.type) (hcanvas : o.canvas.isDrawable = true) :
    ∃ s, Scale.of? o.canvas (c.cells c.type) = some s ∧
      dataMarks elements = s.marks c.type c.labels.length (c.cells c.type) := by
  cases h with
  | @bar plot max type scaled =>
    have hlength := (checkLengths_eq_ok_iff.mp scaled.lengths).2
    rw [← all_cells, ← isGrouped_cells] at scaled
    rw [type]
    refine ⟨⟨plot, max⟩, scaled.scale_of? hcanvas, ?_⟩
    rw [dataMarks_append, dataMarks_seriesLegend, dataMarks_framed, dataMarks_bars hlength]
    rfl
  | @line plot max type scaled =>
    rw [← all_cells, ← isGrouped_cells] at scaled
    rw [type]
    refine ⟨⟨plot, max⟩, scaled.scale_of? hcanvas, ?_⟩
    rw [dataMarks_append, dataMarks_seriesLegend, dataMarks_framed, dataMarks_lines]
    rfl
  | @area plot max type scaled =>
    rw [type]
    refine ⟨⟨plot, max⟩, Scaled.scale_of? scaled hcanvas, ?_⟩
    rw [dataMarks_framed, dataMarks_areaElements]
  | @radial hole slices type =>
    exfalso
    generalize c.type = type' at type haxes
    cases type with
    | pie | donut => exact haxes

end Drawing

open Binary64 Drawing

theorem Chart.drawingAs_eq_ok_iff {type : ChartType} {c : Chart} {o : Options} {d : Svg.Document} :
    c.drawingAs type o = .ok d ↔ ({ c with type } : Chart).drawing o = .ok d := by
  have hlengths : checkLengths c = .ok () ↔ checkLengths { c with type } = .ok () := by
    rw [checkLengths_eq_ok_iff, checkLengths_eq_ok_iff]
  unfold Chart.drawing Chart.drawingAs
  cases type with
  | bar | line | area =>
    simp only [barChart, lineChart, areaChart, bind_eq_ok_iff, scaleMax_eq_ok_iff,
      document_eq_ok_iff, hlengths]
    rfl
  | pie | donut =>
    simp only [pieChart, donutChart, radialChart_eq_ok_iff, slices_eq_ok_iff, hlengths]
    rfl

theorem Chart.forall_mem_cells {type : ChartType} {c : Chart} {p : Float → Prop}
    (h : ∀ x ∈ c.numbers, p x) : ∀ v ∈ (c.cells type).all, p v := by
  have hvalues : ∀ v ∈ c.values, p v := fun v hv => h v (List.mem_append_left _ hv)
  have hscaled : ∀ v ∈ (c.cells .bar).all, p v := by
    rw [all_cells]
    exact fun v hv => h v (@mem_numbers_of_mem_drawnValues { c with type := .bar } v hv)
  cases type with
  | bar | line => exact hscaled
  | pie | area | donut => exact hvalues

/-- A bar, line or area chart of finite numbers that can be drawn shows the marks of its layout, and
the layout can be read over the rationals. There the plot area is the canvas without the padding and
the bands, bars stand in it side by side, and the points of every line lie in it from left to
right. -/
theorem Chart.drawingAs_placed {type : ChartType} {c : Chart} {o : Options} {d : Svg.Document}
    (haxes : HasAxes type) (hfinite : ∀ x ∈ c.numbers, x.isFinite = true)
    (h : c.drawingAs type o = .ok d) :
    let cells := c.cells type
    (∃ s, Scale.of? o.canvas cells = some s ∧
      dataMarks d.elements = s.marks type c.labels.length cells) ∧
    ∃ s, Scale.of? (o.canvas.map toRat) (cells.map toRat) = some s ∧
      s.IsOn (o.canvas.map toRat) cells.isGrouped ∧ s.Reaches (cells.map toRat) ∧
      s.BarsPlaced (s.bars c.labels.length (cells.map toRat)) ∧
      ∀ path ∈ s.paths c.labels.length (cells.map toRat), s.PathPlaced path := by
  intro cells
  obtain ⟨hcanvas, elements, hdrawn, rfl⟩ := drawing_eq_ok_iff.mp (drawingAs_eq_ok_iff.mp h)
  obtain ⟨hne, hlength⟩ := checkLengths_eq_ok_iff.mp hdrawn.lengths
  obtain ⟨s, hs, hmarks⟩ := hdrawn.dataMarks_eq haxes hcanvas
  obtain ⟨t, ht, -⟩ := Scale.of?_toRat (forall_mem_cells hfinite) hs
  obtain ⟨-, hon, hreaches⟩ := Scale.of?_eq_some_iff.mp ht
  have hfits : (cells.map toRat).Fits c.labels.length :=
    (fits_cells type hlength).map toRat
  exact ⟨⟨s, hs, (dataMarks_page elements).trans hmarks⟩, t, ht,
    Cells.isGrouped_map toRat cells ▸ hon, hreaches,
    Scale.barsPlaced hon hreaches hfits (List.length_pos_iff.mpr hne),
    Scale.pathsPlaced hon hreaches⟩

/-- The bars of the three series are narrower than the gap after them, and one of the series has a
cell without a label. -/
theorem Chart.drawingAs_placed_narrow :
    let c : Chart :=
      { type := .pie, labels := ["A", "B"], values := [-1.0, 4.0]
        series := some [⟨"p", [-1.0, 4.0], none⟩, ⟨"q", [8.0], none⟩, ⟨"r", [0.0, 2.0, 1.0], none⟩] }
    let o := Options.themedOn ⟨35.0, 200.0, 10.0⟩ .dark
    ∃ d, c.drawingAs .bar o = .ok d ∧ (dataMarks d.elements).length = 6 ∧
      ∃ s, Scale.of? (o.canvas.map toRat) ((c.cells .bar).map toRat) = some s ∧
        s.BarsPlaced (s.bars 2 ((c.cells .bar).map toRat)) := by
  intro c o
  have hdrawn : (c.drawingAs .bar o).toOption.isSome = true := by decide +kernel
  have haxes : HasAxes .bar := trivial
  have hfinite : ∀ x ∈ c.numbers, x.isFinite = true := by decide
  cases h : c.drawingAs .bar o with
  | error e =>
    rw [h] at hdrawn
    cases hdrawn
  | ok d =>
    obtain ⟨⟨s, -, hmarks⟩, t, ht, -, -, hbars, -⟩ := drawingAs_placed haxes hfinite h
    refine ⟨d, rfl, ?_, t, ht, hbars⟩
    rw [hmarks]
    rfl

end ChartText
