import ChartText.Drawing
import ChartText.Proofs.Source.FirstValues

/-! # Charts that draw one series

Area, pie and donut charts are drawn from the values of a chart alone. Bar and line charts see its
series through `Chart.multiSeries?`, and so only if there are at least two of them. What is not seen
can be left out (`Chart.render_replaceSeries`), and a pie of a document with several columns is the
pie of its first column (`Chart.render_alone`). -/

namespace ChartText

/-- Charts of this type show the values and no other series. -/
def ChartType.IsAlone (type : ChartType) : Prop :=
  type = .area ∨ type = .pie ∨ type = .donut

namespace Chart

/-- The chart with other series. -/
def replaceSeries (c : Chart) (series : Option (List Series)) : Chart :=
  { c with series }

theorem multiSeries?_eq_none {c : Chart} {ss : List Series} (hc : c.series = some ss)
    (hfew : ss.length ≤ 1) : c.multiSeries? = none := by
  rw [multiSeries?, hc]
  match ss, hfew with
  | [], _ | [_], _ => rfl

end Chart

namespace Drawing
variable {c : Chart} {o : Options} {series : Option (List Series)}

/-! ### Charts of the values -/

theorem areaChart_replaceSeries : areaChart (c.replaceSeries series) o = areaChart c o := rfl

theorem radialChart_replaceSeries (hole : Option Float) :
    radialChart hole (c.replaceSeries series) o = radialChart hole c o := rfl

/-! ### Charts of several series -/

section
variable (hsame : (c.replaceSeries series).multiSeries? = c.multiSeries?)
include hsame

theorem scaledValues_replaceSeries : scaledValues (c.replaceSeries series) = scaledValues c := by
  rw [scaledValues, hsame, scaledValues]
  rfl

theorem seriesLegend_replaceSeries : seriesLegend (c.replaceSeries series) o = seriesLegend c o := by
  rw [seriesLegend, hsame, seriesLegend]
  rfl

theorem bars_replaceSeries (plot : PlotArea Float) (max : Float) :
    bars (c.replaceSeries series) o plot max = bars c o plot max := by
  rw [bars, hsame, bars]
  rfl

theorem lines_replaceSeries (plot : PlotArea Float) (max : Float) :
    lines (c.replaceSeries series) o plot max = lines c o plot max := by
  rw [lines, hsame, lines]
  rfl

theorem barChart_replaceSeries : barChart (c.replaceSeries series) o = barChart c o := by
  unfold barChart
  rw [scaledValues_replaceSeries hsame, seriesLegend_replaceSeries hsame, hsame]
  simp only [bars_replaceSeries hsame]
  rfl

theorem lineChart_replaceSeries : lineChart (c.replaceSeries series) o = lineChart c o := by
  unfold lineChart
  rw [scaledValues_replaceSeries hsame, seriesLegend_replaceSeries hsame, hsame]
  simp only [lines_replaceSeries hsame]
  rfl

end

end Drawing

namespace Chart

variable {c : Chart} {o : Options} {series : Option (List Series)}

/-- What a chart of this type does not see of the series does not show. -/
theorem drawing_replaceSeries
    (h : c.type.IsAlone ∨ (c.replaceSeries series).multiSeries? = c.multiSeries?) :
    (c.replaceSeries series).drawing o = c.drawing o := by
  show (c.replaceSeries series).drawingAs c.type o = c.drawingAs c.type o
  cases ht : c.type with
  | area => exact Drawing.areaChart_replaceSeries
  | pie => exact Drawing.radialChart_replaceSeries none
  | donut => exact Drawing.radialChart_replaceSeries (some Drawing.donutHole)
  | bar =>
    rcases h with halone | hsame
    · simp [ht, ChartType.IsAlone] at halone
    · exact Drawing.barChart_replaceSeries hsame
  | line =>
    rcases h with halone | hsame
    · simp [ht, ChartType.IsAlone] at halone
    · exact Drawing.lineChart_replaceSeries hsame

theorem render_replaceSeries
    (h : c.type.IsAlone ∨ (c.replaceSeries series).multiSeries? = c.multiSeries?) :
    (c.replaceSeries series).render o = c.render o :=
  congrArg (Except.map Svg.Document.write) (drawing_replaceSeries h)

/-- Area, pie and donut charts do not depend on the series at all, and bar and line charts not on
series that are fewer than two. So an area, pie or donut chart of a document is that of the document
in which every row is cut to its first value. -/
theorem render_alone :
    (∀ (c : Chart) (o : Options) (series : Option (List Series)), c.type.IsAlone →
      (c.replaceSeries series).render o = c.render o) ∧
    (∀ (c : Chart) (o : Options) (ss : List Series), c.type = .bar ∨ c.type = .line →
      c.series = some ss → ss.length ≤ 1 → (c.replaceSeries none).render o = c.render o) ∧
    ∀ (v : Source.Vocabulary) (source : String) (c : Chart) (o : Options),
      Source.parse v source = .ok c → c.type.IsAlone →
        ∃ d, Source.parse v (Source.firstValues v source) = .ok d ∧ d.series = none ∧
          d.render o = c.render o := by
  refine ⟨fun c o series halone => render_replaceSeries (.inl halone),
    fun c o ss _ hseries hfew => render_replaceSeries (.inr ?_),
    fun v source c o hc halone => ⟨c.replaceSeries none, ?_, rfl, ?_⟩⟩
  · rw [multiSeries?_eq_none hseries hfew]
    rfl
  · exact Source.parse_firstValues_eq hc
  · exact render_replaceSeries (.inl halone)

/-- A document of a pie with two columns, and a bar chart with one series of other values. -/
theorem render_alone_columns :
    (∃ c d, Source.parse .standard "Type: pie\nLegend: a, b\nA: $1,200, 2\nTitle: 3" = .ok c ∧
      Source.firstValues .standard "Type: pie\nLegend: a, b\nA: $1,200, 2\nTitle: 3" =
        "Type: pie\nLegend: a, b\nA: $1,200\nTitle: 3" ∧
      Source.parse .standard "Type: pie\nLegend: a, b\nA: $1,200\nTitle: 3" = .ok d ∧
      c.multiSeries?.isSome = true ∧ ∀ o, d.render o = c.render o) ∧
    let c : Chart :=
      { labels := ["A"], values := [1.0], series := some [⟨"s", [5.0, 6.0], some "red"⟩] }
    ∀ o, (c.replaceSeries none).render o = c.render o := by
  constructor
  · have hc : Source.parse .standard "Type: pie\nLegend: a, b\nA: $1,200, 2\nTitle: 3" =
        .ok { type := .pie, labels := ["A", "Title"], values := [1200.0, 3.0]
              series := some [⟨"a", [1200.0, 3.0], none⟩, ⟨"b", [2.0, 0.0], none⟩] } := by
      decide +kernel
    have hfirst : Source.firstValues .standard "Type: pie\nLegend: a, b\nA: $1,200, 2\nTitle: 3" =
        "Type: pie\nLegend: a, b\nA: $1,200\nTitle: 3" := by
      decide +kernel
    obtain ⟨d, hd, -, -⟩ := render_alone.2.2 _ _ _ (.themed .dark) hc (.inr (.inl rfl))
    refine ⟨_, d, hc, hfirst, hfirst ▸ hd, rfl, fun o => ?_⟩
    obtain ⟨d', hd', -, hsame⟩ := render_alone.2.2 _ _ _ o hc (.inr (.inl rfl))
    rw [hd, Except.ok.injEq] at hd'
    rw [hd', hsame]
  · exact fun o => render_alone.2.1 _ o _ (.inl rfl) rfl (Nat.le_refl 1)

end Chart

end ChartText
