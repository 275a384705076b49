import ChartText.Drawing.Frame

/-! # Bar, line and area charts

The charts with axes. Bar and line charts draw every series of a chart that has several; an area
chart draws the chart's values alone. -/

namespace ChartText.Drawing

open Svg (Element)

/-- The elements of a chart between its gridlines and its captions. -/
def framed (c : Chart) (o : Options) (plot : PlotArea Float) (max : Float)
    (marks : List Element) (labelX : Nat → Float) : List Element :=
  gridlines o plot max ++ axes o plot ++ marks ++ categoryLabels c o plot labelX ++
    captions c o plot

/-! ### Bars -/

/-- A bar for every label, with its value above it. -/
def singleBars (c : Chart) (o : Options) (plot : PlotArea Float) (max : Float) : List Element :=
  let slots := Slots.of plot c.labels.length
  (c.labels.zip c.values).zipIdx.flatMap fun ((label, value), i) =>
    let shape := slots.bar plot max i value
    [.bar { shape, color := c.color o i, cornerRadius := 4.0, label, value },
      .label { position := ⟨slots.middle i, shape.y - 8.0⟩, text := plainNumber value,
               color := o.textColor }]

/-- A group of bars for every label, with a bar for every series. -/
def groupedBars (c : Chart) (o : Options) (plot : PlotArea Float) (max : Float)
    (series : List Series) : List Element :=
  let slots := Slots.of plot c.labels.length
  c.labels.zipIdx.flatMap fun (label, i) =>
    series.zipIdx.map fun (s, j) =>
      let value := s.values[i]?.getD 0.0
      .bar
        { shape := slots.groupedBar plot max series.length i j value
          color := c.seriesColor o s j
          cornerRadius := 2.0
          label := label ++ " (" ++ s.name ++ ")"
          value }

def bars (c : Chart) (o : Options) (plot : PlotArea Float) (max : Float) : List Element :=
  match c.multiSeries? with
  | some series => groupedBars c o plot max series
  | none => singleBars c o plot max

def barChart (c : Chart) (o : Options) : Except RenderError Svg.Document := do
  checkLengths c
  let max ← scaleMax c.type (scaledValues c)
  let plot ← plotArea o c.multiSeries?.isSome
  let slots := Slots.of plot c.labels.length
  document c o (seriesLegend c o ++ framed c o plot max (bars c o plot max) slots.middle)

/-! ### Lines -/

def marker (o : Options) (color : String) (radius : Float) (center : Point Float) : Element :=
  .marker { center, radius, fill := color, stroke := o.backgroundColor }

/-- A line with a marker and a value at every point. -/
def singleLine (c : Chart) (o : Options) (plot : PlotArea Float) (max : Float) : List Element :=
  let color := c.color o 0
  let points := plot.points max c.values
  .line { points, color, strokeWidth := 3.0 } ::
    (points.zip c.values).flatMap fun (p, value) =>
      [marker o color 5.0 p,
        .label { position := ⟨p.x, p.y - 12.0⟩, text := plainNumber value, color := o.textColor }]

/-- A line with markers for every series, each fitted to the labels. -/
def seriesLines (c : Chart) (o : Options) (plot : PlotArea Float) (max : Float)
    (series : List Series) : List Element :=
  series.zipIdx.flatMap fun (s, i) =>
    let color := c.seriesColor o s i
    let points := plot.points max (fitted c.labels.length s.values)
    .line { points, color } :: points.map (marker o color 4.0)

def lines (c : Chart) (o : Options) (plot : PlotArea Float) (max : Float) : List Element :=
  match c.multiSeries? with
  | some series => seriesLines c o plot max series
  | none => singleLine c o plot max

def lineChart (c : Chart) (o : Options) : Except RenderError Svg.Document := do
  checkLengths c
  let max ← scaleMax c.type (scaledValues c)
  let plot ← plotArea o c.multiSeries?.isSome
  document c o (seriesLegend c o ++
    framed c o plot max (lines c o plot max) fun i => plot.pointX i c.labels.length)

/-! ### Areas -/

def areaChart (c : Chart) (o : Options) : Except RenderError Svg.Document := do
  checkLengths c
  let max ← scaleMax c.type c.values
  let plot ← plotArea o false
  let area : Element :=
    .line { points := plot.points max c.values, color := c.color o 0,
            baseline := some plot.bottom }
  document c o (framed c o plot max [area] fun i => plot.pointX i c.labels.length)

end ChartText.Drawing
