import ChartText.Drawing.Error
import ChartText.Options
import ChartText.Svg.Document

/-! # The frame of a chart

What the charts share: the checks of a chart's data, the document with its title, the legend, the
gridlines, the axes, the category labels and the captions of the axes. -/

namespace ChartText.Drawing

open Svg (Element)

/-! ### Checks -/

/-- A chart needs a label, and a value for every label. -/
def checkLengths (c : Chart) : Except RenderError Unit :=
  if c.labels.isEmpty then .error (.noData c.type)
  else if c.values.length ≠ c.labels.length then
    .error (.mismatchedLengths c.type c.labels.length c.values.length)
  else .ok ()

/-- The largest value, which has to be positive. -/
def scaleMax (type : ChartType) (values : List Float) : Except RenderError Float :=
  let max := (Scalar.largest? values).getD (Binary64.infinity true)
  if max.isFinite && 0.0 < max then .ok max else .error (.nonPositiveScale type max)

/-- The values that share a scale: those of all series if there are several. -/
def scaledValues (c : Chart) : List Float :=
  match c.multiSeries? with
  | some series => series.flatMap Series.values
  | none => c.values

def plotArea (o : Options) (withLegend : Bool) : Except RenderError (PlotArea Float) :=
  match PlotArea.ofCanvas? o.canvas withLegend with
  | some plot => .ok plot
  | none => .error (.canvasTooSmall o.canvas)

/-! ### The document -/

def nonEmpty (s : Option String) : Option String :=
  s.filter (!·.isEmpty)

def titleBaseline : Float := 25.0

def titleLabel (o : Options) (title : String) : Element :=
  .label
    { position := ⟨o.canvas.width / 2.0, titleBaseline⟩
      text := title
      color := o.textColor
      fontSize := 16.0
      bold := true }

def document (c : Chart) (o : Options) (elements : List Element) :
    Except RenderError Svg.Document :=
  if o.canvas.isDrawable then
    .ok
      { width := o.canvas.width
        height := o.canvas.height
        title := (nonEmpty c.title).getD ""
        description := (nonEmpty c.subtitle).getD ""
        background := some o.backgroundColor
        elements := ((nonEmpty c.title).map (titleLabel o)).toList ++ elements }
  else .error (.canvasTooSmall o.canvas)

/-! ### Labels -/

/-- A number rounded to an integer, as far as a 64-bit integer goes. Rounded zeros have no sign. -/
def tickLabel (x : Float) : String :=
  if x.isNaN then "0"
  else
    let limit : Int := (Nat.pow 2 63 : Nat)
    let n : Int :=
      if x.isInf then (if Binary64.isNegative x then -limit else limit)
      else Binary64.roundHalfAway x
    toString (max (-limit) (min n (limit - 1)))

def percentLabel (value total : Float) : String :=
  tickLabel (value / total * 100.0)

def categoryLabel (o : Options) (position : Point Float) (text : String) : Element :=
  .label { position, text, color := o.mutedColor }

/-! ### Around the plot area -/

def legendBaseline : Float := 45.0

def legendItemWidth : Float := 80.0

/-- A row of swatches with the names of the series, centred on the canvas. -/
def legend (o : Options) (entries : List (String × String)) : List Element :=
  let start := (o.canvas.width - Float.ofNat entries.length * legendItemWidth) / 2.0
  entries.zipIdx.flatMap fun ((name, color), i) =>
    let x := Binary64.mulAdd (Float.ofNat i) legendItemWidth start
    [.swatch { corner := ⟨x, legendBaseline - 8.0⟩, size := 12.0, color },
      .label { position := ⟨x + 16.0, legendBaseline⟩, text := name, color := o.textColor,
               anchor := .start }]

def seriesLegend (c : Chart) (o : Options) : List Element :=
  match c.multiSeries? with
  | some series => legend o (series.zipIdx.map fun (s, i) => (s.name, c.seriesColor o s i))
  | none => []

def gridlineCount : Nat := 4

/-- Dashed lines at the quarters of the scale, labelled on the left. -/
def gridlines (o : Options) (plot : PlotArea Float) (max : Float) : List Element :=
  (List.range' 1 gridlineCount).flatMap fun step =>
    let fraction := Float.ofNat step / Float.ofNat gridlineCount
    let y := Binary64.mulAdd fraction (-plot.height) plot.bottom
    [.rule { start := ⟨plot.left, y⟩, stop := ⟨plot.right, y⟩, stroke := o.gridColor,
             dashed := true },
      .label { position := ⟨plot.left - 8.0, y + 4.0⟩, text := tickLabel (max * fraction),
               color := o.mutedColor, anchor := .stop }]

def axes (o : Options) (plot : PlotArea Float) : List Element :=
  [.rule { start := ⟨plot.left, plot.top⟩, stop := ⟨plot.left, plot.bottom⟩,
           stroke := o.gridColor, dashed := false },
    .rule { start := ⟨plot.left, plot.bottom⟩, stop := ⟨plot.right, plot.bottom⟩,
            stroke := o.gridColor, dashed := false }]

/-- The labels of the chart under the plot area, at the horizontal positions of `x`. -/
def categoryLabels (c : Chart) (o : Options) (plot : PlotArea Float) (x : Nat → Float) :
    List Element :=
  c.labels.zipIdx.map fun (label, i) => categoryLabel o ⟨x i, plot.bottom + 18.0⟩ label

def captions (c : Chart) (o : Options) (plot : PlotArea Float) : List Element :=
  let below := (c.hints.bind (·.xAxis)).map fun caption =>
    categoryLabel o ⟨plot.middleX, plot.bottom + 40.0⟩ caption
  let beside := (c.hints.bind (·.yAxis)).map fun caption =>
    Element.label
      { position := ⟨plot.left - 45.0, plot.middleY⟩, text := caption, color := o.mutedColor,
        centered := true, rotation := some (-90.0) }
  below.toList ++ beside.toList

end ChartText.Drawing
