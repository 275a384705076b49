import ChartText.Layout.Scalar

/-! # The canvas and the plot area

The plot area is what is left of the canvas once the padding, the band of the title and, above
several series, the band of the legend are taken off. -/

namespace ChartText

structure Canvas (α : Type) where
  width : α
  height : α
  padding : α
deriving Repr, DecidableEq

/-- A rectangle, with vertical positions growing downwards. -/
structure PlotArea (α : Type) where
  left : α
  right : α
  top : α
  bottom : α
deriving Repr, DecidableEq

variable {α : Type} [Scalar α]

/-- The sides are positive numbers and the padding is not negative. -/
def Canvas.isDrawable (c : Canvas α) : Bool :=
  Scalar.isFinite c.width && (0.0 : α) < c.width &&
    (Scalar.isFinite c.height && (0.0 : α) < c.height) &&
    Scalar.isFinite c.padding && !decide (c.padding < (0.0 : α))

namespace PlotArea

def titleBand : α := 30.0

def legendBand : α := 25.0

def width (p : PlotArea α) : α :=
  p.right - p.left

def height (p : PlotArea α) : α :=
  p.bottom - p.top

/-- The plot area of a canvas, if anything is left. -/
def ofCanvas? (c : Canvas α) (withLegend : Bool) : Option (PlotArea α) :=
  let legend : α := if withLegend then legendBand else 0.0
  let plotHeight := c.height - c.padding * 2.0 - titleBand - legend
  let plot : PlotArea α :=
    { left := c.padding
      right := c.width - c.padding
      top := c.height - c.padding - plotHeight
      bottom := c.height - c.padding }
  if (0.0 : α) < plot.width ∧ (0.0 : α) < plot.height then some plot else none

/-- The height of a bar for a value on a scale from zero to `max`. Negative values have no bar. -/
def barHeight (p : PlotArea α) (value max : α) : α :=
  Scalar.positivePart (value / max * p.height)

/-- The vertical position of a value on a scale from zero to `max`. -/
def yFor (p : PlotArea α) (value max : α) : α :=
  p.bottom - p.barHeight value max

def middleX (p : PlotArea α) : α :=
  Scalar.mulAdd p.width 0.5 p.left

def middleY (p : PlotArea α) : α :=
  Scalar.mulAdd p.height 0.5 p.top

end PlotArea
end ChartText
