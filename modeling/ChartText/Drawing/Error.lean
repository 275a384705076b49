import ChartText.Chart
import ChartText.Layout.Canvas
import ChartText.Number.Numeral

/-! # Why a chart cannot be drawn -/

namespace ChartText

inductive RenderError
  | noData (chart : ChartType)
  | mismatchedLengths (chart : ChartType) (labels values : Nat)
  | nonPositiveScale (chart : ChartType) (max : Float)
  | nonPositiveTotal (chart : ChartType) (total : Float)
  | negativeSlice (chart : ChartType) (label : String) (value : Float)
  | canvasTooSmall (canvas : Canvas Float)
deriving Repr, DecidableEq

namespace RenderError

def message : RenderError → String
  | noData chart => chart.name ++ " chart has no data points"
  | mismatchedLengths chart labels values =>
    chart.name ++ " chart has " ++ toString labels ++ " labels but " ++ toString values ++ " values"
  | nonPositiveScale chart max =>
    "Cannot scale " ++ chart.name ++ " chart: largest value is " ++ plainNumber max
  | nonPositiveTotal chart total =>
    "Cannot slice " ++ chart.name ++ " chart: values sum to " ++ plainNumber total
  | negativeSlice chart label value =>
    chart.name ++ " slice \"" ++ label ++ "\" has negative value " ++ plainNumber value
  | canvasTooSmall c =>
    "Canvas " ++ plainNumber c.width ++ "x" ++ plainNumber c.height ++ " with padding " ++
      plainNumber c.padding ++ " leaves no room to draw"

end RenderError
end ChartText
