import ChartText.Drawing.Cartesian
import ChartText.Drawing.Radial

/-! # Drawing a chart

`Chart.drawing` is the drawing of a chart of any type, and `Chart.render` its text. -/

namespace ChartText

/-- Draws a chart as one of the given type. -/
def Chart.drawingAs (type : ChartType) (c : Chart) (o : Options) :
    Except RenderError Svg.Document :=
  match type with
  | .bar => Drawing.barChart c o
  | .line => Drawing.lineChart c o
  | .pie => Drawing.pieChart c o
  | .area => Drawing.areaChart c o
  | .donut => Drawing.donutChart c o

def Chart.drawing (c : Chart) (o : Options) : Except RenderError Svg.Document :=
  c.drawingAs c.type o

def Chart.renderAs (type : ChartType) (c : Chart) (o : Options) : Except RenderError String :=
  (c.drawingAs type o).map Svg.Document.write

def Chart.render (c : Chart) (o : Options) : Except RenderError String :=
  c.renderAs c.type o

end ChartText
