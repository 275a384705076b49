import ChartText.Layout.Canvas
import ChartText.Theme

/-! # Drawing options

Everything that a drawing depends on besides its chart: the canvas and the colours. -/

namespace ChartText

structure Options where
  canvas : Canvas Float
  /-- The colours of series and slices, used in turn. -/
  colors : List String
  backgroundColor : String
  textColor : String
  gridColor : String
  /-- The colour of tick labels, category labels and captions. -/
  mutedColor : String
deriving Repr, DecidableEq

namespace Options

def defaultCanvas : Canvas Float := ⟨500.0, 300.0, 60.0⟩

def themedOn (canvas : Canvas Float) (theme : Theme) : Options where
  canvas
  colors := theme.palette
  backgroundColor := theme.backgroundColor
  textColor := theme.textColor
  gridColor := theme.gridColor
  mutedColor := theme.mutedColor

def themed (theme : Theme) : Options :=
  themedOn defaultCanvas theme

def withSize (o : Options) (width height : Float) : Options :=
  { o with canvas := { o.canvas with width, height } }

def withPadding (o : Options) (padding : Float) : Options :=
  { o with canvas := { o.canvas with padding } }

/-- An empty list of colours changes nothing. -/
def withColors (o : Options) (colors : List String) : Options :=
  if colors.isEmpty then o else { o with colors }

end Options

/-- Colours by position, starting over at the end of the list. -/
def paletteColor (colors : List String) (i : Nat) : String :=
  let palette := if colors.isEmpty then Theme.dark.palette else colors
  palette[i % palette.length]?.getD ""

/-- The colour of position `i`: the document's own palette goes before the options' one. -/
def Chart.color (c : Chart) (o : Options) (i : Nat) : String :=
  paletteColor (c.customColors?.getD o.colors) i

/-- A series has its own colour or that of its position. -/
def Chart.seriesColor (c : Chart) (o : Options) (s : Series) (i : Nat) : String :=
  s.color.getD (c.color o i)

end ChartText
