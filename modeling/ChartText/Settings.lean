import ChartText.Options

/-! # Settings

What a user fixes for all documents: how charts are drawn, and how they are embedded. -/

namespace ChartText

structure DrawingSettings where
  width : Float := 500.0
  height : Float := 300.0
  padding : Float := 60.0
  theme : Option Theme := none
  colors : Option (List String) := none
  backgroundColor : Option String := none
  textColor : Option String := none
  gridColor : Option String := none
deriving Repr, DecidableEq

structure EmbeddingSettings where
  /-- The class of the element around an embedded chart. -/
  className : String := "plainviz-chart"
  languages : List String := ["plainviz", "pv"]
deriving Repr, DecidableEq

structure Settings where
  drawing : DrawingSettings := {}
  embedding : EmbeddingSettings := {}
deriving Repr, DecidableEq

namespace DrawingSettings

def canvas (s : DrawingSettings) : Canvas Float :=
  ⟨s.width, s.height, s.padding⟩

/-- The theme of the settings goes before the document's, and charts are dark if neither has one. -/
def resolvedTheme (s : DrawingSettings) (documentTheme : Option Theme) : Theme :=
  (s.theme <|> documentTheme).getD .dark

/-- The options for a document that asks for a theme or for none. The colours of the settings go
before those of the theme. -/
def options (s : DrawingSettings) (documentTheme : Option Theme) : Options :=
  let themed := Options.themedOn s.canvas (s.resolvedTheme documentTheme)
  { themed.withColors (s.colors.getD []) with
    backgroundColor := s.backgroundColor.getD themed.backgroundColor
    textColor := s.textColor.getD themed.textColor
    gridColor := s.gridColor.getD themed.gridColor }

def optionsFor (s : DrawingSettings) (c : Chart) : Options :=
  s.options c.theme?

end DrawingSettings
end ChartText
