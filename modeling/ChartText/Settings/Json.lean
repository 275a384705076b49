import ChartText.Json.Printer
import ChartText.Settings

/-! # Settings as JSON -/

namespace ChartText

def DrawingSettings.toJson (s : DrawingSettings) : Json :=
  .ofFields
    [("width", some (.ofFloat s.width)), ("height", some (.ofFloat s.height)),
      ("padding", some (.ofFloat s.padding)), ("theme", s.theme.map fun t => .ofString t.name),
      ("colors", s.colors.map Json.ofStrings),
      ("background_color", s.backgroundColor.map Json.ofString),
      ("text_color", s.textColor.map Json.ofString), ("grid_color", s.gridColor.map Json.ofString)]

def EmbeddingSettings.toJson (s : EmbeddingSettings) : Json :=
  .ofFields
    [("class_name", some (.ofString s.className)), ("languages", some (.ofStrings s.languages))]

def Settings.toJson (s : Settings) : Json :=
  .ofFields [("render", some s.drawing.toJson), ("embed", some s.embedding.toJson)]

end ChartText
