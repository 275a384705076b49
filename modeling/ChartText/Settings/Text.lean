import ChartText.Number.Numeral
import ChartText.Settings.Discovery
import ChartText.Text.Quote

/-! # Settings as text

The settings in effect, and the file that they come from, for the person at the terminal. -/

namespace ChartText

def settingLine (name : String) (value : Option String) : List String :=
  (value.map fun v => "  " ++ name ++ " = " ++ v).toList

def DrawingSettings.textLines (s : DrawingSettings) : List String :=
  settingLine "width" (plainNumber s.width) ++ settingLine "height" (plainNumber s.height) ++
    settingLine "padding" (plainNumber s.padding) ++
    settingLine "theme" ((s.theme.map Theme.name).getD "(from document, else dark)") ++
    settingLine "colors" (s.colors.map Text.quoteList) ++
    settingLine "background_color" s.backgroundColor ++ settingLine "text_color" s.textColor ++
    settingLine "grid_color" s.gridColor

def EmbeddingSettings.textLines (s : EmbeddingSettings) : List String :=
  settingLine "class_name" s.className ++ settingLine "languages" (Text.quoteList s.languages)

namespace LoadedSettings

def textLines (l : LoadedSettings) : List String :=
  ["=== Effective Configuration ===", "Source: " ++ l.source.getD "built-in defaults", "",
    "[render]"] ++ l.settings.drawing.textLines ++ ["", "[embed]"] ++
    l.settings.embedding.textLines

def text (l : LoadedSettings) : String :=
  String.join (l.textLines.map (· ++ "\n"))

end LoadedSettings
end ChartText
