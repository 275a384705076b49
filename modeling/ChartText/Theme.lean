import ChartText.Chart
import ChartText.Text.Blank
import ChartText.Text.Case

/-! # Themes

A theme fixes the colours that neither a document nor the settings choose. -/

namespace ChartText

inductive Theme
  | dark
  | light
deriving Repr, DecidableEq, Inhabited

namespace Theme

def name : Theme → String
  | dark => "dark"
  | light => "light"

def palette : Theme → List String
  | dark => ["#89b4fa", "#a6e3a1", "#f9e2af", "#f38ba8", "#cba6f7", "#fab387", "#94e2d5", "#f5c2e7"]
  | light => ["#1e66f5", "#40a02b", "#df8e1d", "#d20f39", "#8839ef", "#fe640b", "#179299", "#ea76cb"]

def backgroundColor : Theme → String
  | dark => "#1e1e2e"
  | light => "#eff1f5"

def textColor : Theme → String
  | dark => "#cdd6f4"
  | light => "#4c4f69"

def gridColor : Theme → String
  | dark => "#313244"
  | light => "#ccd0da"

def mutedColor : Theme → String
  | dark => "#6c7086"
  | light => "#8c8fa1"

/-- The theme with a name, whatever its case and the blanks around it. -/
def ofName? (name : String) : Option Theme :=
  let key := Text.lower (Text.trim name.toList)
  if key == "dark".toList then some dark
  else if key == "light".toList then some light
  else none

def unknownMessage (name : String) : String :=
  "unknown theme '" ++ String.ofList (Text.lower (Text.trim name.toList)) ++
    "' (expected dark or light)"

end Theme

/-- The theme that a document asks for, if it asks for one that exists. -/
def Chart.theme? (c : Chart) : Option Theme :=
  (c.hints.bind (·.theme)).bind Theme.ofName?

/-- Why the theme that a document asks for is ignored, if it is. -/
def Chart.ignoredTheme? (c : Chart) : Option String :=
  (c.hints.bind (·.theme)).bind fun name =>
    match Theme.ofName? name with
    | some _ => none
    | none => some (Theme.unknownMessage name)

end ChartText
