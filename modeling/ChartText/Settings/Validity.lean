import ChartText.Number.Numeral
import ChartText.Settings

/-! # Valid settings

Settings are valid if a canvas with its padding leaves room to draw, no colour is blank, and the
embedding has a class and languages. `Settings.fault?` is the first thing that is wrong. -/

namespace ChartText

inductive SettingsFault
  | badSide (name : String) (value : Float)
  | badPadding (value : Float)
  | noRoom (canvas : Canvas Float)
  | noColors
  | blankListedColor (position : Nat)
  | blankColor (name : String)
  | blankClassName
  | noLanguages
  | blankLanguage (position : Nat)
deriving Repr, DecidableEq

namespace SettingsFault

def message : SettingsFault → String
  | badSide name value =>
    "render." ++ name ++ " must be greater than 0, got " ++ plainNumber value
  | badPadding value => "render.padding must be 0 or greater, got " ++ plainNumber value
  | noRoom c =>
    "render.padding (" ++ plainNumber c.padding ++ ") leaves no room on a " ++
      plainNumber c.width ++ "x" ++ plainNumber c.height ++ " canvas"
  | noColors => "render.colors must not be empty when set"
  | blankListedColor position => "render.colors[" ++ toString position ++ "] is blank"
  | blankColor name => "render." ++ name ++ " is blank"
  | blankClassName => "embed.class_name must not be empty"
  | noLanguages => "embed.languages must list at least one language"
  | blankLanguage position => "embed.languages[" ++ toString position ++ "] is blank"

end SettingsFault

def isBlankText (s : String) : Bool :=
  Text.isAllBlank s.toList

namespace DrawingSettings

def sideFault? (name : String) (value : Float) : Option SettingsFault :=
  if value.isFinite && 0.0 < value then none else some (.badSide name value)

def paddingFault? (s : DrawingSettings) : Option SettingsFault :=
  if s.padding.isFinite && 0.0 ≤ s.padding then none else some (.badPadding s.padding)

/-- Twice the padding has to be less than the shorter side. -/
def roomFault? (s : DrawingSettings) : Option SettingsFault :=
  if Scalar.smaller s.width s.height ≤ s.padding * 2.0 then some (.noRoom s.canvas) else none

def colorsFault? : Option (List String) → Option SettingsFault
  | none => none
  | some [] => some .noColors
  | some colors => (colors.findIdx? isBlankText).map .blankListedColor

def colorFault? (name : String) (color : Option String) : Option SettingsFault :=
  if color.any isBlankText then some (.blankColor name) else none

def fault? (s : DrawingSettings) : Option SettingsFault :=
  sideFault? "width" s.width <|> sideFault? "height" s.height <|> s.paddingFault? <|>
    s.roomFault? <|> colorsFault? s.colors <|> colorFault? "background_color" s.backgroundColor <|>
    colorFault? "text_color" s.textColor <|> colorFault? "grid_color" s.gridColor

end DrawingSettings

def EmbeddingSettings.fault? (s : EmbeddingSettings) : Option SettingsFault :=
  if isBlankText s.className then some .blankClassName
  else if s.languages.isEmpty then some .noLanguages
  else (s.languages.findIdx? isBlankText).map .blankLanguage

namespace Settings

def fault? (s : Settings) : Option SettingsFault :=
  s.drawing.fault? <|> s.embedding.fault?

def IsValid (s : Settings) : Prop :=
  s.fault? = none

end Settings
end ChartText
