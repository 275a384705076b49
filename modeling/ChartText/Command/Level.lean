import ChartText.Command
import ChartText.Number.Literal

/-! # What can be given to a command

Options, the values they take, and the options, inputs and commands that are known at each place of
the command line. -/

namespace ChartText

/-- Why arguments make no invocation. -/
inductive UsageFault
  | unknownArgument
  /-- A value is missing or is none of the possible ones. -/
  | invalidValue
  /-- A value is malformed. -/
  | malformedValue
  | unknownCommand
  | repeatedOption
  /-- An option without a value has one. -/
  | needlessValue
  | missingCommand
  /-- There are no arguments at all where a command is needed. -/
  | noArguments
  | help
  | version
deriving Repr, DecidableEq

/-- 0 if the user gets what was asked for. -/
def UsageFault.exitCode : UsageFault → Nat
  | help | version => 0
  | _ => 2

namespace Arguments

inductive Key
  /-- The argument without a name. -/
  | input
  | verbose
  | quiet
  | color
  | noConfig
  | help
  | version
  | config
  | output
  | format
  | ir
  | width
  | height
  | padding
  | theme
  | className
  | force
deriving Repr, DecidableEq

inductive Value
  | flag
  | text (s : String)
  | number (x : Float)
  | color (c : ColorChoice)
  | theme (t : Theme)
  | picture (f : PictureFormat)
  | settings (f : SettingsFormat)
deriving Repr, DecidableEq

abbrev ValueReader := String → Except UsageFault Value

namespace ValueReader

def anyText : ValueReader := fun s => .ok (.text s)

def path : ValueReader := fun s =>
  if s.isEmpty then .error .invalidValue else .ok (.text s)

def number : ValueReader := fun s =>
  match readFloat? s.toList with
  | some x => .ok (.number x)
  | none => .error .malformedValue

def picture : ValueReader := fun s =>
  match PictureFormat.ofName? s with
  | some f => .ok (.picture f)
  | none => .error .malformedValue

/-- One of some values, by its exact name. -/
def oneOf (values : List (String × Value)) : ValueReader := fun s =>
  match values.find? (·.1 == s) with
  | some (_, v) => .ok v
  | none => .error .invalidValue

def color : ValueReader :=
  oneOf ([ColorChoice.auto, .always, .never].map fun c => (c.name, .color c))

def theme : ValueReader :=
  oneOf ([Theme.dark, .light].map fun t => (t.name, .theme t))

def settings : ValueReader :=
  oneOf ([SettingsFormat.text, .json].map fun f => (f.name, .settings f))

end ValueReader

structure Switch where
  key : Key
  long : String
  short : Option Char := none
  /-- How the value is read, if the option has one. -/
  reader : Option ValueReader := none

/-- What is known at one place of the command line. -/
structure Level where
  switches : List Switch
  /-- How an input is read, if there can be one. -/
  input : Option ValueReader := none
  commands : List String := []

def commonSwitches : List Switch :=
  [{ key := .verbose, long := "verbose", short := some 'v' },
    { key := .quiet, long := "quiet", short := some 'q' },
    { key := .color, long := "color", reader := some .color },
    { key := .noConfig, long := "no-config" },
    { key := .help, long := "help", short := some 'h' }]

def outputSwitch : Switch :=
  { key := .output, long := "output", short := some 'o', reader := some .path }

def configSwitch : Switch :=
  { key := .config, long := "config", short := some 'c', reader := some .path }

def formatSwitch (reader : ValueReader) : Switch :=
  { key := .format, long := "format", short := some 'f', reader := some reader }

namespace Level

def root : Level where
  switches := commonSwitches ++ [{ key := .version, long := "version", short := some 'V' }]
  commands := ["parse", "render", "embed", "init", "config", "help"]

def parse : Level where
  switches := commonSwitches ++ [outputSwitch]
  input := some .path

def render : Level where
  switches := commonSwitches ++
    [configSwitch, outputSwitch, formatSwitch .picture, { key := .ir, long := "ir" },
      { key := .width, long := "width", reader := some .number },
      { key := .height, long := "height", reader := some .number },
      { key := .padding, long := "padding", reader := some .number },
      { key := .theme, long := "theme", reader := some .theme }]
  input := some .path

def embed : Level where
  switches := commonSwitches ++
    [configSwitch, outputSwitch,
      { key := .className, long := "class-name", reader := some .anyText }]
  input := some .path

def init : Level where
  switches := commonSwitches ++ [outputSwitch, { key := .force, long := "force" }]

def config : Level where
  switches := commonSwitches
  commands := ["validate", "show", "help"]

def validate : Level where
  switches := commonSwitches ++ [configSwitch]

def showing : Level where
  switches := commonSwitches ++ [configSwitch, formatSwitch .settings]

end Level

end Arguments
end ChartText
