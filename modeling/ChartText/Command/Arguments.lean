import ChartText.Command.Scan
import ChartText.Settings.Discovery

/-! # Arguments of the command line

`Invocation.ofArguments` reads the arguments of the program. Options stand before or after the
command they belong to, and some belong to every command. -/

namespace ChartText

namespace Arguments

abbrev Given := List (Key × Value)

namespace Given

def value? (g : Given) (key : Key) : Option Value :=
  (g.find? (·.1 == key)).map Prod.snd

def has (g : Given) (key : Key) : Bool :=
  (g.value? key).isSome

def text? (g : Given) (key : Key) : Option String :=
  match g.value? key with
  | some (.text s) => some s
  | _ => none

def number? (g : Given) (key : Key) : Option Float :=
  match g.value? key with
  | some (.number x) => some x
  | _ => none

def theme? (g : Given) : Option Theme :=
  match g.value? .theme with
  | some (.theme t) => some t
  | _ => none

def pictureFormat (g : Given) : PictureFormat :=
  match g.value? .format with
  | some (.picture f) => f
  | _ => .svg

def settingsFormat (g : Given) : SettingsFormat :=
  match g.value? .format with
  | some (.settings f) => f
  | _ => .text

/-- What an outer and an inner level give. How often the inner one asks for more to be logged takes
the place of how often the outer one does. -/
def inside (outer inner : Given) : Given :=
  outer.filter (fun entry => entry.1 ≠ .verbose || !inner.has .verbose) ++ inner

def verbosity (g : Given) : Nat :=
  g.countP (·.1 == .verbose)

/-- The last choice counts. -/
def color (g : Given) : ColorChoice :=
  match value? g.reverse .color with
  | some (.color c) => c
  | _ => .auto

def renderRequest (g : Given) : RenderRequest where
  input := g.text? .input
  settings := g.text? .config
  output := g.text? .output
  format := g.pictureFormat
  form := if g.has .ir then .json else .document
  width := g.number? .width
  height := g.number? .height
  padding := g.number? .padding
  theme := g.theme?

def embedRequest (g : Given) : EmbedRequest where
  input := g.text? .input
  settings := g.text? .config
  output := g.text? .output
  className := g.text? .className

def invocation (g : Given) (command : Command) : Invocation where
  verbosity := g.verbosity
  color := g.color
  quiet := g.has .quiet
  ignoresSettings := g.has .noConfig
  command

end Given

/-- What is given to a command that no other one follows. -/
def readLeaf (level : Level) (args : List String) : Except UsageFault Given := do
  let (p, _) ← scan level args {}
  return (← p.settle).given

/-- The answer to a request for help about a command, given by its name and those it follows. -/
def helpAbout : List String → UsageFault
  | [] => .help
  | ["config", name] => if Level.config.commands.contains name then .help else .unknownCommand
  | [name] => if Level.root.commands.contains name then .help else .unknownCommand
  | _ => .unknownCommand

def readConfig (args : List String) : Except UsageFault (Given × Command) := do
  let (p, next) ← scan .config args {}
  match next with
  | none => .error (missing (← p.settle))
  | some ("validate", rest) =>
    let g ← readLeaf .validate rest
    let p ← p.settle
    return (.inside p.given g, .validateSettings ((g.text? .config).getD Settings.localName))
  | some ("show", rest) =>
    let g ← readLeaf .showing rest
    let p ← p.settle
    return (.inside p.given g, .showSettings (g.text? .config) g.settingsFormat)
  | some (_, rest) => .error (helpAbout ("config" :: rest))

def readCommand (name : String) (args : List String) : Except UsageFault (Given × Command) :=
  match name with
  | "parse" => (readLeaf .parse args).map fun g => (g, .parse (g.text? .input) (g.text? .output))
  | "render" => (readLeaf .render args).map fun g => (g, .render g.renderRequest)
  | "embed" => (readLeaf .embed args).map fun g => (g, .embed g.embedRequest)
  | "init" =>
    (readLeaf .init args).map fun g =>
      (g, .init ((g.text? .output).getD Settings.localName) (g.has .force))
  | "config" => readConfig args
  | _ => .error (helpAbout args)

end Arguments

def Invocation.ofArguments (args : List String) : Except UsageFault Invocation := do
  let (p, next) ← Arguments.scan .root args {}
  match next with
  | none => .error (Arguments.missing (← p.settle))
  | some (name, rest) =>
    let (g, command) ← Arguments.readCommand name rest
    let p ← p.settle
    return Arguments.Given.invocation (.inside p.given g) command

end ChartText
