import ChartText.Log
import ChartText.Rendering
import ChartText.Text.Case

/-! # Commands

What the program can be asked to do, and with which options. -/

namespace ChartText

/-- When reports are coloured. Nothing is coloured unless that is asked for. -/
inductive ColorChoice
  | auto
  | always
  | never
deriving Repr, DecidableEq

def ColorChoice.name : ColorChoice → String
  | auto => "auto"
  | always => "always"
  | never => "never"

/-- How a picture is written: alone, or in an envelope. -/
inductive PictureFormat
  | svg
  | json
deriving Repr, DecidableEq

namespace PictureFormat

/-- The format with a name, whatever its case. -/
def ofName? (name : String) : Option PictureFormat :=
  if Text.sameIgnoringCase name.toList "svg".toList then some svg
  else if Text.sameIgnoringCase name.toList "json".toList then some json
  else none

def name : PictureFormat → String
  | svg => "svg"
  | json => "json"

end PictureFormat

inductive SettingsFormat
  | text
  | json
deriving Repr, DecidableEq

def SettingsFormat.name : SettingsFormat → String
  | text => "text"
  | json => "json"

/-- An input, or an output, that is absent stands for the standard one. -/
structure RenderRequest where
  input : Option String := none
  settings : Option String := none
  output : Option String := none
  format : PictureFormat := .svg
  form : ChartForm := .document
  width : Option Float := none
  height : Option Float := none
  padding : Option Float := none
  theme : Option Theme := none
deriving Repr, DecidableEq

structure EmbedRequest where
  input : Option String := none
  settings : Option String := none
  output : Option String := none
  className : Option String := none
deriving Repr, DecidableEq

inductive Command
  /-- Reads a document and writes its chart as JSON. -/
  | parse (input output : Option String)
  | render (request : RenderRequest)
  | embed (request : EmbedRequest)
  /-- Writes the template of a settings file. -/
  | init (output : String) (force : Bool)
  | validateSettings (path : String)
  | showSettings (path : Option String) (format : SettingsFormat)
deriving Repr, DecidableEq

/-- A command with the options that every command has. -/
structure Invocation where
  /-- How often more is asked to be logged. -/
  verbosity : Nat := 0
  color : ColorChoice := .auto
  quiet : Bool := false
  /-- The default settings are used whatever files there are. -/
  ignoresSettings : Bool := false
  command : Command
deriving Repr, DecidableEq

namespace Invocation

/-- The least weighty level that the log shows, unless it shows nothing. -/
def logLevel? (inv : Invocation) : Option LogLevel :=
  if inv.quiet then none
  else
    match inv.verbosity with
    | 0 => some .warning
    | 1 => some .info
    | 2 => some .debug
    | _ => some .trace

def shows (inv : Invocation) (e : LogEvent) : Bool :=
  inv.logLevel?.any fun level => e.level.rank ≤ level.rank

end Invocation

/-- The settings of a drawing, where options of the command go before the file. -/
def RenderRequest.override (r : RenderRequest) (s : DrawingSettings) : DrawingSettings :=
  { s with
    width := r.width.getD s.width
    height := r.height.getD s.height
    padding := r.padding.getD s.padding
    theme := r.theme <|> s.theme }

def EmbedRequest.override (r : EmbedRequest) (s : EmbeddingSettings) : EmbeddingSettings :=
  { s with className := r.className.getD s.className }

end ChartText
