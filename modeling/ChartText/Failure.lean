import ChartText.Diagnostic
import ChartText.Drawing.Error
import ChartText.Toml.Value

/-! # Failures

A `Failure` is why a run could not do what it was asked to. It has a kind, a message, and perhaps a
detail and a piece of advice. Its exit code tells faults of the document from faults of the
settings and of the surroundings. -/

namespace ChartText

inductive Failure
  | configuration (message : String)
  | unreadable (path reason : String)
  | io (reason : String)
  /-- The text of a settings file is not TOML, or its entries are no settings. -/
  | undecodableSettings (fault : Toml.Fault)
  /-- The text is not the JSON form of a chart. -/
  | undecodableChart (reason : String)
  | document (diagnostics : List Diagnostic)
  | drawing (error : RenderError)
deriving Repr, DecidableEq

namespace Failure

def kind : Failure → String
  | configuration _ | undecodableSettings _ => "Config"
  | unreadable .. => "FileRead"
  | io _ => "IO"
  | undecodableChart _ => "IR"
  | document _ => "Parse"
  | drawing _ => "Render"

def message : Failure → String
  | configuration message => message
  | unreadable path _ => path
  | io reason => reason
  | undecodableSettings fault => fault.message
  | undecodableChart reason => reason
  | document diagnostics => Diagnostic.countText diagnostics
  | drawing error => error.message

def detail? : Failure → Option String
  | unreadable _ reason => some reason
  | undecodableSettings fault => fault.place?
  | _ => none

def advice? : Failure → Option String
  | unreadable .. => some "Check that the file exists and is readable"
  | undecodableSettings _ => some "Check the TOML syntax of the configuration file"
  | undecodableChart _ => some "Expected the JSON printed by `plainviz parse`"
  | drawing (.canvasTooSmall _) => some "Increase --width/--height or reduce --padding"
  | drawing (.nonPositiveScale ..) | drawing (.nonPositiveTotal ..) =>
    some "At least one value must be greater than zero"
  | _ => none

/-- The one-line form. -/
def text : Failure → String
  | configuration message => "Configuration error: " ++ message
  | unreadable path _ => "Failed to read file: " ++ path
  | io reason => "IO error: " ++ reason
  | undecodableSettings fault => "TOML parse error: " ++ fault.text
  | undecodableChart reason => "Invalid IR JSON: " ++ reason
  | document diagnostics => "Parse error: " ++ Diagnostic.summary diagnostics
  | drawing error => "Render error: " ++ error.message

def isOfDocument : Failure → Bool
  | undecodableChart _ | document _ | drawing _ => true
  | configuration _ | unreadable .. | io _ | undecodableSettings _ => false

/-- 1 for faults of the document, and 2 for faults of the settings, of the input and of the output. -/
def exitCode (f : Failure) : Nat :=
  if f.isOfDocument then 1 else 2

end Failure
end ChartText
