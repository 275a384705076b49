import ChartText.Diagnostic
import ChartText.Source.Value
import ChartText.Source.Vocabulary

/-! # Lines of a document

Every line of a document is read on its own, trimmed: it is ignored, or it is an entry with a key
and a value, or it is at fault. `Fault` says what is wrong with a line and how to mend it. -/

namespace ChartText.Source

inductive Fault
  | equalsSign (line : List Char)
  | missingColon
  | emptyLabel
  | missingValue (key : List Char)
  | unknownType (vocabulary : Vocabulary) (name : List Char)
  | notANumber (key value : List Char)
  /-- One of several pieces of a value is no number. -/
  | badPiece (key piece : List Char)
  | noData

namespace Fault

/-- The text with its first equals sign turned into a colon. -/
def withColon (s : List Char) : List Char :=
  match Text.splitOnce? (· == '=') s with
  | some (before, after) => before ++ ':' :: after
  | none => s

def message : Fault → String
  | equalsSign _ => "Use ':' instead of '='"
  | missingColon => "Missing ':' separator"
  | emptyLabel => "Empty label before ':'"
  | missingValue _ => "Missing value after ':'"
  | unknownType _ name => "Unknown chart type \"" ++ String.ofList name ++ "\""
  | notANumber _ value => "\"" ++ String.ofList value ++ "\" is not a valid number"
  | badPiece _ piece => "\"" ++ String.ofList piece ++ "\" is not a valid number"
  | noData => "No data points found"

def hint : Fault → String
  | equalsSign line => "Try: " ++ String.ofList (withColon line)
  | missingColon => "Each line should be \"Label: Value\", e.g., \"Sales: 100\""
  | emptyLabel => "Add a label name, e.g., \"Product A: 50\""
  | missingValue key => "Add a number value, e.g., \"" ++ String.ofList key ++ ": 100\""
  | unknownType vocabulary name =>
    "Valid types: " ++ vocabulary.typeList ++ ". Did you mean \"" ++
      (vocabulary.suggestion name).name ++ "\"?"
  | notANumber key _ =>
    "Use a number like: " ++ String.ofList key ++ ": 100 (supports $, %, commas)"
  | badPiece key _ =>
    "Separate series values with \", \", e.g., \"" ++ String.ofList key ++ ": 100, 80\""
  | noData => "Add data like:\nApples: 50\nOranges: 30\nBananas: 45"

def diagnostic (fault : Fault) (number : Nat) (trimmed : List Char) : Diagnostic where
  line := number
  message := fault.message
  hint := some fault.hint
  source := some (String.ofList trimmed)

def ofDocument (fault : Fault) : Diagnostic where
  line := 0
  message := fault.message
  hint := some fault.hint

end Fault

inductive Line
  /-- The line is empty or a comment. -/
  | ignored
  | entry (key value : List Char)
  | faulty (fault : Fault)

namespace Line

def isComment (trimmed : List Char) : Bool :=
  "#".toList.isPrefixOf trimmed || "//".toList.isPrefixOf trimmed

/-- Reads a trimmed line. The first colon ends the key. -/
def ofTrimmed (trimmed : List Char) : Line :=
  if trimmed.isEmpty || isComment trimmed then .ignored
  else match Text.splitOnce? (· == ':') trimmed with
  | none => .faulty (if trimmed.contains '=' then .equalsSign trimmed else .missingColon)
  | some (before, after) =>
    let key := Text.trim before
    let value := Text.trim after
    if key.isEmpty then .faulty .emptyLabel
    else if value.isEmpty then .faulty (.missingValue key)
    else .entry key value

end Line

structure NumberedLine where
  number : Nat
  trimmed : List Char

/-- The lines of a document, numbered from 1. Only line feeds end a line. -/
def numberedLines (source : List Char) : List NumberedLine :=
  ((Text.cutLines source).zipIdx 1).map fun (line, number) => ⟨number, Text.trim line⟩

def NumberedLine.line (l : NumberedLine) : Line :=
  Line.ofTrimmed l.trimmed

def NumberedLine.diagnostic (l : NumberedLine) (fault : Fault) : Diagnostic :=
  fault.diagnostic l.number l.trimmed

end ChartText.Source
