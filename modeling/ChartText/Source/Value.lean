import ChartText.Number.Literal
import ChartText.Text.Blank
import ChartText.Text.Lines

/-! # Values of a data row

`number?` reads a number that may carry a currency sign, a percent sign, thousands separators and
blanks anywhere. `splitValues` finds the values of a row: commas separate values, but a comma may
also be a thousands separator, so a value is cut only where every piece is a number. -/

namespace ChartText.Source

/-- Characters that a number may be decorated with. -/
def isDecoration (c : Char) : Bool :=
  c == '$' || c == '%' || c == ',' || Text.isBlank c

/-- The number that a token stands for, once its decoration is taken off. Infinities, and decimals
too large for a double, are not numbers. -/
def number? (token : List Char) : Option Float :=
  match Literal.ofChars? (token.filter (!isDecoration ·)) with
  | none => none
  | some literal =>
    let x := literal.toFloat
    if x.isFinite then some x else none

def isNumber (token : List Char) : Bool :=
  (number? token).isSome

theorem isFinite_of_number? {token : List Char} {x : Float} (h : number? token = some x) :
    x.isFinite = true := by
  unfold number? at h
  split at h
  · simp at h
  · simp only [Option.ite_none_right_eq_some, Option.some.injEq] at h
    exact h.2 ▸ h.1

/-- The comma of East Asian input methods. -/
def wideComma : Char := '，'

def withNext (s : List Char) : List (Char × Option Char) :=
  s.zip (s.tail.map some ++ [none])

/-- A wide comma always separates; a comma does at the end of a text and before a blank. -/
def isSeparator : Char × Option Char → Bool
  | (c, next) => c == wideComma || (c == ',' && next.all Text.isBlank)

/-- The trimmed pieces between the separators. -/
def cutFields (field : List Char) : List (List Char) :=
  (Text.cutAt isSeparator (withNext field)).map fun piece => Text.trim (piece.map Prod.fst)

/-- The values in a field: its pieces if there are several and all are numbers, and otherwise the
trimmed field itself. -/
def splitValues (field : List Char) : List (List Char) :=
  let trimmed := Text.trim field
  let pieces := cutFields trimmed
  if 1 < pieces.length && pieces.all isNumber then pieces else [trimmed]

/-- The text between one opening and one closing bracket, or the whole text. -/
def dropBrackets (s : List Char) : List Char :=
  match s with
  | '[' :: inner => if inner.getLast? == some ']' then inner.dropLast else s
  | _ => s

/-- The entries of a list of names: trimmed, none of them empty, between commas of either kind and
perhaps inside brackets. -/
def splitList (value : List Char) : List (List Char) :=
  let entries := Text.cutAt (fun c => c == ',' || c == wideComma) (dropBrackets (Text.trim value))
  (entries.map Text.trim).filter (!·.isEmpty)

def isQuote (c : Char) : Bool :=
  c == '"' || c == '\''

/-- Takes off a quote at the start and a quote at the end, each on its own. -/
def stripQuotes (s : List Char) : List Char :=
  let opened := match s with
    | c :: rest => if isQuote c then rest else s
    | [] => []
  if opened.getLast?.any isQuote then opened.dropLast else opened

end ChartText.Source
