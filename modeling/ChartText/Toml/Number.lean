import ChartText.Number.Literal
import ChartText.Text.Digits
import ChartText.Toml.Value

/-! # Numbers of TOML

Integers in four bases, and decimal numbers. Underscores may stand between digits. -/

namespace ChartText.Toml

/-- The digits of a run of digits with single underscores between them. -/
def digits? (isDigit : Char → Bool) : List Char → Option (List Char)
  | [] => none
  | [c] => if isDigit c then some [c] else none
  | c :: '_' :: rest => if isDigit c then (digits? isDigit rest).map (c :: ·) else none
  | c :: rest => if isDigit c then (digits? isDigit rest).map (c :: ·) else none

def isOctalDigit (c : Char) : Bool :=
  '0' ≤ c && c ≤ '7'

def isBinaryDigit (c : Char) : Bool :=
  c == '0' || c == '1'

/-- Decimal digits without a needless zero at the front. -/
def decimalDigits? (s : List Char) : Option (List Char) := do
  let digits ← digits? Char.isDigit s
  if digits.length > 1 && digits.head? == some '0' then none else some digits

def signed (negative : Bool) (n : Nat) : Int :=
  if negative then -n else n

/-- The whole part, the fraction and the exponent of a decimal number, each with the character
before it. -/
def splitFloat (s : List Char) : List Char × List Char × List Char :=
  let isMark (c : Char) : Bool := c == 'e' || c == 'E'
  let mantissa := s.takeWhile (!isMark ·)
  (mantissa.takeWhile (· != '.'), mantissa.dropWhile (· != '.'), s.dropWhile (!isMark ·))

/-- A number with a point or an exponent, without its sign. Numbers too large for a double are
refused. -/
def float? (negative : Bool) (s : List Char) : Option Float := do
  let (whole, fraction, exponent) := splitFloat s
  let wholeDigits ← decimalDigits? whole
  let fractionDigits ← match fraction with
    | _ :: digits => digits? Char.isDigit digits
    | [] => some []
  let e ← match exponent with
    | _ :: written =>
      let (negativeExponent, unsigned) := Literal.splitSign written
      (digits? Char.isDigit unsigned).map fun d =>
        signed negativeExponent (Literal.natOfDigits d)
    | [] => some 0
  if fraction.isEmpty && exponent.isEmpty then none
  else
    let digits := wholeDigits ++ fractionDigits
    let x := Literal.toFloat ⟨negative, digits, e - fractionDigits.length⟩
    if x.isInf then none else some x

def scalar? (word : List Char) : Option Toml :=
  let (negative, unsigned) := Literal.splitSign word
  let isUnsigned := unsigned.length == word.length
  match unsigned with
  | '0' :: 'x' :: rest =>
    if isUnsigned then (digits? Text.isHexDigit rest).map fun d => .integer (Text.natInBase 16 d) else none
  | '0' :: 'o' :: rest =>
    if isUnsigned then (digits? isOctalDigit rest).map fun d => .integer (Text.natInBase 8 d) else none
  | '0' :: 'b' :: rest =>
    if isUnsigned then (digits? isBinaryDigit rest).map fun d => .integer (Text.natInBase 2 d) else none
  | _ =>
    if word == "true".toList then some (.bool true)
    else if word == "false".toList then some (.bool false)
    else if unsigned == "inf".toList then some (.float (Binary64.infinity negative))
    else if unsigned == "nan".toList then some (.float Binary64.nan)
    else
      match decimalDigits? unsigned with
      | some d => some (.integer (signed negative (Literal.natOfDigits d)))
      | none => (float? negative unsigned).map .float

end ChartText.Toml
