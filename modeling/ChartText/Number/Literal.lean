import ChartText.Number.Shortest
import ChartText.Text.Case

/-! # Reading decimal numbers

`Literal` is the grammar of a decimal number: an optional sign, digits with at most one point among
or around them, and an optional exponent. `Literal.toFloat` is the double nearest to its value.
`readFloat?` also knows the words for infinity and not-a-number. -/

namespace ChartText

/-- A decimal number as written: `± digits · 10 ^ exponent`. -/
structure Literal where
  negative : Bool
  digits : List Char
  exponent : Int

namespace Literal

def digitValue (c : Char) : Nat :=
  c.toNat - '0'.toNat

def natOfDigits (digits : List Char) : Nat :=
  digits.foldl (fun n c => 10 * n + digitValue c) 0

def splitSign : List Char → Bool × List Char
  | '-' :: rest => (true, rest)
  | '+' :: rest => (false, rest)
  | s => (false, s)

/-- The exponent that a text after the digits stands for: nothing, or `e` and an integer. -/
def exponent? : List Char → Option Int
  | [] => some 0
  | c :: rest =>
    if c == 'e' || c == 'E' then
      let (negative, digits) := splitSign rest
      if !digits.isEmpty && digits.all Char.isDigit then
        let n : Int := natOfDigits digits
        some (if negative then -n else n)
      else none
    else none

def splitFraction : List Char → List Char × List Char
  | '.' :: rest => (rest.takeWhile Char.isDigit, rest.dropWhile Char.isDigit)
  | s => ([], s)

def ofChars? (s : List Char) : Option Literal := do
  let (negative, unsigned) := splitSign s
  let whole := unsigned.takeWhile Char.isDigit
  let (fraction, rest) := splitFraction (unsigned.dropWhile Char.isDigit)
  let digits := whole ++ fraction
  if digits.isEmpty then none
  else return { negative, digits, exponent := (← exponent? rest) - fraction.length }

end Literal

/-- The double nearest to `± coefficient · 10 ^ exponent`. Past the ends of the range of doubles
the power of ten is not computed. -/
def Decimal.toFloat (negative : Bool) (d : Decimal) : Float :=
  let point := d.exponent + Decimal.digitCount d.coefficient
  if d.coefficient = 0 || point < -330 then Binary64.nearest negative 0 1
  else if 310 < point then Binary64.infinity negative
  else
    let (p, q) := Decimal.tenPower d.exponent
    Binary64.nearest negative (d.coefficient * p * Binary64.one) q

def Literal.toFloat (l : Literal) : Float :=
  Decimal.toFloat l.negative ⟨natOfDigits l.digits, l.exponent⟩

/-- A number word: `inf`, `infinity` or `nan` in any case, with an optional sign. -/
def floatOfWord? (s : List Char) : Option Float :=
  let (negative, word) := Literal.splitSign s
  if Text.sameIgnoringCase word "inf".toList || Text.sameIgnoringCase word "infinity".toList then
    some (Binary64.infinity negative)
  else if Text.sameIgnoringCase word "nan".toList then some Binary64.nan
  else none

def readFloat? (s : List Char) : Option Float :=
  match Literal.ofChars? s with
  | some literal => some literal.toFloat
  | none => floatOfWord? s

end ChartText
