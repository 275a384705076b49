import ChartText.Number.Shortest

/-! # Numbers as text

A `NumberStyle` holds what a format decides about the text of a double: where the decimal point
is written out, and what stands for zero, infinity and not-a-number. `NumberStyle.plain` is the
style of markup and messages. -/

namespace ChartText

structure NumberStyle where
  /-- Which of two shortest decimals at the same distance is written. -/
  tie : Tie
  /-- A whole number ends in `.0`. -/
  marksWhole : Bool
  /-- The positions of the decimal point that are written without an exponent. -/
  isPositional : Int → Bool
  nan : String
  infinity : String
  negativeInfinity : String

namespace NumberStyle

/-- No exponent at all, and whole numbers without a point. -/
def plain : NumberStyle where
  tie := .up
  marksWhole := false
  isPositional _ := true
  nan := "NaN"
  infinity := "inf"
  negativeInfinity := "-inf"

def zeros (n : Nat) : List Char :=
  List.replicate n '0'

/-- The digits with the decimal point after the first `point` of them. -/
def positional (style : NumberStyle) (digits : List Char) (point : Int) : List Char :=
  if point ≤ 0 then '0' :: '.' :: zeros (-point).toNat ++ digits
  else if digits.length ≤ point.toNat then
    digits ++ zeros (point.toNat - digits.length) ++ (if style.marksWhole then ['.', '0'] else [])
  else digits.take point.toNat ++ '.' :: digits.drop point.toNat

/-- One digit before the decimal point, and a signed exponent. -/
def scientific (digits : List Char) (point : Int) : List Char :=
  let fraction := digits.drop 1
  let e := point - 1
  digits.take 1 ++ (if fraction.isEmpty then [] else '.' :: fraction) ++
    'e' :: (if e < 0 then '-' else '+') :: Nat.toDigits 10 e.natAbs

def decimal (style : NumberStyle) (d : Decimal) : List Char :=
  let digits := Nat.toDigits 10 d.coefficient
  let point := d.exponent + digits.length
  if style.isPositional point then style.positional digits point else scientific digits point

def format (style : NumberStyle) (x : Float) : String :=
  if x.isNaN then style.nan
  else if x.isInf then (if Binary64.isNegative x then style.negativeInfinity else style.infinity)
  else
    let sign := if Binary64.isNegative x then ['-'] else []
    let digits :=
      if x == 0.0 then (if style.marksWhole then ['0', '.', '0'] else ['0'])
      else style.decimal (Decimal.shortest style.tie x)
    String.ofList (sign ++ digits)

end NumberStyle

def plainNumber (x : Float) : String :=
  NumberStyle.plain.format x

end ChartText
