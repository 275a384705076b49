import ChartText.Json.Value
import ChartText.Number.Literal

/-! # The number that a JSON number stands for

Digits are taken into a significand as long as it fits into 64 bits; further digits before the point
count as powers of ten and further digits after it are dropped. The significand and the power of ten
are rounded to doubles and then multiplied or divided, so the result may be a neighbour of the
nearest double. -/

namespace ChartText.Json

/-- Appends digits to a number while it stays below `2 ^ 64`. Also gives the number of digits that
are left over. -/
def absorb (n : Nat) : List Char → Nat × Nat
  | [] => (n, 0)
  | d :: rest =>
    let m := 10 * n + Literal.digitValue d
    if m < Nat.pow 2 64 then absorb m rest else (n, (d :: rest).length)

/-- The double nearest to a power of ten. -/
def tenPower (n : Nat) : Float :=
  Decimal.toFloat false ⟨1, n⟩

/-- The largest power of ten that is a double. -/
def maxPower : Nat := 308

/-- `x * 10 ^ e` for `x` not negative, if it is not too large for a double. A power that is too
small is divided by in several steps. -/
def scale? (x : Float) (e : Int) : Option Float :=
  if 0 ≤ e then
    if e ≤ maxPower then
      let y := x * tenPower e.toNat
      if y.isInf then none else some y
    else if x == 0.0 then some x
    else none
  else if -maxPower ≤ e then some (x / tenPower (-e).toNat)
  else if x == 0.0 then some x
  else scale? (x / tenPower maxPower) (e + maxPower)
termination_by (-e).toNat
decreasing_by
  simp only [maxPower] at *
  omega

/-- The double that a number stands for, unless it is too large. -/
def floatOfLiteral? (literal : List Char) : Option Float := do
  let (negative, unsigned) := Literal.splitSign literal
  let whole := unsigned.takeWhile Char.isDigit
  let (fraction, rest) := Literal.splitFraction (unsigned.dropWhile Char.isDigit)
  let (upper, extra) := absorb 0 whole
  let (significand, dropped) := absorb upper fraction
  let exponent := (← Literal.exponent? rest) + extra - (fraction.length - dropped : Nat)
  let x ← scale? (Binary64.ofNat significand) exponent
  return if negative then -x else x

def toFloat? : Json → Option Float
  | .number literal => floatOfLiteral? literal
  | _ => none

end ChartText.Json
