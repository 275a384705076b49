/-! # Doubles as exact numbers

A finite double is `± magnitude · 2 ^ (-1074)` for a natural number `magnitude`, so exact results
are ratios of natural numbers counted in the smallest positive double. `nearest` goes back from
such a ratio to a double; `mulAdd`, `roundHalfAway` and the reading of decimals are each an exact
computation between the two. -/

namespace ChartText.Binary64

/-! ### The parts of a double -/

def isNegative (x : Float) : Bool :=
  Nat.pow 2 63 ≤ x.toBits.toNat

def exponentField (x : Float) : Nat :=
  x.toBits.toNat / Nat.pow 2 52 % Nat.pow 2 11

def fractionField (x : Float) : Nat :=
  x.toBits.toNat % Nat.pow 2 52

def significand (x : Float) : Nat :=
  if exponentField x = 0 then fractionField x else Nat.pow 2 52 + fractionField x

/-- The significand counts units of `2 ^ unitExponent` smallest positive doubles. -/
def unitExponent (x : Float) : Nat :=
  exponentField x - 1

/-- The absolute value of a finite double, counted in smallest positive doubles. -/
def magnitude (x : Float) : Nat :=
  significand x * Nat.pow 2 (unitExponent x)

def scaled (x : Float) : Int :=
  if isNegative x then -(magnitude x : Int) else magnitude x

/-- The number of smallest positive doubles in one. -/
def one : Nat := Nat.pow 2 1074

/-! ### Rounding -/

/-- `num / den` as the nearest natural number, halves going to the even neighbour. -/
def roundHalfEven (num den : Nat) : Nat :=
  let q := num / den
  let r := num % den
  if 2 * r < den || (2 * r == den && q % 2 == 0) then q else q + 1

/-- The double with a sign, a significand and a unit exponent. A significand of `2 ^ 53` is the
smallest one of the next unit; a unit exponent that is too large gives an infinity. -/
def compose (negative : Bool) (significand unit : Nat) : Float :=
  let sign := if negative then Nat.pow 2 63 else 0
  let word :=
    if significand < Nat.pow 2 52 then significand
    else if significand < Nat.pow 2 53 then
      (unit + 1) * Nat.pow 2 52 + (significand - Nat.pow 2 52)
    else (unit + 2) * Nat.pow 2 52
  Float.ofBits (UInt64.ofNat (sign + min word (2047 * Nat.pow 2 52)))

/-- The least unit whose significands reach a magnitude of `n` smallest positive doubles. -/
def unitFor (n : Nat) : Nat :=
  n.log2 - 52

/-- The double nearest to `± num / den` smallest positive doubles. Ties go to the even significand
and overflow to an infinity. -/
def nearest (negative : Bool) (num den : Nat) : Float :=
  let unit := unitFor (num / den)
  compose negative (roundHalfEven num (den * Nat.pow 2 unit)) unit

def nan : Float := 0.0 / 0.0

def infinity (negative : Bool) : Float :=
  if negative then -1.0 / 0.0 else 1.0 / 0.0

/-! ### Operations with one rounding -/

def ofNat (n : Nat) : Float :=
  nearest false (n * one) 1

/-- `x * y + z`, rounded once. An exact zero is negative only if both terms are. -/
def mulAdd (x y z : Float) : Float :=
  if x.isFinite && y.isFinite then
    if z.isFinite then
      let negative := isNegative x != isNegative y
      let sum := scaled x * scaled y + scaled z * one
      if sum = 0 then nearest (negative && isNegative z) 0 one
      else nearest (sum < 0) sum.natAbs one
    else z
  else x * y + z

/-- A finite double as the nearest integer, halves going away from zero. -/
def roundHalfAway (x : Float) : Int :=
  let n : Nat := (2 * magnitude x + one) / (2 * one)
  if isNegative x then -(n : Int) else n

end ChartText.Binary64
