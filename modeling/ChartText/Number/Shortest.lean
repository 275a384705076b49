import ChartText.Number.Binary64

/-! # The shortest decimal of a double

`shortest` finds the decimal with the fewest digits that lies in the interval of reals which round
to a given double, and of those with as few digits the one nearest to the double. -/

namespace ChartText

/-- `coefficient * 10 ^ exponent`. -/
structure Decimal where
  coefficient : Nat
  exponent : Int
deriving Repr, DecidableEq

/-- Which of two neighbours at the same distance is taken. -/
inductive Tie
  | up
  | even
deriving Repr, DecidableEq

namespace Decimal

def digitCount (n : Nat) : Nat :=
  (Nat.toDigits 10 n).length

/-- Moves the zeros at the end of the coefficient into the exponent; `fuel` bounds their number. -/
def dropZeros : (fuel : Nat) → Decimal → Decimal
  | 0, d => d
  | fuel + 1, d =>
    if d.coefficient % 10 = 0 then dropZeros fuel ⟨d.coefficient / 10, d.exponent + 1⟩ else d

/-! ### The interval of a double -/

/-- The reals between `lower / den` and `upper / den`, with `value / den` among them. -/
structure Interval where
  lower : Nat
  value : Nat
  upper : Nat
  den : Nat
  closed : Bool

/-- The reals that round to the absolute value of a finite nonzero double, in quarters of the
smallest positive double. Below a power of two the next double is only half as far away. The ends
round to the even significand. -/
def Interval.ofFloat (x : Float) : Interval :=
  let m := Binary64.significand x
  let unit := Nat.pow 2 (Binary64.unitExponent x)
  let below := if m = Nat.pow 2 52 && Binary64.unitExponent x ≠ 0 then unit else 2 * unit
  { lower := 4 * m * unit - below
    value := 4 * m * unit
    upper := 4 * m * unit + 2 * unit
    den := 4 * Binary64.one
    closed := m % 2 = 0 }

def Interval.contains (i : Interval) (num den : Nat) : Bool :=
  if i.closed then i.lower * den ≤ num * i.den && num * i.den ≤ i.upper * den
  else i.lower * den < num * i.den && num * i.den < i.upper * den

/-- The position of the decimal point: the value is at least `10 ^ (point - 1)` and less than
`10 ^ point`. -/
def Interval.point (i : Interval) : Int :=
  if i.den ≤ i.value then (digitCount (i.value / i.den) : Int)
  else 1 - (digitCount ((i.den - 1) / i.value) : Int)

/-! ### The search -/

def tenPower (e : Int) : Nat × Nat :=
  if 0 ≤ e then (Nat.pow 10 e.toNat, 1) else (1, Nat.pow 10 (-e).toNat)

/-- The better of the two neighbours of the value among the multiples of `10 ^ e`, if one of them
lies in the interval. -/
def candidate? (tie : Tie) (i : Interval) (e : Int) : Option Decimal :=
  let (p, q) := tenPower e
  let low := i.value * q / (i.den * p)
  let lowIn := i.contains (low * p) q
  let highIn := i.contains ((low + 1) * p) q
  let twice := 2 * (i.value * q)
  let middle := (2 * low + 1) * (i.den * p)
  let lowNearer := twice < middle || (twice == middle && tie == .even && low % 2 == 0)
  if lowIn && (!highIn || lowNearer) then some ⟨low, e⟩
  else if highIn then some ⟨low + 1, e⟩
  else none

/-- Seventeen digits always suffice. -/
def maxDigits : Nat := 17

/-- The shortest decimal of the absolute value of a finite nonzero double. -/
def shortest (tie : Tie) (x : Float) : Decimal :=
  let i := Interval.ofFloat x
  let point := i.point
  let found := (List.range maxDigits).findSome? fun n => candidate? tie i (point - (n + 1 : Nat))
  dropZeros (maxDigits + 1) (found.getD ⟨0, 0⟩)

end Decimal
end ChartText
