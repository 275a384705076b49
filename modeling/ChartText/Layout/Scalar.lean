import ChartText.Number.Binary64

/-! # The arithmetic of layout

Positions and sizes are computed with a handful of operations. Charts are drawn with doubles; the
layout itself is written for any `Scalar`, so that what it says about positions can also be read
over exact numbers. -/

namespace ChartText

class Scalar (α : Type) extends Add α, Sub α, Mul α, Div α, Neg α, LT α, LE α, OfScientific α where
  ofNat : Nat → α
  /-- `x * y + z` as one operation. -/
  mulAdd : α → α → α → α
  isFinite : α → Bool
  decLt : (x y : α) → Decidable (x < y)
  decLe : (x y : α) → Decidable (x ≤ y)

instance decidableLt {α : Type} [Scalar α] (x y : α) : Decidable (x < y) := Scalar.decLt x y

instance decidableLe {α : Type} [Scalar α] (x y : α) : Decidable (x ≤ y) := Scalar.decLe x y

instance scalarFloat : Scalar Float where
  ofNat := Float.ofNat
  mulAdd := Binary64.mulAdd
  isFinite := Float.isFinite
  decLt := Float.decLt
  decLe := Float.decLe

namespace Scalar

variable {α : Type} [Scalar α]

def positivePart (x : α) : α :=
  if (0.0 : α) < x then x else 0.0

def abs (x : α) : α :=
  if x < (0.0 : α) then -x else x

/-- The largest of some values. Values that do not compare with themselves are passed over, and of
equal values the first is taken. -/
def largest? (values : List α) : Option α :=
  values.foldl (fun best v =>
    if v ≤ v then
      match best with
      | none => some v
      | some b => if b < v then some v else some b
    else best) none

def smaller (x y : α) : α :=
  if y < x then y else x

def sum (values : List α) : α :=
  values.foldl (· + ·) (-(0.0 : α))

end Scalar
end ChartText
