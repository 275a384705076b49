import ChartText.Layout.Marks

/-! # Slices of a circle

The values of a pie chart share out one turn. Every slice begins at the angle where the one before
it ends. -/

namespace ChartText

structure Slice (α : Type) where
  start : α
  stop : α
deriving Repr, DecidableEq

variable {α : Type} [Scalar α]

namespace Slice

def sweep (s : Slice α) : α :=
  s.stop - s.start

def middle (s : Slice α) : α :=
  Scalar.mulAdd s.sweep 0.5 s.start

/-- The slice is the whole circle, up to rounding. -/
def isWhole (turn : α) (s : Slice α) : Bool :=
  Scalar.abs (s.sweep - turn) < (1e-9 : α)

/-- The slices of values with a given sum, one after the other from `start`. -/
def share (turn total : α) (start : α) : List α → List (Slice α)
  | [] => []
  | value :: values =>
    let stop := start + value / total * turn
    ⟨start, stop⟩ :: share turn total stop values

end Slice

namespace Angle

/-- A quarter of a turn, in radians. -/
def quarter : Float := 1.5707963267948966

def half : Float := 3.141592653589793

def turn : Float := 6.283185307179586

/-- Twelve o'clock; angles grow clockwise. -/
def top : Float := -quarter

end Angle

structure Circle where
  center : Point Float
  radius : Float

def Circle.point (c : Circle) (radius angle : Float) : Point Float :=
  ⟨Binary64.mulAdd radius angle.cos c.center.x, Binary64.mulAdd radius angle.sin c.center.y⟩

end ChartText
