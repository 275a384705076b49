import ChartText.Layout.Canvas

/-! # Placing marks in the plot area

Bars stand in slots of equal width, one slot per label; the bars of a group share a slot. Points
are spread over the whole width, from the left edge to the right one. -/

namespace ChartText

variable {α : Type} [Scalar α]

structure Rectangle (α : Type) where
  x : α
  y : α
  width : α
  height : α
deriving Repr, DecidableEq

structure Point (α : Type) where
  x : α
  y : α
deriving Repr, DecidableEq

/-! ### Bars -/

structure Slots (α : Type) where
  /-- Where the bars of the first slot begin. -/
  start : α
  /-- From one slot to the next. -/
  step : α
  /-- The width that bars take up in a slot. -/
  filled : α

namespace Slots

/-- The share of a slot that bars take up. -/
def fill : α := 0.7

def gap : α := 2.0

def of (plot : PlotArea α) (labelCount : Nat) : Slots α :=
  let step := plot.width / Scalar.ofNat labelCount
  let margin := step * (1.0 - fill) / 2.0
  { start := plot.left + margin, step, filled := step * fill }

def left (s : Slots α) (i : Nat) : α :=
  Scalar.mulAdd (Scalar.ofNat i) s.step s.start

def middle (s : Slots α) (i : Nat) : α :=
  Scalar.mulAdd s.filled 0.5 (s.left i)

/-- The only bar of slot `i`. -/
def bar (s : Slots α) (plot : PlotArea α) (max : α) (i : Nat) (value : α) : Rectangle α where
  x := s.left i
  y := plot.yFor value max
  width := s.filled
  height := plot.barHeight value max

/-- Bar `j` of the `count` bars of slot `i`. -/
def groupedBar (s : Slots α) (plot : PlotArea α) (max : α) (count i j : Nat) (value : α) :
    Rectangle α :=
  let width := s.filled / Scalar.ofNat count
  { x := Scalar.mulAdd (Scalar.ofNat j) width (s.left i)
    y := plot.yFor value max
    width := Scalar.positivePart (width - gap)
    height := plot.barHeight value max }

end Slots

/-! ### Points -/

namespace PlotArea

/-- The horizontal position of point `index` of `count`. A single point sits on the left edge. -/
def pointX (p : PlotArea α) (index count : Nat) : α :=
  let spacing := if 1 < count then p.width / Scalar.ofNat (count - 1) else p.width
  Scalar.mulAdd (Scalar.ofNat index) spacing p.left

def points (p : PlotArea α) (max : α) (values : List α) : List (Point α) :=
  values.zipIdx.map fun (value, i) => ⟨p.pointX i values.length, p.yFor value max⟩

end PlotArea

/-- The first `count` values, filled up with zeros. -/
def fitted (count : Nat) (values : List α) : List α :=
  values.take count ++ List.replicate (count - values.length) 0.0

end ChartText
