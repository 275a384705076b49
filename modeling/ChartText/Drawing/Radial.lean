import ChartText.Drawing.Frame
import ChartText.Layout.Slices

/-! # Pie and donut charts

The values of the chart share out a circle, or a ring. A value of zero has a label and no slice. -/

namespace ChartText.Drawing

open Svg (Element)

def slices (c : Chart) : Except RenderError (List (Slice Float)) := do
  checkLengths c
  match (c.labels.zip c.values).find? fun (_, value) => value < 0.0 with
  | some (label, value) => .error (.negativeSlice c.type label value)
  | none =>
    let total := Scalar.sum c.values
    if total.isFinite && 0.0 < total then .ok (Slice.share Angle.turn total Angle.top c.values)
    else .error (.nonPositiveTotal c.type total)

/-! ### Paths -/

def flag (b : Bool) : String :=
  if b then "1" else "0"

def arc (radius : Float) (large clockwise : Bool) (stop : Point Float) : List String :=
  ["A", plainNumber radius, plainNumber radius, "0", flag large, flag clockwise] ++
    Svg.pointWords stop

/-- A full circle in two halves. -/
def circlePath (circle : Circle) (radius : Float) (clockwise : Bool) : List String :=
  let left : Point Float := ⟨circle.center.x - radius, circle.center.y⟩
  let right : Point Float := ⟨circle.center.x + radius, circle.center.y⟩
  "M" :: Svg.pointWords right ++ arc radius true clockwise left ++
    arc radius true clockwise right ++ ["Z"]

/-- The words of the path of a slice. A single arc cannot go all the way round, so a whole circle
is drawn as one, with the hole as a second one the other way round. -/
def slicePath (circle : Circle) (inner : Option Float) (s : Slice Float) : List String :=
  if s.isWhole Angle.turn then
    circlePath circle circle.radius true ++
      (match inner with
      | none => []
      | some hole => circlePath circle hole false)
  else
    let large : Bool := Angle.half < s.sweep
    let start := circle.point circle.radius s.start
    let stop := circle.point circle.radius s.stop
    match inner with
    | none =>
      "M" :: Svg.pointWords circle.center ++ "L" :: Svg.pointWords start ++
        arc circle.radius large true stop ++ ["Z"]
    | some hole =>
      "M" :: Svg.pointWords start ++ arc circle.radius large true stop ++
        "L" :: Svg.pointWords (circle.point hole s.stop) ++
        arc hole large false (circle.point hole s.start) ++ ["Z"]

/-! ### Charts -/

/-- The share of the radius that the hole of a donut takes up. -/
def donutHole : Float := 0.6

/-- The circle of a chart. Its centre is a little below that of the canvas, under the title. -/
def circleOn (canvas : Canvas Float) : Circle where
  center := ⟨canvas.width / 2.0, canvas.height / 2.0 + 10.0⟩
  radius := Scalar.smaller canvas.width canvas.height / 2.0 - canvas.padding

/-- A slice, unless its value is zero. -/
def wedge? (c : Chart) (o : Options) (circle : Circle) (inner : Option Float) (i : Nat)
    (s : Slice Float) (label : String) (value : Float) : Option Element :=
  if 0.0 < value then
    some (.wedge
      { path := Svg.phrase (slicePath circle inner s)
        fill := c.color o i
        stroke := o.backgroundColor
        label
        value
        isRing := s.isWhole Angle.turn && inner.isSome })
  else none

/-- The label of a slice and its percentage, outside the rim. -/
def sliceLabel (o : Options) (circle : Circle) (total : Float) (s : Slice Float) (label : String)
    (value : Float) : Element :=
  .label
    { position := circle.point (circle.radius + 25.0) s.middle
      text := label ++ ": " ++ percentLabel value total ++ "%"
      color := o.textColor
      centered := true }

def radialElements (c : Chart) (o : Options) (circle : Circle) (inner : Option Float)
    (slices : List (Slice Float)) : List Element :=
  let total := Scalar.sum c.values
  (slices.zip (c.labels.zip c.values)).zipIdx.flatMap fun ((s, label, value), i) =>
    (wedge? c o circle inner i s label value).toList ++
      [sliceLabel o circle total s label value]

/-- A pie, or a donut with a hole of the given share of the radius. -/
def radialChart (hole : Option Float) (c : Chart) (o : Options) :
    Except RenderError Svg.Document := do
  let slices ← slices c
  let circle := circleOn o.canvas
  let inner := hole.map (circle.radius * ·)
  let drawing ← document c o (radialElements c o circle inner slices)
  if circle.radius ≤ 0.0 then .error (.canvasTooSmall o.canvas) else .ok drawing

def pieChart : Chart → Options → Except RenderError Svg.Document :=
  radialChart none

def donutChart : Chart → Options → Except RenderError Svg.Document :=
  radialChart (some donutHole)

end ChartText.Drawing
