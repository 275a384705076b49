import ChartText.Layout.Marks
import ChartText.Svg.Markup

/-! # The elements of a drawing

Bars, lines, markers, wedges, rules, swatches and labels, each with the markup that draws it. -/

namespace ChartText.Svg

structure Bar where
  shape : Rectangle Float
  color : String
  cornerRadius : Float
  label : String
  value : Float

/-- A line through points, and the area under it if there is a baseline. -/
structure Line where
  points : List (Point Float)
  color : String
  strokeWidth : Float := 2.0
  fillOpacity : Float := 0.3
  baseline : Option Float := none

/-- A dot with a ring around it. -/
structure Marker where
  center : Point Float
  radius : Float
  fill : String
  stroke : String

/-- A slice of a pie, or of a ring. -/
structure Wedge where
  path : String
  fill : String
  stroke : String
  label : String
  value : Float
  /-- The path is a ring, whose hole is not filled. -/
  isRing : Bool

structure Rule where
  start : Point Float
  stop : Point Float
  stroke : String
  dashed : Bool

/-- A square that shows a colour. -/
structure Swatch where
  corner : Point Float
  size : Float
  color : String

inductive Anchor
  | start
  | middle
  | stop
deriving Repr, DecidableEq

def Anchor.name : Anchor → String
  | start => "start"
  | middle => "middle"
  | stop => "end"

structure Label where
  position : Point Float
  text : String
  color : String
  anchor : Anchor := .middle
  fontSize : Float := 11.0
  bold : Bool := false
  /-- The text is centred on its position instead of standing on it. -/
  centered : Bool := false
  /-- A rotation around the position, in degrees. -/
  rotation : Option Float := none

inductive Element
  | bar (b : Bar)
  | line (l : Line)
  | marker (m : Marker)
  | wedge (w : Wedge)
  | rule (r : Rule)
  | swatch (s : Swatch)
  | label (l : Label)

/-! ### Drawing commands -/

/-- Words and numbers between single spaces. -/
def phrase (words : List String) : String :=
  " ".intercalate words

def pointWords (p : Point Float) : List String :=
  [plainNumber p.x, plainNumber p.y]

/-- Moves to the first point and draws lines to the others. -/
def Line.path (l : Line) : String :=
  phrase (l.points.zipIdx.flatMap fun (p, i) => (if i = 0 then "M" else "L") :: pointWords p)

/-! ### Markup -/

/-- A class, which names the kind of a mark. -/
def ofClass (name : String) : String × Value :=
  ("class", .text name)

def Bar.markup (b : Bar) : Markup :=
  .captioned
    { name := "rect"
      attributes :=
        [ofClass "pv-bar", ("x", .number b.shape.x), ("y", .number b.shape.y),
          ("width", .number b.shape.width), ("height", .number b.shape.height),
          ("rx", .number b.cornerRadius), ("fill", .text b.color)] }
    (b.label ++ ": " ++ plainNumber b.value)

def Line.areaMarkup (l : Line) (first last : Point Float) (baseline : Float) : Markup :=
  let y := plainNumber baseline
  .empty
    { name := "path"
      attributes :=
        [ofClass "pv-area",
          ("d", .commands (phrase
            [l.path, "L", plainNumber last.x, y, "L", plainNumber first.x, y, "Z"])),
          ("fill", .text l.color), ("fill-opacity", .number l.fillOpacity),
          ("stroke", .text "none")] }

def Line.strokeMarkup (l : Line) : Markup :=
  .empty
    { name := "path"
      attributes :=
        [ofClass "pv-line", ("d", .commands l.path), ("fill", .text "none"),
          ("stroke", .text l.color), ("stroke-width", .number l.strokeWidth),
          ("stroke-linecap", .text "round"), ("stroke-linejoin", .text "round")] }

/-- A line without points is not drawn. -/
def Line.markup (l : Line) : List Markup :=
  match l.points.head?, l.points.getLast? with
  | some first, some last =>
    (l.baseline.map (l.areaMarkup first last)).toList ++ [l.strokeMarkup]
  | _, _ => []

def Marker.markup (m : Marker) : Markup :=
  .empty
    { name := "circle"
      attributes :=
        [ofClass "pv-point", ("cx", .number m.center.x), ("cy", .number m.center.y),
          ("r", .number m.radius), ("fill", .text m.fill), ("stroke", .text m.stroke),
          ("stroke-width", .number 2.0)] }

def Wedge.markup (w : Wedge) : Markup :=
  .captioned
    { name := "path"
      attributes :=
        [ofClass "pv-slice", ("d", .commands w.path), ("fill", .text w.fill)] ++
        (if w.isRing then [("fill-rule", .text "evenodd")] else []) ++
        [("stroke", .text w.stroke), ("stroke-width", .number 2.0)] }
    (w.label ++ ": " ++ plainNumber w.value)

def Rule.markup (r : Rule) : Markup :=
  .empty
    { name := "line"
      attributes :=
        [("x1", .number r.start.x), ("y1", .number r.start.y), ("x2", .number r.stop.x),
          ("y2", .number r.stop.y), ("stroke", .text r.stroke), ("stroke-width", .number 1.0)] ++
        (if r.dashed then [("stroke-dasharray", .text "3,3")] else []) }

def Swatch.markup (s : Swatch) : Markup :=
  .empty
    { name := "rect"
      attributes :=
        [ofClass "pv-swatch", ("x", .number s.corner.x), ("y", .number s.corner.y),
          ("width", .number s.size), ("height", .number s.size), ("rx", .number 2.0),
          ("fill", .text s.color)] }

def fontFamily : String := "system-ui, sans-serif"

def Label.transform (l : Label) (degrees : Float) : String :=
  "rotate(" ++ phrase (plainNumber degrees :: pointWords l.position) ++ ")"

def Label.markup (l : Label) : Markup :=
  .text
    { name := "text"
      attributes :=
        [("x", .number l.position.x), ("y", .number l.position.y),
          ("text-anchor", .text l.anchor.name), ("font-family", .text fontFamily),
          ("font-size", .number l.fontSize), ("fill", .text l.color)] ++
        (if l.bold then [("font-weight", .text "bold")] else []) ++
        (if l.centered then [("dominant-baseline", .text "middle")] else []) ++
        (l.rotation.map fun degrees => ("transform", Value.text (l.transform degrees))).toList }
    l.text

namespace Element

def markup : Element → List Markup
  | bar b => [b.markup]
  | line l => l.markup
  | marker m => [m.markup]
  | wedge w => [w.markup]
  | rule r => [r.markup]
  | swatch s => [s.markup]
  | label l => [l.markup]

/-- The text of an element on its own. A line is up to two tags, each with its line ending. -/
def write : Element → String
  | line l => String.join (l.markup.map fun m => m.write ++ "\n")
  | e => String.join (e.markup.map Markup.write)

end Element
end ChartText.Svg
