/-! # Charts

A `Chart` is what a document says, before anything is laid out: a chart type, labels with a value
each, and perhaps further series and presentation hints. Nothing here requires the lengths to
agree; the drawing checks that. -/

namespace ChartText

inductive ChartType
  | bar
  | line
  | pie
  | area
  | donut
deriving Repr, DecidableEq, Inhabited

namespace ChartType

/-- Every chart type, in the order of suggestions. -/
def all : List ChartType := [.bar, .line, .pie, .area, .donut]

def name : ChartType → String
  | bar => "bar"
  | line => "line"
  | pie => "pie"
  | area => "area"
  | donut => "donut"

def ofName? (s : String) : Option ChartType :=
  all.find? (·.name == s)

@[simp] theorem ofName?_name (t : ChartType) : ofName? t.name = some t := by
  cases t <;> decide

end ChartType

/-- One named column of values. -/
structure Series where
  name : String
  values : List Float
  color : Option String
deriving Repr, DecidableEq

/-- What a document asks for besides its data. -/
structure Hints where
  xAxis : Option String := none
  yAxis : Option String := none
  theme : Option String := none
  colors : Option (List String) := none
deriving Repr, DecidableEq

def Hints.isEmpty (h : Hints) : Bool :=
  h.xAxis.isNone && h.yAxis.isNone && h.theme.isNone && h.colors.isNone

structure Chart where
  type : ChartType := .bar
  title : Option String := none
  subtitle : Option String := none
  labels : List String
  values : List Float
  series : Option (List Series) := none
  hints : Option Hints := none
deriving Repr, DecidableEq

namespace Chart

/-- The series, when there is more than one. -/
def multiSeries? (c : Chart) : Option (List Series) :=
  match c.series with
  | some (a :: b :: rest) => some (a :: b :: rest)
  | _ => none

/-- The document's own palette, unless it is empty. -/
def customColors? (c : Chart) : Option (List String) :=
  match c.hints.bind (·.colors) with
  | some (color :: rest) => some (color :: rest)
  | _ => none

end Chart
end ChartText
