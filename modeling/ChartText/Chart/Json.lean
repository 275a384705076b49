import ChartText.Chart
import ChartText.Diagnostic
import ChartText.Json.Number
import ChartText.Json.Printer
import ChartText.Json.Reader

/-! # Charts as JSON

`Chart.toJson` and `Chart.ofJson?` go back and forth between charts and JSON values. Fields without
a value are left out. -/

namespace ChartText

def ChartType.toJson (t : ChartType) : Json :=
  .ofString t.name

/-- A chart type is its name, or an object with the name as the key of `null`. -/
def ChartType.ofJson? : Json → Option ChartType
  | .string (some name) => ofName? name
  | .object [(some name, .null)] => ofName? name
  | _ => none

namespace Series

def toJson (s : Series) : Json :=
  .ofFields
    [("name", some (.ofString s.name)), ("values", some (.array (s.values.map Json.ofFloat))),
      ("color", s.color.map Json.ofString)]

def ofJson? (v : Json) : Option Series := do
  match ← v.record? ["name", "values", "color"] with
  | [some name, some values, color] =>
    return {
      name := ← name.toText?
      values := ← values.toList? Json.toFloat?
      color := ← Json.fieldOr none (Json.toOption? Json.toText?) color }
  | _ => none

end Series

namespace Hints

def toJson (h : Hints) : Json :=
  .ofFields
    [("xAxis", h.xAxis.map Json.ofString), ("yAxis", h.yAxis.map Json.ofString),
      ("theme", h.theme.map Json.ofString), ("colors", h.colors.map Json.ofStrings)]

def ofJson? (v : Json) : Option Hints := do
  match ← v.record? ["xAxis", "yAxis", "theme", "colors"] with
  | [xAxis, yAxis, theme, colors] =>
    return {
      xAxis := ← Json.fieldOr none (Json.toOption? Json.toText?) xAxis
      yAxis := ← Json.fieldOr none (Json.toOption? Json.toText?) yAxis
      theme := ← Json.fieldOr none (Json.toOption? Json.toText?) theme
      colors := ← Json.fieldOr none (Json.toOption? (Json.toList? Json.toText?)) colors }
  | _ => none

end Hints

namespace Chart

def toJson (c : Chart) : Json :=
  .ofFields
    [("type", some c.type.toJson), ("title", c.title.map Json.ofString),
      ("subtitle", c.subtitle.map Json.ofString), ("labels", some (.ofStrings c.labels)),
      ("values", some (.array (c.values.map Json.ofFloat))),
      ("series", c.series.map fun series => .array (series.map Series.toJson)),
      ("meta", c.hints.map Hints.toJson)]

def ofJson? (v : Json) : Option Chart := do
  match ← v.record? ["type", "title", "subtitle", "labels", "values", "series", "meta"] with
  | [type, title, subtitle, some labels, some values, series, hints] =>
    return {
      type := ← Json.fieldOr .bar ChartType.ofJson? type
      title := ← Json.fieldOr none (Json.toOption? Json.toText?) title
      subtitle := ← Json.fieldOr none (Json.toOption? Json.toText?) subtitle
      labels := ← labels.toList? Json.toText?
      values := ← values.toList? Json.toFloat?
      series := ← Json.fieldOr none (Json.toOption? (Json.toList? Series.ofJson?)) series
      hints := ← Json.fieldOr none (Json.toOption? Hints.ofJson?) hints }
  | _ => none

def ofJsonText? (text : String) : Option Chart :=
  (Json.parse? text).bind ofJson?

/-- Why a text is not the JSON form of a chart. -/
def jsonFault (text : String) : String :=
  if (Json.parse? text).isNone then "the text is not JSON" else "the value is not a chart"

def toJsonText (c : Chart) : String :=
  c.toJson.pretty

end Chart

def Diagnostic.toJson (d : Diagnostic) : Json :=
  .ofFields
    [("line", some (.ofNat d.line)), ("message", some (.ofString d.message)),
      ("hint", d.hint.map Json.ofString), ("source", d.source.map Json.ofString)]

def Diagnostic.listToJson (ds : List Diagnostic) : Json :=
  .array (ds.map toJson)

end ChartText
