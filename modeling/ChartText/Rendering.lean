import ChartText.Chart.Json
import ChartText.Drawing
import ChartText.Failure
import ChartText.Settings
import ChartText.Source.Document

/-! # From text to picture

A chart is given as a document or as JSON, and its picture is asked for on its own or inside a JSON
envelope. An envelope also tells of documents that cannot be read or drawn. -/

namespace ChartText

inductive ChartForm
  | document
  | json
deriving Repr, DecidableEq

namespace ChartForm

def read (form : ChartForm) (text : String) : Except Failure Chart :=
  match form with
  | document =>
    match Source.parseStandard text with
    | .ok chart => .ok chart
    | .error diagnostics => .error (.document diagnostics)
  | json =>
    match Chart.ofJsonText? text with
    | some chart => .ok chart
    | none => .error (.undecodableChart (Chart.jsonFault text))

end ChartForm

/-- The JSON text of the chart in a document, as a line. -/
def documentToJson (text : String) : Except Failure String :=
  (ChartForm.document.read text).map fun chart => chart.toJsonText ++ "\n"

/-- Draws a chart with the options that the settings give it. -/
def DrawingSettings.draw (s : DrawingSettings) (c : Chart) : Except RenderError String :=
  c.render (s.optionsFor c)

def DrawingSettings.picture (s : DrawingSettings) (form : ChartForm) (text : String) :
    Except Failure String := do
  let chart ← form.read text
  match s.draw chart with
  | .ok svg => .ok svg
  | .error e => .error (.drawing e)

/-! ### Envelopes -/

inductive Envelope
  | rendered (chart : Chart) (svg : String)
  | invalid (diagnostics : List Diagnostic)
  | failed (error : RenderError)

namespace Envelope

def isOk : Envelope → Bool
  | rendered .. => true
  | invalid _ | failed _ => false

def toJson : Envelope → Json
  | rendered chart svg =>
    .ofFields
      [("ok", some (.bool true)), ("ir", some chart.toJson), ("svg", some (.ofString svg))]
  | invalid diagnostics =>
    .ofFields
      [("ok", some (.bool false)), ("errors", some (Diagnostic.listToJson diagnostics))]
  | failed error =>
    .ofFields
      [("ok", some (.bool false)), ("error", some (.ofString error.message)),
        ("code", some (.ofString "RENDER_ERROR"))]

def text (e : Envelope) : String :=
  e.toJson.pretty

def ofChart (s : DrawingSettings) (c : Chart) : Envelope :=
  match s.draw c with
  | .ok svg => rendered c svg
  | .error e => failed e

end Envelope

/-- The envelope of a chart given by its text. A text that is not the JSON form of a chart has no
envelope. -/
def DrawingSettings.envelope (s : DrawingSettings) (form : ChartForm) (text : String) :
    Except Failure Envelope :=
  match form.read text with
  | .ok chart => .ok (.ofChart s chart)
  | .error (.document diagnostics) => .ok (.invalid diagnostics)
  | .error failure => .error failure

end ChartText
