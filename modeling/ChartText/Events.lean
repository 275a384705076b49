import ChartText.Embedding
import ChartText.Log

/-! # What is logged of a document

Reading a document, drawing its chart and embedding charts into Markdown give values only. What the
program logs on the way depends on the same texts, charts and settings, and is told apart here. -/

namespace ChartText

namespace Source

def headerEvents (vocabulary : Vocabulary) (lines : List NumberedLine) : List LogEvent :=
  (headerLines vocabulary lines).filterMap fun l =>
    match l.line with
    | .entry key _ => (vocabulary.headerKey? key).map (.headerField l.number)
    | _ => none

def rowEvents (vocabulary : Vocabulary) (lines : List NumberedLine) : List LogEvent :=
  (dataLines vocabulary lines).filterMap fun l =>
    match Row.ofLine? l.line with
    | some row =>
      if row.others.isEmpty then none else some (.severalValues l.number row.values.length)
    | none => none

/-- The events of a document, in the order of its lines. Lines at fault have none, but for a chart
type that is unknown. -/
def events (vocabulary : Vocabulary) (source : String) : List LogEvent :=
  let lines := numberedLines source.toList
  headerEvents vocabulary lines ++ rowEvents vocabulary lines

end Source

def ChartForm.events (form : ChartForm) (text : String) : List LogEvent :=
  match form with
  | document => Source.events .standard text
  | json => []

def documentEvents (text : String) : List LogEvent :=
  ChartForm.document.events text ++
    match ChartForm.document.read text with
    | .ok c => [.readDocument c.type c.labels.length]
    | .error _ => []

/-- Slices are logged only once the whole chart is drawn. -/
def Chart.drawingEvents (c : Chart) (o : Options) : List LogEvent :=
  .drawingChart c.type c.labels.length ((c.series.map List.length).getD 1) o.canvas.width
      o.canvas.height ::
    match c.type with
    | .pie | .donut =>
      if (c.drawing o).isOk then [.laidOutSlices c.type c.values.length] else []
    | .bar | .line | .area => []

def DrawingSettings.pictureEvents (s : DrawingSettings) (form : ChartForm) (text : String) :
    List LogEvent :=
  form.events text ++
    match form.read text with
    | .ok c => (c.ignoredTheme?.map .ignoredTheme).toList ++ c.drawingEvents (s.optionsFor c)
    | .error _ => []

def Settings.embeddingEvents (s : Settings) (blocks : List ChartBlock) : List LogEvent :=
  .embeddingCharts blocks.length ::
    blocks.flatMap fun block => s.drawing.pictureEvents .document block.source

end ChartText
