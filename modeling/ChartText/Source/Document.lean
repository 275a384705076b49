import ChartText.Source.Line

/-! # Documents

A document is a header followed by data. The first entry whose key is not in the vocabulary is the
first row of the data, and from there on every entry is a row, whatever its key. `parse` gives the
chart of a document, or a diagnostic for every line at fault. -/

namespace ChartText.Source

/-! ### The header -/

structure Header where
  type : ChartType := .bar
  title : Option String := none
  subtitle : Option String := none
  legend : List String := []
  hints : Hints := {}

namespace Header

/-- A title without its quotes, unless nothing is left of it. -/
def title? (value : List Char) : Option String :=
  let text := stripQuotes value
  if text.isEmpty then none else some (String.ofList text)

def names (value : List Char) : List String :=
  (splitList value).map String.ofList

def set (vocabulary : Vocabulary) (h : Header) (key : HeaderKey) (value : List Char) :
    Except Fault Header :=
  match key with
  | .type =>
    match vocabulary.chartType? value with
    | some type => .ok { h with type }
    | none => .error (.unknownType vocabulary value)
  | .title => .ok { h with title := title? value }
  | .subtitle => .ok { h with subtitle := title? value }
  | .theme => .ok { h with hints := { h.hints with theme := some (String.ofList value) } }
  | .xAxis => .ok { h with hints := { h.hints with xAxis := some (String.ofList value) } }
  | .yAxis => .ok { h with hints := { h.hints with yAxis := some (String.ofList value) } }
  | .legend => .ok { h with legend := names value }
  | .colors => .ok { h with hints := { h.hints with colors := some (names value) } }

/-- What a line of the header makes of the header before it. -/
def read (vocabulary : Vocabulary) (h : Header) (line : Line) : Except Fault Header :=
  match line with
  | .ignored => .ok h
  | .faulty fault => .error fault
  | .entry key value =>
    match vocabulary.headerKey? key with
    | some field => h.set vocabulary field value
    | none => .ok h

/-- The header after one more line. A line at fault changes nothing. -/
def step (vocabulary : Vocabulary) (h : Header) (l : NumberedLine) : Header :=
  match h.read vocabulary l.line with
  | .ok h' => h'
  | .error _ => h

def ofLines (vocabulary : Vocabulary) (lines : List NumberedLine) : Header :=
  lines.foldl (step vocabulary) {}

/-- What is wrong with a line of the header, which does not depend on the lines before it. -/
def fault? (vocabulary : Vocabulary) (line : Line) : Option Fault :=
  match ({} : Header).read vocabulary line with
  | .ok _ => none
  | .error fault => some fault

end Header

/-! ### The data -/

/-- A label and at least one value. -/
structure Row where
  label : String
  first : Float
  others : List Float

namespace Row

def values (r : Row) : List Float :=
  r.first :: r.others

def readPiece (key piece : List Char) : Except Fault Float :=
  match number? piece with
  | some x => .ok x
  | none => .error (.badPiece key piece)

/-- A value that is no number is quoted whole. As a value is cut into several pieces only if all of
them are numbers, `readPiece` finds no fault. -/
def ofEntry (key value : List Char) : Except Fault Row :=
  match splitValues value with
  | [piece] =>
    match number? piece with
    | some x => .ok ⟨String.ofList key, x, []⟩
    | none => .error (.notANumber key value)
  | pieces => do
    match ← pieces.mapM (readPiece key) with
    | first :: others => return ⟨String.ofList key, first, others⟩
    | [] => .error (.notANumber key value)

def ofLine? (line : Line) : Option Row :=
  match line with
  | .entry key value => (ofEntry key value).toOption
  | _ => none

def fault? (line : Line) : Option Fault :=
  match line with
  | .ignored => none
  | .faulty fault => some fault
  | .entry key value =>
    match ofEntry key value with
    | .ok _ => none
    | .error fault => some fault

end Row

/-- How many series the rows have: as many as the first row with several values has values. -/
def seriesCount? (rows : List Row) : Option Nat :=
  (rows.find? (!·.others.isEmpty)).map (·.values.length)

/-- The columns of the rows. Short rows are filled up with zeros, long rows are cut off, and a
series that the legend does not name is numbered. -/
def columns (legend : List String) (rows : List Row) (count : Nat) : List Series :=
  (List.range count).map fun i =>
    { name := legend[i]?.getD s!"Series {i + 1}"
      values := rows.map fun row => row.values[i]?.getD 0.0
      color := none }

/-! ### The document -/

/-- The line is an entry that cannot belong to a header. -/
def startsData (vocabulary : Vocabulary) (l : NumberedLine) : Bool :=
  match l.line with
  | .entry key _ => (vocabulary.headerKey? key).isNone
  | _ => false

def headerLines (vocabulary : Vocabulary) (lines : List NumberedLine) : List NumberedLine :=
  lines.takeWhile (!startsData vocabulary ·)

def dataLines (vocabulary : Vocabulary) (lines : List NumberedLine) : List NumberedLine :=
  lines.dropWhile (!startsData vocabulary ·)

def rowsOf (lines : List NumberedLine) : List Row :=
  lines.filterMap fun l => Row.ofLine? l.line

/-- One diagnostic for every line at fault, in their order. -/
def lineDiagnostics (vocabulary : Vocabulary) (lines : List NumberedLine) : List Diagnostic :=
  (headerLines vocabulary lines).filterMap
      (fun l => (Header.fault? vocabulary l.line).map l.diagnostic) ++
    (dataLines vocabulary lines).filterMap (fun l => (Row.fault? l.line).map l.diagnostic)

def chartOf (header : Header) (rows : List Row) : Chart where
  type := header.type
  title := header.title
  subtitle := header.subtitle
  labels := rows.map Row.label
  values := rows.map Row.first
  series := (seriesCount? rows).map (columns header.legend rows)
  hints := if header.hints.isEmpty then none else some header.hints

def parseLines (vocabulary : Vocabulary) (lines : List NumberedLine) :
    Except (List Diagnostic) Chart :=
  let rows := rowsOf (dataLines vocabulary lines)
  match lineDiagnostics vocabulary lines with
  | [] =>
    if rows.isEmpty then .error [Fault.noData.ofDocument]
    else .ok (chartOf (Header.ofLines vocabulary (headerLines vocabulary lines)) rows)
  | diagnostics => .error diagnostics

/-- The chart of a document, or everything that is wrong with it. -/
def parse (vocabulary : Vocabulary) (source : String) : Except (List Diagnostic) Chart :=
  parseLines vocabulary (numberedLines source.toList)

def parseStandard (source : String) : Except (List Diagnostic) Chart :=
  parse .standard source

end ChartText.Source
