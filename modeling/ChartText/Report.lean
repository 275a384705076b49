import ChartText.Failure
import ChartText.Text.Lines

/-! # Reports

What is told to the person at the terminal: a headline, details and advice. A report is a list of
lines made of spans, and is written with or without colours. Every coloured span ends with a reset
of its own, so no colour outlives its line. -/

namespace ChartText

inductive Emphasis
  | plain
  | failure
  | warning
  | faint
  | help
deriving Repr, DecidableEq

structure Span where
  emphasis : Emphasis := .plain
  text : String
deriving Repr, DecidableEq

abbrev Report := List (List Span)

namespace Report

/-! ### Writing -/

/-- The terminal sequence that sets the attributes with the given numbers. -/
def sequence (attributes : List String) : String :=
  String.join (attributes.map fun a => "\x1b[" ++ a ++ "m")

end Report

/-- The terminal attributes of an emphasis: 1 is bold, 2 is faint, 31, 33 and 36 are red, yellow and
cyan. -/
def Emphasis.attributes : Emphasis → List String
  | plain => []
  | failure => ["1", "31"]
  | warning => ["1", "33"]
  | faint => ["2"]
  | help => ["36"]

def Span.write (colored : Bool) (s : Span) : String :=
  if colored && s.emphasis ≠ .plain then
    Report.sequence s.emphasis.attributes ++ s.text ++ Report.sequence ["0"]
  else s.text

namespace Report

def writeLine (colored : Bool) (line : List Span) : String :=
  String.join (line.map (Span.write colored)) ++ "\n"

def write (colored : Bool) (r : Report) : String :=
  String.join (r.map (writeLine colored))

/-! ### Parts -/

def plainLine (text : String) : List Span :=
  [⟨.plain, text⟩]

def detailLine (text : String) : List Span :=
  [⟨.plain, "  "⟩, ⟨.faint, "× " ++ text⟩]

def helpLine (indent text : String) : List Span :=
  [⟨.plain, indent⟩, ⟨.help, "help:"⟩, ⟨.plain, " " ++ text⟩]

def particulars (detail? advice? : Option String) : Report :=
  (detail?.map detailLine).toList ++ (advice?.map (helpLine "  ")).toList

/-! ### Whole reports -/

def error (kind message : String) (detail? advice? : Option String) : Report :=
  [⟨.failure, "✖ " ++ kind ++ ":"⟩, ⟨.plain, " " ++ message⟩] :: particulars detail? advice?

def warning (message : String) (detail? advice? : Option String) : Report :=
  [⟨.warning, "⚠ Warning:"⟩, ⟨.plain, " " ++ message⟩] :: particulars detail? advice?

/-- The lines of a hint, the first one as help and the others below its text. -/
def hintLines (hint : String) : Report :=
  match Text.lines hint.toList with
  | [] => []
  | first :: rest =>
    helpLine "    " (String.ofList first) ::
      rest.map fun line => plainLine ("          " ++ String.ofList line)

def ofDiagnostic (d : Diagnostic) : Report :=
  [detailLine d.text] ++ (d.source.map fun s => plainLine ("    | " ++ s)).toList ++
    (d.hint.map hintLines).getD []

def ofDiagnostics (ds : List Diagnostic) : Report :=
  error "Parse" (Diagnostic.countText ds) none none ++ ds.flatMap ofDiagnostic

def ofFailure : Failure → Report
  | .document diagnostics => ofDiagnostics diagnostics
  | f => error f.kind f.message f.detail? f.advice?

end Report
end ChartText
