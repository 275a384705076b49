/-! # Diagnostics

What a reader is told about one line of a document. Line 0 stands for the document as a whole. -/

namespace ChartText

structure Diagnostic where
  line : Nat
  message : String
  hint : Option String := none
  /-- The line itself, trimmed. -/
  source : Option String := none
deriving Repr, DecidableEq

namespace Diagnostic

/-- The one-line form. -/
def text (d : Diagnostic) : String :=
  s!"Line {d.line}: {d.message}"

/-- The first diagnostic, and how many more there are. -/
def summary : List Diagnostic → String
  | [] => "no diagnostics"
  | [d] => d.text
  | d :: rest => s!"{d.text} (and {rest.length} more)"

def countText (ds : List Diagnostic) : String :=
  if ds.length = 1 then "1 problem found" else s!"{ds.length} problems found"

end Diagnostic
end ChartText
