/-! # Escaping for markup

`escape` writes the five characters that mean something in markup as character references, so an
escaped text can stand between tags and inside a quoted attribute. -/

namespace ChartText.Text

def escapeChar : Char → List Char
  | '&' => "&amp;".toList
  | '<' => "&lt;".toList
  | '>' => "&gt;".toList
  | '"' => "&quot;".toList
  | '\'' => "&#39;".toList
  | c => [c]

def escapeChars (s : List Char) : List Char :=
  s.flatMap escapeChar

def escape (s : String) : String :=
  String.ofList (escapeChars s.toList)

@[simp] theorem escapeChars_nil : escapeChars [] = [] := rfl

@[simp] theorem escapeChars_append (s t : List Char) :
    escapeChars (s ++ t) = escapeChars s ++ escapeChars t := by
  simp [escapeChars]

/-- No escaped text contains a character that opens or closes a tag or an attribute value. -/
theorem not_mem_escapeChars {c : Char} (hc : c = '<' ∨ c = '>' ∨ c = '"' ∨ c = '\'')
    (s : List Char) : c ∉ escapeChars s := by
  unfold escapeChars
  rw [List.mem_flatMap]
  rintro ⟨d, -, hd⟩
  unfold escapeChar at hd
  rcases hc with rfl | rfl | rfl | rfl <;> split at hd <;> simp at hd <;> grind

end ChartText.Text
