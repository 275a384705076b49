import ChartText.Text.Escape

/-! # Reading escaped texts

`unescape` puts back the characters that the references of an escaped text stand for, so the text
that was escaped can be told from its markup (`unescape_escapeChars`). -/

namespace ChartText.Text

/-- The text with the five references replaced by the characters that they stand for. -/
def unescape : List Char → List Char
  | '&' :: 'a' :: 'm' :: 'p' :: ';' :: s => '&' :: unescape s
  | '&' :: 'l' :: 't' :: ';' :: s => '<' :: unescape s
  | '&' :: 'g' :: 't' :: ';' :: s => '>' :: unescape s
  | '&' :: 'q' :: 'u' :: 'o' :: 't' :: ';' :: s => '"' :: unescape s
  | '&' :: '#' :: '3' :: '9' :: ';' :: s => '\'' :: unescape s
  | c :: s => c :: unescape s
  | [] => []

theorem unescape_cons {c : Char} (hc : c ≠ '&') (s : List Char) :
    unescape (c :: s) = c :: unescape s := by
  rw [unescape] <;> simp [hc]

theorem unescape_escapeChar_append (c : Char) (s : List Char) :
    unescape (escapeChar c ++ s) = c :: unescape s := by
  unfold escapeChar
  split
  · exact unescape.eq_1 s
  · exact unescape.eq_2 s
  · exact unescape.eq_3 s
  · exact unescape.eq_4 s
  · exact unescape.eq_5 s
  · next hamp _ _ _ _ => exact unescape_cons hamp s

theorem unescape_escapeChars (s : List Char) : unescape (escapeChars s) = s := by
  induction s with
  | nil => rfl
  | cons c s ih =>
    show unescape (escapeChar c ++ escapeChars s) = c :: s
    rw [unescape_escapeChar_append, ih]

theorem unescape_escape (s : String) : unescape (escape s).toList = s.toList := by
  rw [escape, String.toList_ofList, unescape_escapeChars]

end ChartText.Text
