import ChartText.Proofs.Text.Printable
import ChartText.Proofs.Text.Reflow
import ChartText.Text.Blank
import ChartText.Text.Escape

/-! # Texts without blank lines

A text is `Filled` if there is something on every line of it, behind spaces at most. A text without
line feeds can be put behind it, or in front of it, and another filled text on the next line. -/

namespace ChartText.Text

/-- The text has no line feed in it. -/
def IsLine (s : String) : Prop :=
  '\n' ∉ s.toList

-- given by hand, so that no instance that goes through all characters is found
instance decidableIsLine (s : String) : Decidable (IsLine s) :=
  inferInstanceAs (Decidable ('\n' ∉ s.toList))

theorem IsLine.append {s t : String} (hs : IsLine s) (ht : IsLine t) : IsLine (s ++ t) :=
  notMem_append hs ht

theorem IsLine.escape {s : String} (h : IsLine s) : IsLine (Text.escape s) := by
  unfold IsLine Text.escape
  rw [String.toList_ofList, escapeChars, List.mem_flatMap]
  rintro ⟨c, hc, hmem⟩
  exact notMem_escapeChar (.inl rfl) (ne_of_mem_of_not_mem hc h) hmem

theorem IsPrintable.isLine {s : String} (h : IsPrintable s) : IsLine s :=
  h.notMem rfl

/-- After spaces, if there are any, the line has a character that is not blank. -/
def IsIndented (line : List Char) : Prop :=
  ∃ n c rest, line = List.replicate n ' ' ++ c :: rest ∧ isBlank c = false

/-- Every line of the text is indented by spaces alone. -/
def Filled (s : List Char) : Prop :=
  ∀ line ∈ cutLines s, IsIndented line

/-! ### Lines of longer texts -/

theorem cutLines_line_feed (s : List Char) : cutLines ('\n' :: s) = [] :: cutLines s := by
  rw [cutLines, cutAt_cons]
  rfl

theorem cutLines_cons {c : Char} (hc : c ≠ '\n') (s : List Char) :
    cutLines (c :: s) = (cutLines s).modifyHead (c :: ·) := by
  rw [cutLines, cutAt_cons, if_neg (by simpa using hc)]
  rfl

theorem cutLines_append {s : List Char} (hs : '\n' ∉ s) (t : List Char) :
    cutLines (s ++ t) = (cutLines t).modifyHead (s ++ ·) := by
  induction s with
  | nil => cases h : cutLines t <;> simp [h]
  | cons c s ih =>
    rw [List.mem_cons, not_or] at hs
    rw [List.cons_append, cutLines_cons (Ne.symm hs.1), ih hs.2]
    cases cutLines t <;> rfl

theorem cutLines_escapeChars (s : List Char) :
    cutLines (escapeChars s) = (cutLines s).map escapeChars := by
  induction s with
  | nil => rfl
  | cons c s ih =>
    by_cases hc : c = '\n'
    · subst hc
      show cutLines ('\n' :: escapeChars s) = _
      rw [cutLines_line_feed, cutLines_line_feed, ih]
      rfl
    · show cutLines (escapeChar c ++ escapeChars s) = _
      rw [cutLines_append (notMem_escapeChar (.inl rfl) hc), cutLines_cons hc, ih]
      cases cutLines s <;> rfl

theorem exists_last_line (s : List Char) :
    ∃ init last, cutLines s = init ++ [last] ∧
      ∀ t, cutLines (s ++ t) = init ++ (cutLines t).modifyHead (last ++ ·) := by
  induction s with
  | nil =>
    refine ⟨[], [], rfl, fun t => ?_⟩
    cases h : cutLines t <;> simp [h]
  | cons c s ih =>
    obtain ⟨init, last, hs, hst⟩ := ih
    by_cases hc : c = '\n'
    · subst hc
      refine ⟨[] :: init, last, by rw [cutLines_line_feed, hs]; rfl, fun t => ?_⟩
      rw [List.cons_append, cutLines_line_feed, hst]
      rfl
    · cases init with
      | nil =>
        refine ⟨[], c :: last, by rw [cutLines_cons hc, hs]; rfl, fun t => ?_⟩
        rw [List.cons_append, cutLines_cons hc, hst]
        cases cutLines t <;> rfl
      | cons first init =>
        refine ⟨(c :: first) :: init, last, by rw [cutLines_cons hc, hs]; rfl, fun t => ?_⟩
        rw [List.cons_append, cutLines_cons hc, hst]
        rfl

/-! ### Indented lines -/

theorem isIndented_cons {c : Char} (hc : isBlank c = false) (s : List Char) : IsIndented (c :: s) :=
  ⟨0, c, s, rfl, hc⟩

namespace IsIndented
variable {s : List Char}

theorem isAllBlank_eq_false (h : IsIndented s) : isAllBlank s = false := by
  obtain ⟨n, c, rest, rfl, hc⟩ := h
  exact List.all_eq_false.mpr ⟨c, by simp, by simp [hc]⟩

theorem append (h : IsIndented s) (t : List Char) : IsIndented (s ++ t) := by
  obtain ⟨n, c, rest, rfl, hc⟩ := h
  exact ⟨n, c, rest ++ t, by simp, hc⟩

theorem escapeChars (h : IsIndented s) : IsIndented (Text.escapeChars s) := by
  obtain ⟨n, c, rest, rfl, hc⟩ := h
  have hspaces : Text.escapeChars (List.replicate n ' ') = List.replicate n ' ' := by
    rw [Text.escapeChars, List.flatMap_replicate]
    exact List.flatten_replicate_singleton
  obtain ⟨d, tail, hd, hblank⟩ : ∃ d tail, escapeChar c = d :: tail ∧ isBlank d = false := by
    unfold escapeChar
    split
    iterate 5 exact ⟨'&', _, rfl, by decide⟩
    exact ⟨c, [], rfl, hc⟩
  refine ⟨n, d, tail ++ Text.escapeChars rest, ?_, hblank⟩
  rw [escapeChars_append, hspaces, Text.escapeChars, List.flatMap_cons, hd]
  rfl

end IsIndented

/-! ### Filled texts -/

theorem filled_of_isIndented {s : List Char} (hs : '\n' ∉ s) (h : IsIndented s) : Filled s := by
  intro line hline
  rw [cutLines_eq_singleton hs, List.mem_singleton] at hline
  exact hline ▸ h

namespace Filled
variable {s t : List Char}

theorem append (hs : Filled s) (ht : '\n' ∉ t) : Filled (s ++ t) := by
  obtain ⟨init, last, hlines, hlonger⟩ := exists_last_line s
  intro line hline
  rw [hlonger, cutLines_eq_singleton ht, List.modifyHead_cons] at hline
  rcases List.mem_append.mp hline with hline | hline
  · exact hs line (hlines ▸ List.mem_append_left _ hline)
  · have hlast : IsIndented last := hs last (by simp [hlines])
    exact List.mem_singleton.mp hline ▸ hlast.append t

theorem prepend (hs : Filled s) (ht : '\n' ∉ t) (h : IsIndented t) : Filled (t ++ s) := by
  intro line hline
  rw [cutLines_append ht] at hline
  obtain ⟨first, rest, hlines⟩ := List.exists_cons_of_ne_nil (cutAt_ne_nil (· == '\n') s)
  have hlines : cutLines s = first :: rest := hlines
  rw [hlines, List.modifyHead_cons] at hline
  rcases List.mem_cons.mp hline with rfl | hline
  · exact h.append first
  · exact hs line (hlines ▸ List.mem_cons_of_mem _ hline)

theorem append_line (hs : Filled s) (ht : Filled t) : Filled (s ++ '\n' :: t) := by
  obtain ⟨init, last, hlines, hlonger⟩ := exists_last_line s
  intro line hline
  rw [hlonger, cutLines_line_feed, List.modifyHead_cons, List.append_nil, List.append_cons,
    ← hlines] at hline
  exact (List.mem_append.mp hline).elim (hs line) (ht line)

theorem escapeChars (hs : Filled s) : Filled (Text.escapeChars s) := by
  intro line hline
  rw [cutLines_escapeChars] at hline
  obtain ⟨unescaped, hmem, rfl⟩ := List.mem_map.mp hline
  exact (hs unescaped hmem).escapeChars

end Filled

end ChartText.Text
