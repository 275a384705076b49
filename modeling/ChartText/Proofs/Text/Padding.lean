import ChartText.Text.Blank
import Mathlib.Data.List.TakeWhile

/-! # Blanks around a text

Trimming takes off the blanks around a text and nothing else: a text is what trimming leaves of it,
with blanks before and after (`isPadded_trim`), and a text with blanks around it is trimmed as it is
without them (`IsPadded.trim_eq`). -/

namespace ChartText.Text

/-- The line is the text with blanks before and after it. -/
def IsPadded (text line : List Char) : Prop :=
  ∃ before after, (∀ c ∈ before, isBlank c = true) ∧ (∀ c ∈ after, isBlank c = true) ∧
    line = before ++ text ++ after

theorem IsPadded.refl (line : List Char) : IsPadded line line :=
  ⟨[], [], by simp⟩

theorem IsPadded.cons_blank {c : Char} {text line : List Char} (hc : isBlank c = true)
    (h : IsPadded text line) : IsPadded text (c :: line) := by
  obtain ⟨before, after, hbefore, hafter, rfl⟩ := h
  exact ⟨c :: before, after, List.forall_mem_cons.mpr ⟨hc, hbefore⟩, hafter, rfl⟩

theorem trimEnd_append_blank (s : List Char) {after : List Char}
    (h : ∀ c ∈ after, isBlank c = true) : trimEnd (s ++ after) = trimEnd s := by
  rw [trimEnd, List.reverse_append, List.dropWhile_append_of_pos, trimEnd]
  exact fun c hc => h c (List.mem_reverse.mp hc)

theorem IsPadded.trim_eq {text line : List Char} (h : IsPadded text line) : trim line = trim text := by
  obtain ⟨before, after, hbefore, hafter, rfl⟩ := h
  have hstart : trimStart (before ++ text ++ after) = trimStart (text ++ after) := by
    rw [List.append_assoc, trimStart, List.dropWhile_append_of_pos hbefore, trimStart]
  rw [trim, hstart, trim]
  by_cases hblank : (text.dropWhile isBlank).isEmpty = true
  · -- nothing is left of the text, and so nothing of what follows it
    have hnone : trimStart (text ++ after) = [] := by
      rw [trimStart, List.dropWhile_append, if_pos hblank]
      exact List.dropWhile_eq_nil_iff.mpr hafter
    rw [hnone, trimStart, List.isEmpty_iff.mp hblank]
  · have hsome : trimStart (text ++ after) = trimStart text ++ after := by
      rw [trimStart, List.dropWhile_append, if_neg hblank, trimStart]
    rw [hsome, trimEnd_append_blank _ hafter]

theorem isPadded_trim (s : List Char) : IsPadded (trim s) s := by
  have hblank : ∀ t : List Char, ∀ c ∈ t.takeWhile isBlank, isBlank c = true := fun t c hc =>
    List.all_eq_true.mp List.all_takeWhile c hc
  refine ⟨s.takeWhile isBlank, ((trimStart s).reverse.takeWhile isBlank).reverse, hblank s,
    fun c hc => hblank _ c (List.mem_reverse.mp hc), ?_⟩
  rw [List.append_assoc, trim, trimEnd, ← List.reverse_append, List.takeWhile_append_dropWhile,
    List.reverse_reverse, trimStart, List.takeWhile_append_dropWhile]

end ChartText.Text
