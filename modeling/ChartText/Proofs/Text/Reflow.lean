import ChartText.Svg.Document
import Mathlib.Data.List.Basic

/-! # Texts that are indented again

An element is written first and indented line by line afterwards, so a line feed in what a user
wrote is followed by an indent in the document, and a carriage return in front of it is gone.
`reflow` says so character by character: it is what becomes of a text that does not end a line
(`flatMap_lines_append`), and markup characters stay where they are (`reflow_append_cons`). It makes
no difference whether a text is escaped before or after that (`reflow_escapeChars`). -/

namespace ChartText.Text

/-- The step by which lines are indented, as characters. -/
def margin : List Char := [' ', ' ', ' ', ' ']

/-- Every line after the first one is indented, and carriage returns at line ends are dropped. -/
def reflow : List Char → List Char
  | '\r' :: '\n' :: s => '\n' :: margin ++ reflow s
  | '\n' :: s => '\n' :: margin ++ reflow s
  | c :: s => c :: reflow s
  | [] => []

theorem reflow_line_feed (s : List Char) : reflow ('\n' :: s) = '\n' :: margin ++ reflow s := by
  rw [reflow]

theorem reflow_cons {c : Char} (hf : c ≠ '\n') {s : List Char}
    (hr : c = '\r' → s.head? ≠ some '\n') : reflow (c :: s) = c :: reflow s := by
  rw [reflow]
  · rintro rest rfl rfl
    exact hr rfl rfl
  · exact hf

/-- A character that is no part of a line ending parts a text into two. -/
theorem reflow_append_cons {c : Char} (hf : c ≠ '\n') (hr : c ≠ '\r') (s t : List Char) :
    reflow (s ++ c :: t) = reflow s ++ c :: reflow t := by
  fun_induction reflow s with
  | case1 s ih => simp [reflow, ih]
  | case2 s ih => simp [reflow, ih]
  | case3 d s hcrlf hlf ih =>
    rw [List.cons_append, List.cons_append, ← ih]
    refine reflow_cons (fun h => hlf h) fun hd hhead => ?_
    cases s with
    | nil => exact hf (by simpa using hhead)
    | cons e s =>
      obtain rfl : e = '\n' := by simpa using hhead
      exact hcrlf s hd rfl
  | case4 => exact reflow_cons hf fun h => absurd h hr

theorem reflow_append {s : List Char} (hf : '\n' ∉ s) (hr : '\r' ∉ s) (t : List Char) :
    reflow (s ++ t) = s ++ reflow t := by
  induction s with
  | nil => rfl
  | cons c s ih =>
    rw [List.mem_cons, not_or] at hf hr
    have hc : c = '\r' → (s ++ t).head? ≠ some '\n' := fun hc => absurd hc.symm hr.1
    rw [List.cons_append, reflow_cons (Ne.symm hf.1) hc, ih hf.2 hr.2]
    rfl

theorem reflow_eq_self {s : List Char} (h : '\n' ∉ s) : reflow s = s := by
  induction s with
  | nil => rfl
  | cons c s ih =>
    rw [List.mem_cons, not_or] at h
    rw [reflow_cons (Ne.symm h.1), ih h.2]
    exact fun _ hhead => h.2 (List.mem_of_head? hhead)

theorem mem_reflow {s : List Char} {c : Char} (h : c ∈ reflow s) : c ∈ s ∨ c = ' ' := by
  fun_induction reflow s with
  | case1 s ih | case2 s ih =>
    simp only [margin, List.mem_cons, List.cons_append, List.nil_append] at h ⊢
    grind
  | case3 d s _ _ ih =>
    simp only [List.mem_cons] at h ⊢
    grind
  | case4 => exact .inl h

/-! ### The lines of a text -/

theorem cutLines_append_cons {s : List Char} (h : '\n' ∉ s) (t : List Char) :
    cutLines (s ++ '\n' :: t) = s :: cutLines t := by
  refine cutAt_append_cons (fun d hd => ?_) rfl t
  exact beq_false_of_ne (ne_of_mem_of_not_mem hd h)

theorem cutLines_eq_singleton {s : List Char} (h : '\n' ∉ s) : cutLines s = [s] := by
  refine cutAt_eq_singleton fun d hd => ?_
  exact beq_false_of_ne (ne_of_mem_of_not_mem hd h)

theorem lines_append_cons {s : List Char} (h : '\n' ∉ s) (t : List Char) :
    lines (s ++ '\n' :: t) = dropCarriageReturn s :: lines t := by
  obtain ⟨first, rest, hr⟩ := List.exists_cons_of_ne_nil (cutAt_ne_nil (· == '\n') t)
  have hr' : cutLines t = first :: rest := hr
  simp [lines, cutLines_append_cons h, hr']

theorem lines_eq_singleton {s : List Char} (h : '\n' ∉ s) (hne : s ≠ []) : lines s = [s] := by
  simp [lines, cutLines_eq_singleton h, hne]

theorem of_mem_lines {s line : List Char} {c : Char} (h : line ∈ lines s) (hc : c ∈ line) :
    c ∈ s ∧ c ≠ '\n' := by
  obtain ⟨piece, hpiece, hmem⟩ : ∃ piece ∈ cutLines s, c ∈ piece := by
    rcases List.mem_append.mp h with h | h
    · obtain ⟨piece, hpiece, rfl⟩ := List.mem_map.mp h
      refine ⟨piece, (List.dropLast_sublist _).subset hpiece, ?_⟩
      unfold dropCarriageReturn at hc
      split at hc
      · exact (List.dropLast_sublist _).subset hc
      · exact hc
    · split at h
      · cases h
      · rw [List.mem_singleton] at h
        rw [h] at hc
        have hne : cutLines s ≠ [] := cutAt_ne_nil _ s
        rw [List.getLastD_eq_getLast?, List.getLast?_eq_some_getLast hne] at hc
        exact ⟨_, List.getLast_mem hne, hc⟩
  simpa using of_mem_cutAt hpiece hmem

theorem reflow_append_line_feed {s : List Char} (h : '\n' ∉ s) (t : List Char) :
    reflow (s ++ '\n' :: t) = dropCarriageReturn s ++ '\n' :: margin ++ reflow t := by
  induction s with
  | nil => rw [List.nil_append, reflow_line_feed]; rfl
  | cons c s ih =>
    rw [List.mem_cons, not_or] at h
    have hf : c ≠ '\n' := Ne.symm h.1
    rcases eq_or_ne s [] with rfl | hs
    · -- only here can `c` be a carriage return before the line feed
      rcases eq_or_ne c '\r' with rfl | hr
      · show reflow ('\r' :: '\n' :: t) = _
        rw [reflow]
        rfl
      · have hkeep : dropCarriageReturn [c] = [c] := by simp [dropCarriageReturn, hr]
        rw [hkeep, List.singleton_append, reflow_cons hf fun hc => absurd hc hr,
          reflow_line_feed]
        rfl
    · have hdrop : dropCarriageReturn (c :: s) = c :: dropCarriageReturn s := by
        obtain ⟨d, s, rfl⟩ := List.exists_cons_of_ne_nil hs
        unfold dropCarriageReturn
        rw [List.getLast?_cons_cons]
        split <;> simp
      rw [List.cons_append, reflow_cons hf, ih h.2, hdrop]
      · rfl
      · intro _ hhead
        obtain ⟨d, s, rfl⟩ := List.exists_cons_of_ne_nil hs
        obtain rfl : d = '\n' := by simpa using hhead
        exact h.2 List.mem_cons_self

/-! ### Indenting line by line -/

def indentLine (line : List Char) : List Char :=
  margin ++ line ++ ['\n']

theorem flatMap_lines_append {c : Char} (hf : c ≠ '\n') (hr : c ≠ '\r') {m : List Char}
    (hm : m.getLast? = some c) :
    (lines m).flatMap indentLine = margin ++ reflow m ++ ['\n'] ∧
      ∀ t, (lines (m ++ '\n' :: t)).flatMap indentLine =
        margin ++ reflow m ++ '\n' :: (lines t).flatMap indentLine := by
  induction hn : m.length using Nat.strongRecOn generalizing m with
  | ind n ih =>
    by_cases hline : '\n' ∈ m
    · obtain ⟨s, u, rfl, hs⟩ := List.eq_append_cons_of_mem hline
      have hu : u.getLast? = some c := by
        rw [List.getLast?_append, List.getLast?_cons] at hm
        rcases u.eq_nil_or_concat with rfl | ⟨v, d, rfl⟩
        · exact absurd (by simpa using hm) hf.symm
        · simpa using hm
      have hlt : u.length < n := by
        rw [← hn, List.length_append, List.length_cons]
        omega
      obtain ⟨halone, hfront⟩ := ih u.length hlt hu rfl
      rw [reflow_append_line_feed hs]
      refine ⟨?_, fun t => ?_⟩
      · rw [lines_append_cons hs, List.flatMap_cons, halone]
        simp [indentLine]
      · rw [List.append_assoc, List.cons_append, lines_append_cons hs, List.flatMap_cons, hfront]
        simp [indentLine]
    · have hkeep : dropCarriageReturn m = m := by simp [dropCarriageReturn, hm, hr]
      have hne : m ≠ [] := by
        rintro rfl
        simp at hm
      rw [reflow_eq_self hline]
      refine ⟨?_, fun t => ?_⟩
      · simp [lines_eq_singleton hline hne, indentLine]
      · simp [lines_append_cons hline, hkeep, indentLine]

/-! ### Escaped texts -/

theorem notMem_escapeChar {c d : Char} (h : d = '\n' ∨ d = '\r') (hc : c ≠ d) :
    d ∉ escapeChar c := by
  unfold escapeChar
  rcases h with rfl | rfl <;> split <;> simp [Ne.symm hc]

theorem escapeChar_ne_nil (c : Char) : escapeChar c ≠ [] := by
  unfold escapeChar
  split <;> simp

/-- A text may as well be indented before it is escaped. -/
theorem reflow_escapeChars (s : List Char) : reflow (escapeChars s) = escapeChars (reflow s) := by
  fun_induction reflow s with
  | case1 s ih =>
    show reflow ('\r' :: '\n' :: escapeChars s) = _
    rw [reflow, ih]
    rfl
  | case2 s ih =>
    show reflow ('\n' :: escapeChars s) = _
    rw [reflow_line_feed, ih]
    rfl
  | case3 c s hcrlf hlf ih =>
    have hc : c ≠ '\n' := hlf
    show reflow (escapeChar c ++ escapeChars s) = escapeChar c ++ escapeChars (reflow s)
    rw [← ih]
    by_cases hr : c = '\r'
    · subst hr
      refine reflow_cons (by decide) fun _ hhead => ?_
      cases s with
      | nil => cases hhead
      | cons d s =>
        obtain ⟨e, rest, he⟩ := List.exists_cons_of_ne_nil (escapeChar_ne_nil d)
        have hhead : (escapeChar d ++ escapeChars s).head? = some '\n' := hhead
        rw [he, List.cons_append, List.head?_cons, Option.some.injEq] at hhead
        have hd : d ≠ '\n' := fun hd => hcrlf s rfl (hd ▸ rfl)
        exact notMem_escapeChar (.inl rfl) hd (by rw [he, hhead]; exact List.mem_cons_self)
    · exact reflow_append (notMem_escapeChar (.inl rfl) hc) (notMem_escapeChar (.inr rfl) hr) _
  | case4 => rfl

end ChartText.Text
