import ChartText.Markdown.Block
import ChartText.Proofs.Text.Filled
import Mathlib.Logic.Function.Iterate

/-! # Blocks of HTML that go on

A block of HTML that a tag like `<div>` begins ends before the next blank line, so a filled text
that begins with such a tag is one block of HTML to its end (`isHtmlBlock_of_filled`). -/

namespace ChartText.Markdown

open Text (cutLines IsIndented Filled)

/-- The state and the place after one more line. -/
def State.next (p : State × Cursor) : State × Cursor :=
  p.1.step p.2

/-- Inside a block of HTML that a blank line ends, and in no container. -/
def State.inHtml : State where
  leaf := .html .atBlankLine

/-- The text begins a block of HTML, which is open after every line of the text, whatever follows
the text. Reading as many lines as the text has takes the reader to its end or beyond. -/
def IsHtmlBlock (text : List Char) : Prop :=
  ∀ after : List Char,
    (∀ n, 0 < n → n ≤ (cutLines text).length →
      (State.next^[n] ({}, ⟨text ++ after, 0, 0, 0⟩)).1 = State.inHtml) ∧
    (State.next^[(cutLines text).length] ({}, ⟨text ++ after, 0, 0, 0⟩)).2.rest <:+ after

/-! ### Lines that are not blank -/

theorem isBlank_of_isBlank {c : Char} (h : isBlank c = true) : Text.isBlank c = true := by
  simp only [isBlank, isInnerBlank, isLineEnd, Bool.or_eq_true, beq_iff_eq] at h
  rcases h with (((rfl | rfl) | h) | h) | rfl | rfl
  · decide
  · decide
  · simp [Text.isBlank, h]
  · simp [Text.isBlank, h]
  · decide
  · decide

theorem blankLine?_eq_none {line : List Char} (h : IsIndented line) (after : List Char) :
    blankLine? (line ++ after) = none := by
  obtain ⟨n, c, rest, rfl, hc⟩ := h
  have hblank : isBlank c = false := by
    rw [← Bool.not_eq_true]
    exact fun h => by simp [isBlank_of_isBlank h] at hc
  obtain ⟨hinner, hend⟩ := Bool.or_eq_false_iff.mp hblank
  have hspaces : ∀ d ∈ List.replicate n ' ', isInnerBlank d = true := fun d hd => by
    rw [List.eq_of_mem_replicate hd]
    decide
  have hdrop : (List.replicate n ' ' ++ c :: rest ++ after).dropWhile isInnerBlank =
      c :: (rest ++ after) := by
    rw [List.append_assoc, List.dropWhile_append_of_pos hspaces, List.cons_append,
      List.dropWhile_cons_of_neg (by simp [hinner])]
  have hreturn : c ≠ '\r' := by
    rintro rfl
    exact absurd hend (by decide)
  have hending : lineEnding? (c :: (rest ++ after)) = none := by
    simp [lineEnding?, hend, hreturn]
  rw [blankLine?, hdrop, hending]
  rfl

theorem rest_takeRawLine {line : List Char} (hline : '\n' ∉ line) (after : List Char)
    {c : Cursor} (hc : c.rest = line ++ after) :
    c.takeRawLine.2.rest = after.drop ((after.takeWhile (· != '\n')).length + 1) := by
  have htake : (line ++ after).takeWhile (· != '\n') = line ++ after.takeWhile (· != '\n') :=
    List.takeWhile_append_of_pos fun d hd => by simpa using ne_of_mem_of_not_mem hd hline
  show c.rest.drop ((c.rest.takeWhile (· != '\n')).length + 1) = _
  rw [hc, htake, List.length_append, Nat.add_assoc, List.drop_length_add_append]

theorem State.step_inHtml {c : Cursor} (h : blankLine? c.rest = none) :
    inHtml.step c = (inHtml, c.takeRawLine.2) := by
  simp [step, inHtml, enter, h, leafAfterHtml]

/-! ### The first line -/

theorem Cursor.skip_of_head {c : Cursor} {rest : List Char} (hc : c.rest = '<' :: rest)
    (hp : c.pending = 0) (n : Nat) : c.skip n = (c, n) := by
  cases n with
  | zero => rfl
  | succ n => simp [skip, hc, hp]

theorem openContainers_of_head {c : Cursor} {rest : List Char} (hc : c.rest = '<' :: rest)
    (hp : c.pending = 0) (rounds : Nat) : openContainers rounds c = ([], c) := by
  have hmark : listMark? ('<' :: rest) = none := by
    simp [listMark?, isBullet]
  have hitem : listItem? c = none := by
    simp [listItem?, Cursor.skip_of_head hc hp, hc, hmark]
  have hquote : quoteMark? c = none := by
    simp [quoteMark?, Cursor.skip_of_head hc hp, hc]
  cases rounds with
  | zero => rfl
  | succ rounds => simp [openContainers, hitem, hquote]

theorem html?_div (rest : List Char) : html? ("<div ".toList ++ rest) = some .atBlankLine :=
  rfl

theorem openLeaf_div {c : Cursor} {rest : List Char} (hc : c.rest = "<div ".toList ++ rest)
    (hp : c.pending = 0) : openLeaf [] c = (.html .atBlankLine, c.takeRawLine.2) := by
  have hhtml : html? c.rest = some .atBlankLine := hc ▸ html?_div rest
  simp [openLeaf, Cursor.skip_of_head hc hp, hhtml, leafAfterHtml]

/-- The first line leaves the reader where a line inside the block would. -/
theorem State.step_div {c : Cursor} {rest : List Char} (hc : c.rest = "<div ".toList ++ rest)
    (hp : c.pending = 0) : ({} : State).step c = inHtml.step c := by
  have hblank : blankLine? c.rest = none :=
    hc ▸ blankLine?_eq_none (Text.isIndented_cons (by decide) _) rest
  rw [step_inHtml hblank]
  show startLine {} c = _
  simp [startLine, enter, openContainers_of_head hc hp, Cursor.afterBlankLine?, hblank,
    openLeaf_div hc hp, inHtml]

/-! ### All lines -/

theorem iterate_next_inHtml {lines : List (List Char)} (hne : lines ≠ [])
    (hlines : ∀ line ∈ lines, '\n' ∉ line ∧ IsIndented line) {after : List Char} {c : Cursor}
    (hc : c.rest = ['\n'].intercalate lines ++ after) :
    (∀ n ≤ lines.length, (State.next^[n] (.inHtml, c)).1 = State.inHtml) ∧
      (State.next^[lines.length] (.inHtml, c)).2.rest <:+ after := by
  induction lines generalizing c with
  | nil => exact absurd rfl hne
  | cons line lines ih =>
    obtain ⟨hfeed, hindented⟩ := hlines line List.mem_cons_self
    have hstep (later : List Char) (hrest : c.rest = line ++ later) :
        State.next (.inHtml, c) = (.inHtml, c.takeRawLine.2) :=
      State.step_inHtml (hrest ▸ blankLine?_eq_none hindented later)
    cases lines with
    | nil =>
      rw [List.intercalate_singleton] at hc
      refine ⟨fun n hn => ?_, ?_⟩
      · obtain rfl | rfl : n = 0 ∨ n = 1 := by
          rw [List.length_singleton] at hn
          omega
        · rfl
        · rw [Function.iterate_one, hstep after hc]
      · rw [List.length_singleton, Function.iterate_one, hstep after hc,
          rest_takeRawLine hfeed after hc]
        exact List.drop_suffix _ _
    | cons next lines =>
      rw [List.intercalate_cons_cons, List.append_assoc, List.append_assoc] at hc
      have hrest : c.takeRawLine.2.rest = ['\n'].intercalate (next :: lines) ++ after := by
        rw [rest_takeRawLine hfeed _ hc]
        rfl
      obtain ⟨hopen, hend⟩ :=
        ih (by simp) (fun l hl => hlines l (List.mem_cons_of_mem line hl)) hrest
      refine ⟨fun n hn => ?_, ?_⟩
      · cases n with
        | zero => rfl
        | succ n =>
          rw [Function.iterate_succ_apply, hstep _ hc]
          exact hopen n (by simpa using hn)
      · rw [List.length_cons, Function.iterate_succ_apply, hstep _ hc]
        exact hend

/-- A filled text that begins with a `<div>` is read as one block of HTML. -/
theorem isHtmlBlock_of_filled {text : List Char} (hdiv : "<div ".toList <+: text)
    (h : Filled text) : IsHtmlBlock text := by
  intro after
  obtain ⟨rest, hrest⟩ := hdiv
  have hne : cutLines text ≠ [] := Text.cutAt_ne_nil _ text
  have hlines : ∀ line ∈ cutLines text, '\n' ∉ line ∧ IsIndented line := fun line hline =>
    ⟨fun hmem => by simpa using (Text.of_mem_cutAt hline hmem).2, h line hline⟩
  have hjoin : ['\n'].intercalate (cutLines text) = text := by
    rw [cutLines, Text.cutAt_eq_splitOnP, ← List.splitOn_eq_splitOnP, List.intercalate_splitOn]
  have hc : (Cursor.mk (text ++ after) 0 0 0).rest =
      ['\n'].intercalate (cutLines text) ++ after := by
    rw [hjoin]
  obtain ⟨hopen, hend⟩ := iterate_next_inHtml hne hlines hc
  have hfirst : State.next ({}, ⟨text ++ after, 0, 0, 0⟩) =
      State.next (.inHtml, ⟨text ++ after, 0, 0, 0⟩) :=
    State.step_div (by rw [← hrest, List.append_assoc]) rfl
  have hiterate (n : Nat) (hn : 0 < n) : State.next^[n] ({}, ⟨text ++ after, 0, 0, 0⟩) =
      State.next^[n] (.inHtml, ⟨text ++ after, 0, 0, 0⟩) := by
    obtain ⟨n, rfl⟩ := Nat.exists_eq_succ_of_ne_zero (Nat.ne_of_gt hn)
    rw [Function.iterate_succ_apply, hfirst, ← Function.iterate_succ_apply]
  refine ⟨fun n hn hle => ?_, ?_⟩
  · rw [hiterate n hn]
    exact hopen n hle
  · rw [hiterate _ (List.length_pos_iff.mpr hne)]
    exact hend

end ChartText.Markdown
