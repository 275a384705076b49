import ChartText.Proofs.Source.Fields
import ChartText.Proofs.Source.Listed

/-! # Cutting what was joined

Texts that are joined by a comma and a blank come back from `splitValues` and `splitList` as they
were: joined so they are a field of several values (`joined_intercalate`) and a list of names
(`listed_intercalate`). -/

namespace ChartText.Text

theorem isTrimmed_intercalate (separator : List Char) {texts : List (List Char)} (hne : texts ≠ [])
    (h : ∀ t ∈ texts, IsTrimmed t ∧ t ≠ []) :
    IsTrimmed (separator.intercalate texts) ∧ separator.intercalate texts ≠ [] := by
  induction texts with
  | nil => exact absurd rfl hne
  | cons t texts ih =>
    have ht := h t List.mem_cons_self
    cases texts with
    | nil => simpa using ht
    | cons u rest =>
      obtain ⟨hi, hi'⟩ := ih (by simp) fun s hs => h s (List.mem_cons_of_mem t hs)
      rw [List.intercalate_cons_cons]
      exact ⟨ht.1.append ht.2 hi hi' separator, by simp [ht.2]⟩

end ChartText.Text

namespace ChartText.Source
open Text

theorem cutLines_intercalate {lines : List (List Char)} (hne : lines ≠ [])
    (h : ∀ line ∈ lines, '\n' ∉ line) : cutLines (['\n'].intercalate lines) = lines := by
  rw [cutLines, cutAt_eq_splitOnP, ← List.splitOn_eq_splitOnP, List.splitOn_intercalate _ h hne]

/-! ### The values of a row -/

/-- A token that a row can hold as it is. -/
structure IsToken (token : List Char) : Prop where
  isNumber : isNumber token = true
  no_comma : ',' ∉ token
  no_blank : token.any isBlank = false

namespace IsToken
variable {token : List Char}

theorem isTrimmed (h : IsToken token) : IsTrimmed token :=
  isTrimmed_of_no_blank h.no_blank

theorem ne_nil (h : IsToken token) : token ≠ [] :=
  ne_nil_of_isNumber h.isNumber

theorem isPiece (h : IsToken token) : IsPiece token where
  isTrimmed := h.isTrimmed
  isNumber := h.isNumber
  comma front back htoken := absurd (htoken ▸ by simp) h.no_comma

end IsToken

theorem joined_intercalate {tokens : List (List Char)} (hne : tokens ≠ []) :
    Joined tokens ([',', ' '].intercalate tokens) := by
  induction tokens with
  | nil => exact absurd rfl hne
  | cons t tokens ih =>
    cases tokens with
    | nil =>
      rw [List.intercalate_singleton]
      exact .single (IsPadded.refl t)
    | cons u rest =>
      rw [List.intercalate_cons_cons, List.append_assoc]
      refine .cons (IsPadded.refl t) (.inr ⟨rfl, ' ', rfl, rfl⟩) ?_
      exact (ih (by simp)).cons_blank rfl

/-- The values of a row are the tokens that were written into it. -/
theorem splitValues_intercalate {tokens : List (List Char)} (hne : tokens ≠ [])
    (h : ∀ t ∈ tokens, IsToken t) : splitValues ([',', ' '].intercalate tokens) = tokens :=
  splitValues_of_joined (joined_intercalate hne) fun t ht => (h t ht).isPiece

/-! ### The entries of a list -/

theorem listed_intercalate (names : List (List Char)) :
    Listed names ([',', ' '].intercalate names) := by
  induction names with
  | nil => exact .blank nofun
  | cons n names ih =>
    have hn : Listed [n] n := .entry (IsPadded.refl n)
    cases names with
    | nil =>
      rw [List.intercalate_singleton]
      exact hn
    | cons m rest =>
      rw [List.intercalate_cons_cons, List.append_assoc]
      exact .comma (.inl rfl) hn (ih.cons_blank rfl)

/-- A list of names comes back as it was written, unless the text looks like a list in brackets. -/
theorem splitList_intercalate {names : List (List Char)} (hne : names ≠ [])
    (h : ∀ n ∈ names, IsTrimmed n ∧ n ≠ [] ∧ ',' ∉ n ∧ wideComma ∉ n)
    (hbrackets : ¬ (['['] <+: [',', ' '].intercalate names ∧ [']'] <:+ [',', ' '].intercalate names)) :
    splitList ([',', ' '].intercalate names) = names := by
  have htrim : trim ([',', ' '].intercalate names) = [',', ' '].intercalate names :=
    (isTrimmed_intercalate _ hne fun n hn => ⟨(h n hn).1, (h n hn).2.1⟩).1.trim_eq
  rw [splitList_of_no_brackets, entriesOf_of_listed (listed_intercalate names)]
  · intro n hn
    obtain ⟨htrimmed, hne', hcomma, hwide⟩ := h n hn
    exact .of_ne_nil hne' htrimmed hcomma hwide
  · rw [htrim]
    rintro ⟨hhead, hlast⟩
    obtain ⟨rest, hrest⟩ := List.head?_eq_some_iff.mp hhead
    obtain ⟨init, hinit⟩ := List.getLast?_eq_some_iff.mp hlast
    exact hbrackets ⟨⟨rest, hrest.symm⟩, ⟨init, hinit.symm⟩⟩

end ChartText.Source
