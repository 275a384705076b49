import ChartText.Proofs.Text.Padding
import ChartText.Source.Value

/-! # Lists of names

`Listed` says how a list of names is written: commas of either kind between the names, blanks
around them, and as many commas more as one likes. Such a list comes back from `splitList` as it was
written, and whatever `splitList` gives was listed in the value (`splitList_listed`). Both follow
from what a comma does: the entries before it and those behind it are read apart
(`entriesOf_append_cons`). -/

namespace ChartText.Source
open Text

/-- A name that can stand in a list. -/
structure IsListEntry (entry : List Char) : Prop where
  not_blank : isAllBlank entry = false
  isTrimmed : IsTrimmed entry
  no_comma : ',' ∉ entry
  no_wide_comma : wideComma ∉ entry

/-- The text lists the entries. A list is nothing but blanks, an entry with blanks around it, or two
lists with a comma between them. -/
inductive Listed : List (List Char) → List Char → Prop
  | blank {text : List Char} (blank : ∀ c ∈ text, isBlank c = true) : Listed [] text
  | entry {entry text : List Char} (padded : IsPadded entry text) : Listed [entry] text
  | comma {front back : List (List Char)} {left right : List Char} {delimiter : Char}
      (delimits : delimiter = ',' ∨ delimiter = wideComma) (before : Listed front left)
      (after : Listed back right) : Listed (front ++ back) (left ++ delimiter :: right)

/-! ### What a comma does -/

def isListComma (c : Char) : Bool :=
  c == ',' || c == wideComma

theorem isListComma_iff {c : Char} : isListComma c = true ↔ c = ',' ∨ c = wideComma := by
  rw [isListComma, Bool.or_eq_true, beq_iff_eq, beq_iff_eq]

theorem isListComma_of_isBlank {c : Char} (hc : isBlank c = true) : isListComma c = false := by
  rw [Bool.eq_false_iff, ne_eq, isListComma_iff]
  rintro (rfl | rfl) <;> exact absurd hc (by decide)

/-- The entries of a text without brackets. -/
def entriesOf (s : List Char) : List (List Char) :=
  ((cutAt isListComma s).map trim).filter (!·.isEmpty)

theorem splitList_eq_entriesOf (value : List Char) :
    splitList value = entriesOf (dropBrackets (trim value)) := rfl

theorem entriesOf_append_cons {c : Char} (hc : isListComma c = true) (s t : List Char) :
    entriesOf (s ++ c :: t) = entriesOf s ++ entriesOf t := by
  simp only [entriesOf, cutAt_eq_splitOnP, List.splitOnP_append_cons s t hc, List.map_append,
    List.filter_append]

theorem entriesOf_of_no_comma {s : List Char} (h : ∀ c ∈ s, isListComma c = false) :
    entriesOf s = if (trim s).isEmpty then [] else [trim s] := by
  rw [entriesOf, cutAt_eq_singleton h, List.map_singleton, List.filter_cons, List.filter_nil]
  cases (trim s).isEmpty <;> rfl

/-- A text has no comma, or it goes on after its first one. -/
theorem comma_induction {p : List Char → Prop}
    (single : ∀ s, (∀ c ∈ s, isListComma c = false) → p s)
    (cons : ∀ s c t, (∀ d ∈ s, isListComma d = false) → isListComma c = true → p t →
      p (s ++ c :: t)) (s : List Char) : p s := by
  induction hn : s.length using Nat.strongRecOn generalizing s with
  | ind n ih =>
    cases hs : s.find? isListComma with
    | none => exact single s fun c hc => by simpa using List.find?_eq_none.mp hs c hc
    | some c =>
      obtain ⟨hc, first, rest, rfl, hfirst⟩ := List.find?_eq_some_iff_append.mp hs
      have hlt : rest.length < n := by
        rw [← hn, List.length_append, List.length_cons]
        omega
      exact cons first c rest (fun d hd => by simpa using hfirst d hd) hc (ih _ hlt rest rfl)

theorem entriesOf_of_isPadded_of_no_comma {text line : List Char} (h : IsPadded text line)
    (ht : ∀ c ∈ text, isListComma c = false) : entriesOf line = entriesOf text := by
  have hline : ∀ c ∈ line, isListComma c = false := by
    obtain ⟨before, after, hbefore, hafter, rfl⟩ := h
    simp only [List.forall_mem_append]
    exact ⟨⟨fun c hc => isListComma_of_isBlank (hbefore c hc), ht⟩,
      fun c hc => isListComma_of_isBlank (hafter c hc)⟩
  rw [entriesOf_of_no_comma hline, entriesOf_of_no_comma ht, h.trim_eq]

theorem entriesOf_of_isPadded {text line : List Char} (h : IsPadded text line) :
    entriesOf line = entriesOf text := by
  induction text using comma_induction generalizing line with
  | single s hs => exact entriesOf_of_isPadded_of_no_comma h hs
  | cons s c t hs hc ih =>
    obtain ⟨before, after, hbefore, hafter, rfl⟩ := h
    have hfirst : entriesOf (before ++ s) = entriesOf s :=
      entriesOf_of_isPadded_of_no_comma ⟨before, [], hbefore, nofun, by simp⟩ hs
    have hrest : entriesOf (t ++ after) = entriesOf t := ih ⟨[], after, nofun, hafter, rfl⟩
    have hline : before ++ (s ++ c :: t) ++ after = (before ++ s) ++ c :: (t ++ after) := by simp
    rw [hline, entriesOf_append_cons hc, entriesOf_append_cons hc, hfirst, hrest]

/-! ### Entries -/

namespace IsListEntry
variable {entry : List Char}

theorem of_ne_nil (hne : entry ≠ []) (isTrimmed : IsTrimmed entry) (no_comma : ',' ∉ entry)
    (no_wide_comma : wideComma ∉ entry) : IsListEntry entry where
  not_blank := by
    obtain ⟨c, rest, rfl⟩ := List.exists_cons_of_ne_nil hne
    rw [isAllBlank, List.all_cons, isTrimmed.head c rfl, Bool.false_and]
  isTrimmed := isTrimmed
  no_comma := no_comma
  no_wide_comma := no_wide_comma

theorem ne_nil (h : IsListEntry entry) : entry ≠ [] := by
  rintro rfl
  cases h.not_blank

theorem isListComma_eq_false (h : IsListEntry entry) : ∀ c ∈ entry, isListComma c = false := by
  intro c hc
  rw [Bool.eq_false_iff, ne_eq, isListComma_iff]
  rintro (rfl | rfl)
  · exact h.no_comma hc
  · exact h.no_wide_comma hc

theorem entriesOf_of_isPadded {text : List Char} (h : IsListEntry entry)
    (ht : IsPadded entry text) : entriesOf text = [entry] := by
  rw [Source.entriesOf_of_isPadded ht, entriesOf_of_no_comma h.isListComma_eq_false,
    h.isTrimmed.trim_eq, if_neg]
  simpa using h.ne_nil

end IsListEntry

theorem isListEntry_of_mem {s entry : List Char} (h : entry ∈ entriesOf s) :
    IsListEntry entry := by
  obtain ⟨hmem, hne⟩ := List.mem_filter.mp h
  obtain ⟨piece, hpiece, rfl⟩ := List.mem_map.mp hmem
  have hcomma : ∀ c ∈ trim piece, isListComma c = false := fun c hc =>
    (of_mem_cutAt hpiece (mem_of_mem_trim hc)).2
  exact .of_ne_nil (by simpa using hne) (isTrimmed_trim piece)
    (fun hc => absurd (hcomma _ hc) (by decide)) fun hc => absurd (hcomma _ hc) (by decide)

/-! ### Lists -/

theorem Listed.cons_blank {entries : List (List Char)} {text : List Char} {c : Char}
    (h : Listed entries text) (hc : isBlank c = true) : Listed entries (c :: text) := by
  induction h with
  | blank blank => exact .blank (List.forall_mem_cons.mpr ⟨hc, blank⟩)
  | entry padded => exact .entry (padded.cons_blank hc)
  | comma delimits _ after ihbefore _ => exact .comma delimits ihbefore after

theorem entriesOf_of_listed {entries : List (List Char)} {text : List Char}
    (h : Listed entries text) (he : ∀ e ∈ entries, IsListEntry e) : entriesOf text = entries := by
  induction h with
  | @blank text blank =>
    have hpadded : IsPadded [] text := ⟨text, [], blank, nofun, by simp⟩
    rw [entriesOf_of_isPadded hpadded]
    rfl
  | entry padded => exact (he _ List.mem_cons_self).entriesOf_of_isPadded padded
  | comma delimits _ _ ihbefore ihafter =>
    obtain ⟨hfront, hback⟩ := List.forall_mem_append.mp he
    rw [entriesOf_append_cons (isListComma_iff.mpr delimits), ihbefore hfront, ihafter hback]

theorem listed_of_no_comma {s : List Char} (hs : ∀ c ∈ s, isListComma c = false) :
    Listed (entriesOf s) s := by
  have hpadded := isPadded_trim s
  rw [entriesOf_of_no_comma hs]
  split
  · next hempty =>
    rw [List.isEmpty_iff.mp hempty] at hpadded
    obtain ⟨before, after, hbefore, hafter, rfl⟩ := hpadded
    rw [List.append_nil]
    exact .blank (List.forall_mem_append.mpr ⟨hbefore, hafter⟩)
  · exact .entry hpadded

/-- Every text lists what is read from it. -/
theorem listed_entriesOf (s : List Char) : Listed (entriesOf s) s := by
  induction s using comma_induction with
  | single s hs => exact listed_of_no_comma hs
  | cons s c t hs hc ih =>
    rw [entriesOf_append_cons hc]
    exact .comma (isListComma_iff.mp hc) (listed_of_no_comma hs) ih

/-! ### Brackets -/

theorem dropBrackets_brackets (s : List Char) : dropBrackets ('[' :: s ++ [']']) = s := by
  simp [dropBrackets]

theorem dropBrackets_eq_self {s : List Char}
    (h : ¬ (s.head? = some '[' ∧ s.getLast? = some ']')) : dropBrackets s = s := by
  unfold dropBrackets
  split
  · next inner =>
    refine if_neg fun hlast => h ⟨rfl, ?_⟩
    rw [List.getLast?_cons, eq_of_beq hlast]
    rfl
  · rfl

theorem splitList_brackets (s : List Char) : splitList ('[' :: s ++ [']']) = entriesOf s := by
  have htrimmed : IsTrimmed ('[' :: s ++ [']']) := by
    refine ⟨fun c hc => ?_, fun c hc => ?_⟩
    · obtain rfl : '[' = c := Option.some.inj hc
      rfl
    · rw [List.getLast?_concat] at hc
      obtain rfl : ']' = c := Option.some.inj hc
      rfl
  rw [splitList_eq_entriesOf, htrimmed.trim_eq, dropBrackets_brackets]

theorem splitList_of_no_brackets {s : List Char}
    (h : ¬ ((trim s).head? = some '[' ∧ (trim s).getLast? = some ']')) :
    splitList s = entriesOf s := by
  rw [splitList_eq_entriesOf, dropBrackets_eq_self h, entriesOf_of_isPadded (isPadded_trim s)]

/-! ### Writing and reading -/

/-- Entries come back from the list that they were written into: from one between brackets, and from
one without them if its ends are not taken for brackets. What is read from a value are entries, and
the value lists them. -/
theorem splitList_listed :
    (∀ entries text, Listed entries text → (∀ e ∈ entries, IsListEntry e) →
      splitList ('[' :: text ++ [']']) = entries ∧
      (¬ ((trim text).head? = some '[' ∧ (trim text).getLast? = some ']') →
        splitList text = entries)) ∧
    ∀ value, (∀ e ∈ splitList value, IsListEntry e) ∧
      Listed (splitList value) (dropBrackets (trim value)) := by
  refine ⟨fun entries text h he => ?_, fun value => ?_⟩
  · have hentries := entriesOf_of_listed h he
    refine ⟨(splitList_brackets text).trans hentries, fun hends => ?_⟩
    rw [splitList_of_no_brackets hends, hentries]
  · rw [splitList_eq_entriesOf]
    exact ⟨fun e => isListEntry_of_mem, listed_entriesOf _⟩

/-- Entries with a bracket and a blank in them, commas of both kinds and one too many on each
side. -/
theorem splitList_listed_spare :
    splitList "[,[a b] ,，　c],]".toList = ["[a b]".toList, "c]".toList] ∧
      splitList ",[a b] ,，　c],".toList = ["[a b]".toList, "c]".toList] := by
  have hlisted : Listed ["[a b]".toList, "c]".toList] ",[a b] ,，　c],".toList := by
    show Listed ([] ++ (["[a b]".toList] ++ ([] ++ (["c]".toList] ++ []))))
      ([] ++ ',' :: ("[a b] ".toList ++ ',' :: ([] ++ '，' :: ("　c]".toList ++ ',' :: []))))
    have hnone : Listed [] [] := .blank nofun
    refine .comma (.inl rfl) hnone (.comma (.inl rfl) (.entry ⟨[], [' '], ?_, ?_, rfl⟩)
      (.comma (.inr rfl) hnone (.comma (.inl rfl) (.entry ⟨['　'], [], ?_, ?_, rfl⟩) hnone))) <;>
      exact List.all_eq_true.mp rfl
  have hentries : ∀ e ∈ ["[a b]".toList, "c]".toList], IsListEntry e := by
    intro e he
    have hall : ∀ e ∈ ["[a b]".toList, "c]".toList], isAllBlank e = false ∧ trim e = e ∧
        ',' ∉ e ∧ wideComma ∉ e := by decide
    obtain ⟨hblank, htrim, hcomma, hwide⟩ := hall e he
    exact ⟨hblank, htrim ▸ isTrimmed_trim e, hcomma, hwide⟩
  obtain ⟨hbrackets, hplain⟩ := splitList_listed.1 _ _ hlisted hentries
  exact ⟨hbrackets, hplain (by decide)⟩

end ChartText.Source
