import ChartText.Source.Line
import Mathlib.Tactic.ByContra

/-! # What a line says

`IsActive` and `IsEntry` say on a raw line what `Line.ofTrimmed` decides on the trimmed one: the
line is ignored exactly if it is not active, and it is an entry exactly if it is active and has text
on both sides of its first colon. -/

namespace ChartText.Source
open Text

/-- The line is neither blank nor a comment. -/
structure IsActive (line : List Char) : Prop where
  ne_nil : trim line ≠ []
  not_hash : ¬ ['#'] <+: trim line
  not_slashes : ¬ ['/', '/'] <+: trim line

/-- The line is active, `key` is the text before its first colon and `value` the text after it, and
neither is blank. -/
structure IsEntry (line key value : List Char) : Prop where
  active : IsActive line
  cut : ∃ before after, trim line = before ++ ':' :: after ∧ ':' ∉ before ∧
    key = trim before ∧ value = trim after
  key_ne_nil : key ≠ []
  value_ne_nil : value ≠ []

theorem isActive_iff {line : List Char} :
    IsActive line ↔ (trim line).isEmpty = false ∧ Line.isComment (trim line) = false := by
  have hash : "#".toList = ['#'] := rfl
  have slashes : "//".toList = ['/', '/'] := rfl
  rw [Line.isComment, Bool.or_eq_false_iff, hash, slashes]
  simp only [← Bool.not_eq_true, List.isPrefixOf_iff_prefix, List.isEmpty_iff]
  exact ⟨fun h => ⟨h.ne_nil, h.not_hash, h.not_slashes⟩, fun h => ⟨h.1, h.2.1, h.2.2⟩⟩

namespace Line

theorem ofTrimmed_of_not_active {line : List Char} (h : ¬ IsActive line) :
    ofTrimmed (trim line) = .ignored := by
  rw [isActive_iff, not_and_or, Bool.not_eq_false, Bool.not_eq_false] at h
  have h' : ((trim line).isEmpty || isComment (trim line)) = true := by
    rcases h with h | h <;> simp [h]
  rw [ofTrimmed, if_pos h']

theorem ofTrimmed_of_active {line : List Char} (h : IsActive line) :
    ofTrimmed (trim line) =
      match splitOnce? (· == ':') (trim line) with
      | none => .faulty (if (trim line).contains '=' then .equalsSign (trim line) else .missingColon)
      | some (before, after) =>
        if (trim before).isEmpty then .faulty .emptyLabel
        else if (trim after).isEmpty then .faulty (.missingValue (trim before))
        else .entry (trim before) (trim after) := by
  obtain ⟨he, hc⟩ := isActive_iff.mp h
  unfold ofTrimmed
  exact if_neg (by simp [he, hc])

theorem ofTrimmed_eq_entry_iff {line key value : List Char} :
    ofTrimmed (trim line) = .entry key value ↔ IsEntry line key value := by
  constructor
  · intro h
    by_cases ha : IsActive line
    · rw [ofTrimmed_of_active ha] at h
      split at h
      · simp at h
      · next before after hs =>
        split at h
        · simp at h
        · next hk =>
          split at h
          · simp at h
          · next hv =>
            simp only [entry.injEq] at h
            obtain ⟨rfl, rfl⟩ := h
            obtain ⟨c, hcut, hc, hb⟩ := splitOnce?_eq_some hs
            obtain rfl : c = ':' := by simpa using hc
            refine ⟨ha, ⟨before, after, hcut, fun hmem => ?_, rfl, rfl⟩, ?_, ?_⟩
            · simpa using hb ':' hmem
            · simpa using hk
            · simpa using hv
    · simp [ofTrimmed_of_not_active ha] at h
  · rintro ⟨ha, ⟨before, after, hcut, hb, rfl, rfl⟩, hk, hv⟩
    have hs : splitOnce? (· == ':') (trim line) = some (before, after) := by
      rw [hcut]
      refine splitOnce?_append after (fun d hd => ?_) rfl
      exact beq_eq_false_iff_ne.mpr fun he => hb (he ▸ hd)
    rw [ofTrimmed_of_active ha, hs]
    simp [hk, hv]

theorem ofTrimmed_eq_ignored_iff {line : List Char} :
    ofTrimmed (trim line) = .ignored ↔ ¬ IsActive line := by
  refine ⟨fun h ha => ?_, ofTrimmed_of_not_active⟩
  rw [ofTrimmed_of_active ha] at h
  grind

/-- A line at fault on its own is active but no entry. -/
theorem ofTrimmed_isFaulty_iff {line : List Char} :
    (∃ fault, ofTrimmed (trim line) = .faulty fault) ↔
      IsActive line ∧ ∀ key value, ¬ IsEntry line key value := by
  constructor
  · rintro ⟨fault, h⟩
    refine ⟨?_, fun key value he => ?_⟩
    · by_contra ha
      simp [ofTrimmed_of_not_active ha] at h
    · simp [ofTrimmed_eq_entry_iff.mpr he] at h
  · rintro ⟨ha, he⟩
    cases h : ofTrimmed (trim line) with
    | ignored => exact absurd ha (ofTrimmed_eq_ignored_iff.mp h)
    | entry key value => exact absurd (ofTrimmed_eq_entry_iff.mp h) (he key value)
    | faulty fault => exact ⟨fault, rfl⟩

end Line

/-! ### The lines of a document -/

/-- Lines in a row, numbered from `n`. -/
def numberFrom (n : Nat) (lines : List (List Char)) : List NumberedLine :=
  (lines.zipIdx n).map fun (line, number) => ⟨number, trim line⟩

theorem numberedLines_eq_numberFrom (source : List Char) :
    numberedLines source = numberFrom 1 (cutLines source) := rfl

theorem numberFrom_append (n : Nat) (front back : List (List Char)) :
    numberFrom n (front ++ back) = numberFrom n front ++ numberFrom (n + front.length) back := by
  rw [numberFrom, List.zipIdx_append, List.map_append, numberFrom, numberFrom]

theorem numberFrom_cons (n : Nat) (line : List Char) (lines : List (List Char)) :
    numberFrom n (line :: lines) = ⟨n, trim line⟩ :: numberFrom (n + 1) lines := rfl

theorem map_line_numberFrom (n : Nat) (lines : List (List Char)) :
    (numberFrom n lines).map NumberedLine.line =
      lines.map fun line => Line.ofTrimmed (trim line) := by
  induction lines generalizing n with
  | nil => rfl
  | cons line lines ih => rw [numberFrom_cons, List.map_cons, ih, List.map_cons, NumberedLine.line]

theorem getElem?_numberedLines (source : List Char) (i : Nat) :
    (numberedLines source)[i]? =
      (cutLines source)[i]?.map fun line => ⟨i + 1, trim line⟩ := by
  unfold numberedLines
  rw [List.getElem?_map, List.getElem?_zipIdx, Option.map_map]
  cases (cutLines source)[i]? with
  | none => rfl
  | some line => simp [Nat.add_comm]

theorem mem_numberedLines {source : List Char} {l : NumberedLine} :
    l ∈ numberedLines source ↔
      ∃ (i : Nat) (line : List Char), (cutLines source)[i]? = some line ∧ l = ⟨i + 1, trim line⟩ := by
  rw [List.mem_iff_getElem?]
  simp only [getElem?_numberedLines, Option.map_eq_some_iff]
  constructor
  · rintro ⟨i, line, h, rfl⟩
    exact ⟨i, line, h, rfl⟩
  · rintro ⟨i, line, h, rfl⟩
    exact ⟨i, line, h, rfl⟩

theorem map_line_numberedLines (source : List Char) :
    (numberedLines source).map NumberedLine.line =
      (cutLines source).map fun line => Line.ofTrimmed (trim line) :=
  map_line_numberFrom 1 (cutLines source)

theorem map_number_numberedLines (source : List Char) :
    (numberedLines source).map NumberedLine.number = List.range' 1 (cutLines source).length := by
  simp [numberedLines, Function.comp_def]

end ChartText.Source
