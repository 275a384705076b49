import ChartText.Proofs.Lists
import ChartText.Source.Document

/-! # The numbers of a row

A field is cut into several pieces only if all of them are numbers (`splitValues_cases`). So either
every piece of a field is a number, and there is at least one, or none is: `Row.ofEntry` fails
exactly in the second case, and never for one piece of several (`Row.ofEntry_eq`). -/

namespace ChartText.Source

theorem splitValues_cases (field : List Char) :
    splitValues field = [Text.trim field] ∨
      1 < (splitValues field).length ∧ ∀ piece ∈ splitValues field, isNumber piece = true := by
  unfold splitValues
  dsimp only
  split
  · next h =>
    simp only [Bool.and_eq_true, decide_eq_true_eq, List.all_eq_true] at h
    exact .inr h
  · exact .inl rfl

theorem splitValues_ne_nil (field : List Char) : splitValues field ≠ [] := by
  rcases splitValues_cases field with h | ⟨h, -⟩
  · simp [h]
  · exact List.ne_nil_of_length_pos (Nat.lt_trans Nat.zero_lt_one h)

/-- The pieces of a field are numbers together or not at all. -/
theorem splitValues_dichotomy (field : List Char) :
    (∀ piece ∈ splitValues field, isNumber piece = true) ∨
      ∀ piece ∈ splitValues field, number? piece = none := by
  rcases splitValues_cases field with h | ⟨-, h⟩
  · rw [h]
    cases hn : number? (Text.trim field) with
    | none => exact .inr (by simpa using hn)
    | some x => exact .inl (by simp [isNumber, hn])
  · exact .inl h

theorem ne_nil_of_mapM_number? {field : List Char} {xs : List Float}
    (h : (splitValues field).mapM number? = some xs) : xs ≠ [] := by
  rintro rfl
  have := mapM_eq_some_iff.mp h
  simp [splitValues_ne_nil] at this

theorem isFinite_of_mapM_number? {pieces : List (List Char)} {xs : List Float}
    (h : pieces.mapM number? = some xs) : ∀ x ∈ xs, x.isFinite = true := by
  intro x hx
  have hmem : some x ∈ pieces.map number? := by
    rw [mapM_eq_some_iff.mp h]
    exact List.mem_map_of_mem hx
  obtain ⟨piece, -, hp⟩ := List.mem_map.mp hmem
  exact isFinite_of_number? hp

namespace Row

theorem mapM_readPiece {key : List Char} {pieces : List (List Char)} {xs : List Float}
    (h : pieces.mapM number? = some xs) : pieces.mapM (readPiece key) = .ok xs := by
  induction pieces generalizing xs with
  | nil =>
    cases h
    rfl
  | cons piece rest ih =>
    rw [List.mapM_cons] at h ⊢
    cases hpiece : number? piece with
    | none => simp [hpiece] at h
    | some x =>
      cases hrest : rest.mapM number? with
      | none => simp [hpiece, hrest] at h
      | some ys =>
        obtain rfl : x :: ys = xs := by simpa [hpiece, hrest] using h
        rw [readPiece, hpiece, ih hrest]
        rfl

/-- A value that is cut into pieces has no piece at fault. -/
theorem ofEntry_eq (key value : List Char) :
    ofEntry key value =
      match (splitValues value).mapM number? with
      | some (first :: others) => .ok ⟨String.ofList key, first, others⟩
      | _ => .error (.notANumber key value) := by
  unfold ofEntry
  rcases splitValues_cases value with h | ⟨hlength, hall⟩
  · rw [h]
    cases hnumber : number? (Text.trim value) <;> simp [hnumber]
  · obtain ⟨xs, hxs⟩ := isSome_mapM hall
    split
    · next hone => simp [hone] at hlength
    · rw [mapM_readPiece hxs, hxs]
      cases xs <;> rfl

theorem eq_notANumber_of_ofEntry {key value : List Char} {fault : Fault}
    (h : ofEntry key value = .error fault) : fault = .notANumber key value := by
  rw [ofEntry_eq] at h
  split at h
  · cases h
  · exact (Except.error.inj h).symm

theorem ofEntry_eq_ok_iff {key value : List Char} {row : Row} :
    ofEntry key value = .ok row ↔
      row.label = String.ofList key ∧ (splitValues value).mapM number? = some row.values := by
  rw [ofEntry_eq]
  split
  · next first others h =>
    rw [h]
    constructor
    · rintro ⟨⟩
      exact ⟨rfl, rfl⟩
    · rintro ⟨hl, hv⟩
      obtain ⟨label, f, o⟩ := row
      cases hv
      cases hl
      rfl
  · next h =>
    simp only [reduceCtorEq, false_iff, not_and]
    exact fun _ hv => h row.first row.others hv

/-- A row is at fault exactly if no piece of its field is a number. -/
theorem ofEntry_isError_iff {key value : List Char} :
    (∃ fault, ofEntry key value = .error fault) ↔
      ∀ piece ∈ splitValues value, number? piece = none := by
  constructor
  · rintro ⟨fault, h⟩
    refine (splitValues_dichotomy value).resolve_left fun hall => ?_
    obtain ⟨xs, hxs⟩ := isSome_mapM hall
    cases xs with
    | nil => exact ne_nil_of_mapM_number? hxs rfl
    | cons x xs => simp [ofEntry_eq, hxs] at h
  · intro hnone
    obtain ⟨piece, rest, hp⟩ := List.exists_cons_of_ne_nil (splitValues_ne_nil value)
    rw [hp] at hnone
    have hv : (splitValues value).mapM number? = none := by
      simp [hp, hnone piece (by simp)]
    exact ⟨.notANumber key value, by simp [ofEntry_eq, hv]⟩

theorem isFinite_of_ofEntry {key value : List Char} {row : Row} (h : ofEntry key value = .ok row) :
    ∀ x ∈ row.values, x.isFinite = true :=
  isFinite_of_mapM_number? (ofEntry_eq_ok_iff.mp h).2

theorem ofLine?_eq_some_iff {line : Line} {row : Row} :
    ofLine? line = some row ↔
      ∃ key value, line = .entry key value ∧ ofEntry key value = .ok row := by
  cases line with
  | ignored => simp [ofLine?]
  | faulty fault => simp [ofLine?]
  | entry key value =>
    simp only [ofLine?, Line.entry.injEq]
    constructor
    · intro h
      refine ⟨key, value, ⟨rfl, rfl⟩, ?_⟩
      cases he : ofEntry key value with
      | ok r =>
        rw [he] at h
        cases h
        rfl
      | error fault => simp [he, Except.toOption] at h
    · rintro ⟨key', value', ⟨rfl, rfl⟩, h⟩
      rw [h]
      rfl

end Row

theorem mem_rowsOf {lines : List NumberedLine} {row : Row} :
    row ∈ rowsOf lines ↔
      ∃ l ∈ lines, ∃ key value, l.line = .entry key value ∧ Row.ofEntry key value = .ok row := by
  unfold rowsOf
  simp only [List.mem_filterMap, Row.ofLine?_eq_some_iff]

end ChartText.Source
