import ChartText.Proofs.Source.Malformed

/-! # The rows of a document

`RowAt` says on the raw lines of a document which row stands where. The rows are in the order of
their lines, so the first row with a property stands before every other line with such a row
(`rowAt_of_find?`). -/

namespace ChartText.Source
open Text

variable {v : Vocabulary}

/-- Line `i` is an entry of the data, and it reads as this row. -/
def RowAt (v : Vocabulary) (lines : List (List Char)) (i : Nat) (row : Row) : Prop :=
  ∃ key value, DataEntryAt v lines i key value ∧ row.label = String.ofList key ∧
    (splitValues value).mapM number? = some row.values

section
variable {source : List Char} {i : Nat} {row : Row}

theorem rowAt_iff :
    RowAt v (cutLines source) i row ↔
      ∃ l ∈ dataLines v (numberedLines source), l.number = i + 1 ∧
        Row.ofLine? l.line = some row := by
  constructor
  · rintro ⟨key, value, ⟨hentry, hdata⟩, hlabel, hvalues⟩
    obtain ⟨l, hl, hline⟩ := entryAt_iff.mp hentry
    obtain ⟨line, -, rfl⟩ := line_of_getElem? hl
    refine ⟨_, mem_dataLines.mpr ⟨i, hl, (inData_succ_of_entryAt hentry).mpr hdata⟩, rfl, ?_⟩
    exact Row.ofLine?_eq_some_iff.mpr
      ⟨key, value, hline, Row.ofEntry_eq_ok_iff.mpr ⟨hlabel, hvalues⟩⟩
  · rintro ⟨l, hl, hnumber, hrow⟩
    obtain ⟨j, hj, hs⟩ := mem_dataLines.mp hl
    obtain ⟨line, -, rfl⟩ := line_of_getElem? hj
    obtain rfl : j = i := by simpa using hnumber
    obtain ⟨key, value, hline, hentry⟩ := Row.ofLine?_eq_some_iff.mp hrow
    have entry : EntryAt (cutLines source) j key value := entryAt_iff.mpr ⟨_, hj, hline⟩
    exact ⟨key, value, ⟨entry, (inData_succ_of_entryAt entry).mp hs⟩, Row.ofEntry_eq_ok_iff.mp hentry⟩

theorem pairwise_number_dataLines :
    (dataLines v (numberedLines source)).Pairwise fun l m => l.number < m.number := by
  rw [← List.pairwise_map]
  refine List.Pairwise.sublist ((List.dropWhile_suffix _).sublist.map _) ?_
  rw [map_number_numberedLines]
  exact List.pairwise_lt_range'

theorem rowAt_of_find? {p : Row → Bool}
    (h : (rowsOf (dataLines v (numberedLines source))).find? p = some row) :
    ∃ i, RowAt v (cutLines source) i row ∧ p row = true ∧
      ∀ j < i, ∀ r, RowAt v (cutLines source) j r → p r = false := by
  have hp := List.find?_some h
  rw [rowsOf, List.find?_filterMap] at h
  obtain ⟨l, hfind, hrow⟩ := Option.bind_eq_some_iff.mp h
  obtain ⟨-, front, back, hsplit, hfront⟩ := List.find?_eq_some_iff_append.mp hfind
  have hl : l ∈ dataLines v (numberedLines source) := List.mem_of_find?_eq_some hfind
  obtain ⟨i, hi, -⟩ := mem_dataLines.mp hl
  obtain ⟨line, -, rfl⟩ := line_of_getElem? hi
  refine ⟨i, rowAt_iff.mpr ⟨_, hl, rfl, hrow⟩, hp, fun j hj r hr => ?_⟩
  obtain ⟨m, hm, hnumber, hrow'⟩ := rowAt_iff.mp hr
  have hsorted : (dataLines v (numberedLines source)).Pairwise fun l m => l.number < m.number :=
    pairwise_number_dataLines
  rw [hsplit] at hm hsorted
  rcases List.mem_append.mp hm with hm | hm
  · simpa [hrow'] using hfront m hm
  · -- the lines from the one found have greater numbers
    have hafter := (List.pairwise_append.mp hsorted).2.1
    rcases List.mem_cons.mp hm with rfl | hm
    · simp only at hnumber
      omega
    · have := List.rel_of_pairwise_cons hafter hm
      simp only at this
      omega

theorem mem_rowsOf_of_rowAt (h : RowAt v (cutLines source) i row) :
    row ∈ rowsOf (dataLines v (numberedLines source)) := by
  obtain ⟨l, hl, -, hrow⟩ := rowAt_iff.mp h
  exact List.mem_filterMap.mpr ⟨l, hl, hrow⟩

end

end ChartText.Source
