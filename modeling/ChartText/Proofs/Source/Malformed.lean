import ChartText.Proofs.Source.Lines
import ChartText.Proofs.Source.Values
import Mathlib.Control.Monad.Basic

/-! # Which lines are malformed

`Malformed` says on the raw lines of a document which of them are at fault. The section of a line
depends on every line before it: it is in the data once an entry stood there that is no line of the
header. The diagnostics of a document are exactly its malformed lines (`parse_eq_malformed`): both
sides are compared line by line, through the fault that a line has in its section
(`mem_lineDiagnostics`). -/

namespace ChartText.Source
open Text

/-! ### Sections of a document -/

section
variable (v : Vocabulary) (lines : List (List Char))

/-- Line `i` is an entry with this key and value. Lines are counted from 0 here. -/
def EntryAt (i : Nat) (key value : List Char) : Prop :=
  ∃ line, lines[i]? = some line ∧ IsEntry line key value

/-- Line `i` is past an entry that cannot belong to the header. -/
def InData (i : Nat) : Prop :=
  ∃ j < i, ∃ key value, EntryAt lines j key value ∧ v.headerKey? key = none

/-- An entry with this key at line `i` belongs to the header. -/
def IsHeaderEntry (i : Nat) (key : List Char) : Prop :=
  ¬ InData v lines i ∧ v.headerKey? key ≠ none

/-- Line `i` is an entry of the data. -/
def DataEntryAt (i : Nat) (key value : List Char) : Prop :=
  EntryAt lines i key value ∧ ¬ IsHeaderEntry v lines i key

/-- Line `i` is at fault. -/
inductive Malformed (i : Nat) : Prop
  | notEntry (line : List Char) (hi : lines[i]? = some line) (active : IsActive line)
      (not_entry : ∀ key value, ¬ IsEntry line key value)
  | unknownType (key value : List Char) (entry : EntryAt lines i key value)
      (header : IsHeaderEntry v lines i key) (type : v.headerKey? key = some .type)
      (unknown : v.chartType? value = none)
  | noNumber (key value : List Char) (entry : DataEntryAt v lines i key value)
      (no_number : ∀ piece ∈ splitValues value, number? piece = none)

end

section
variable {v : Vocabulary} {lines : List (List Char)} {i : Nat}

theorem InData.mono {j : Nat} (h : InData v lines i) (hij : i ≤ j) : InData v lines j := by
  obtain ⟨k, hk, hentry⟩ := h
  exact ⟨k, by omega, hentry⟩

/-- The data begin after the first entry that is no line of the header. -/
theorem inData_iff : InData v lines i ↔ ∃ j < i, ∃ key value, DataEntryAt v lines j key value := by
  constructor
  · rintro ⟨j, hj, key, value, hentry, hkey⟩
    exact ⟨j, hj, key, value, hentry, fun hheader => hheader.2 hkey⟩
  · rintro ⟨j, hj, key, value, hentry, hdata⟩
    by_cases hsection : InData v lines j
    · exact hsection.mono (by omega)
    · refine ⟨j, hj, key, value, hentry, ?_⟩
      by_contra hkey
      exact hdata ⟨hsection, hkey⟩

end

/-! ### Lines and their numbers -/

section
variable {v : Vocabulary} {source : List Char} {i : Nat}

theorem line_of_getElem? {l : NumberedLine} (h : (numberedLines source)[i]? = some l) :
    ∃ line, (cutLines source)[i]? = some line ∧ l = ⟨i + 1, trim line⟩ := by
  rw [getElem?_numberedLines] at h
  obtain ⟨line, hline, rfl⟩ := Option.map_eq_some_iff.mp h
  exact ⟨line, hline, rfl⟩

theorem entryAt_iff {key value : List Char} :
    EntryAt (cutLines source) i key value ↔
      ∃ l, (numberedLines source)[i]? = some l ∧ l.line = .entry key value := by
  constructor
  · rintro ⟨line, hline, hentry⟩
    exact ⟨⟨i + 1, trim line⟩, by simp [getElem?_numberedLines, hline],
      Line.ofTrimmed_eq_entry_iff.mpr hentry⟩
  · rintro ⟨l, hl, hentry⟩
    obtain ⟨line, hline, rfl⟩ := line_of_getElem? hl
    exact ⟨line, hline, Line.ofTrimmed_eq_entry_iff.mp hentry⟩

theorem startsData_iff {l : NumberedLine} :
    startsData v l = true ↔ ∃ key value, l.line = .entry key value ∧ v.headerKey? key = none := by
  unfold startsData
  cases l.line <;> simp

theorem inData_succ_iff :
    InData v (cutLines source) (i + 1) ↔
      ∃ j ≤ i, ∃ l, (numberedLines source)[j]? = some l ∧ (!startsData v l) = false := by
  simp only [InData, Nat.lt_succ_iff, Bool.not_eq_false', startsData_iff, entryAt_iff]
  constructor
  · rintro ⟨j, hj, key, value, ⟨l, hl, hentry⟩, hkey⟩
    exact ⟨j, hj, l, hl, key, value, hentry, hkey⟩
  · rintro ⟨j, hj, l, hl, key, value, hentry, hkey⟩
    exact ⟨j, hj, key, value, ⟨l, hl, hentry⟩, hkey⟩

theorem mem_dataLines {l : NumberedLine} :
    l ∈ dataLines v (numberedLines source) ↔
      ∃ i : Nat, (numberedLines source)[i]? = some l ∧ InData v (cutLines source) (i + 1) := by
  simp only [dataLines, mem_dropWhile_iff, inData_succ_iff]

theorem mem_headerLines {l : NumberedLine} :
    l ∈ headerLines v (numberedLines source) ↔
      ∃ i : Nat, (numberedLines source)[i]? = some l ∧ ¬ InData v (cutLines source) (i + 1) := by
  simp only [headerLines, mem_takeWhile_iff, inData_succ_iff, not_exists, not_and,
    Bool.not_eq_false]

theorem inData_succ_of_entryAt {key value : List Char}
    (h : EntryAt (cutLines source) i key value) :
    InData v (cutLines source) (i + 1) ↔ ¬ IsHeaderEntry v (cutLines source) i key := by
  rw [inData_iff]
  constructor
  · rintro ⟨j, hj, key', value', hdata⟩ hheader
    rcases Nat.lt_succ_iff_lt_or_eq.mp hj with hj | rfl
    · exact hheader.1 (inData_iff.mpr ⟨j, hj, key', value', hdata⟩)
    · obtain ⟨l, hl, hentry⟩ := entryAt_iff.mp h
      obtain ⟨l', hl', hentry'⟩ := entryAt_iff.mp hdata.1
      rw [hl, Option.some.injEq] at hl'
      rw [← hl', hentry, Line.entry.injEq] at hentry'
      exact hdata.2 (hentry'.1 ▸ hheader)
  · exact fun hdata => ⟨i, Nat.lt_succ_self i, key, value, h, hdata⟩

end

/-! ### The fault of a line in its section -/

theorem Header.fault?_eq_some_iff {v : Vocabulary} {line : Line} {fault : Fault} :
    Header.fault? v line = some fault ↔
      line = .faulty fault ∨
        ∃ key value, line = .entry key value ∧ v.headerKey? key = some .type ∧
          v.chartType? value = none ∧ fault = .unknownType v value := by
  cases line with
  | ignored => simp [Header.fault?, Header.read]
  | faulty f => simp [Header.fault?, Header.read, eq_comm]
  | entry key value =>
    simp only [Header.fault?, Header.read, reduceCtorEq, Line.entry.injEq, false_or]
    cases hk : v.headerKey? key with
    | none => grind
    | some field =>
      cases field with
      | type =>
        simp only [Header.set]
        cases ht : v.chartType? value <;> grind
      | title | subtitle | theme | xAxis | yAxis | legend | colors =>
        simp only [Header.set]
        grind

theorem Row.fault?_isSome_iff {line : Line} :
    (∃ fault, Row.fault? line = some fault) ↔
      (∃ fault, line = .faulty fault) ∨
        ∃ key value, line = .entry key value ∧
          ∀ piece ∈ splitValues value, number? piece = none := by
  cases line with
  | ignored => simp [Row.fault?]
  | faulty f => simp [Row.fault?]
  | entry key value =>
    simp only [reduceCtorEq, exists_false, Line.entry.injEq, false_or]
    constructor
    · rintro ⟨fault, h⟩
      refine ⟨key, value, ⟨rfl, rfl⟩, (@Row.ofEntry_isError_iff key value).mp ?_⟩
      simp only [Row.fault?] at h
      cases he : Row.ofEntry key value with
      | ok row => simp [he] at h
      | error fault => exact ⟨fault, rfl⟩
    · rintro ⟨key', value', ⟨rfl, rfl⟩, hnone⟩
      obtain ⟨fault, he⟩ := (@Row.ofEntry_isError_iff key value).mpr hnone
      exact ⟨fault, by simp [Row.fault?, he]⟩

/-! ### Diagnostics -/

section
variable {v : Vocabulary} {source : List Char}

theorem mem_lineDiagnostics {lines : List NumberedLine} {d : Diagnostic} :
    d ∈ lineDiagnostics v lines ↔
      (∃ l ∈ headerLines v lines, ∃ fault, Header.fault? v l.line = some fault ∧
        d = l.diagnostic fault) ∨
        ∃ l ∈ dataLines v lines, ∃ fault, Row.fault? l.line = some fault ∧
          d = l.diagnostic fault := by
  simp only [lineDiagnostics, List.mem_append, List.mem_filterMap, Option.map_eq_some_iff,
    eq_comm (a := d)]

theorem lines_lineDiagnostics_sublist (lines : List NumberedLine) :
    ((lineDiagnostics v lines).map Diagnostic.line).Sublist (lines.map NumberedLine.number) := by
  have step : ∀ (f : NumberedLine → Option Fault) (part : List NumberedLine),
      ((part.filterMap fun l => (f l).map l.diagnostic).map Diagnostic.line).Sublist
        (part.map NumberedLine.number) := by
    intro f part
    rw [List.map_filterMap]
    induction part with
    | nil => simp
    | cons l part ih =>
      rw [List.filterMap_cons, List.map_cons]
      cases f l with
      | none => exact ih.cons _
      | some fault => exact ih.cons_cons _
  rw [lineDiagnostics, List.map_append]
  conv => rhs; rw [← List.takeWhile_append_dropWhile (p := (!startsData v ·)) (l := lines),
    List.map_append]
  exact (step _ _).append (step _ _)

theorem pairwise_lineDiagnostics :
    (lineDiagnostics v (numberedLines source)).Pairwise fun a b => a.line < b.line := by
  rw [← List.pairwise_map]
  refine List.Pairwise.sublist (lines_lineDiagnostics_sublist _) ?_
  rw [map_number_numberedLines]
  exact List.pairwise_lt_range'

theorem exists_line_of_mem_lineDiagnostics {d : Diagnostic}
    (h : d ∈ lineDiagnostics v (numberedLines source)) :
    ∃ (i : Nat) (line : List Char), d.line = i + 1 ∧ (cutLines source)[i]? = some line ∧
      d.source = some (String.ofList (trim line)) := by
  have hline : ∃ l ∈ numberedLines source, ∃ fault, d = l.diagnostic fault := by
    rcases mem_lineDiagnostics.mp h with ⟨l, hl, fault, -, rfl⟩ | ⟨l, hl, fault, -, rfl⟩
    · exact ⟨l, (List.takeWhile_prefix _).subset hl, fault, rfl⟩
    · exact ⟨l, (List.dropWhile_suffix _).subset hl, fault, rfl⟩
  obtain ⟨l, hl, fault, rfl⟩ := hline
  obtain ⟨i, line, hi, rfl⟩ := mem_numberedLines.mp hl
  exact ⟨i, line, rfl, hi, rfl⟩

theorem exists_diagnostic_of_malformed {i : Nat} (h : Malformed v (cutLines source) i) :
    ∃ d ∈ lineDiagnostics v (numberedLines source), d.line = i + 1 := by
  simp only [mem_lineDiagnostics]
  rcases h with ⟨line, hi, active, hne⟩ | ⟨key, value, entry, header, type, unknown⟩ |
    ⟨key, value, entry, hno⟩
  · -- A line that is no entry is at fault in either section.
    obtain ⟨fault, hf⟩ := Line.ofTrimmed_isFaulty_iff.mpr ⟨active, hne⟩
    have hl : (numberedLines source)[i]? = some ⟨i + 1, trim line⟩ := by
      simp [getElem?_numberedLines, hi]
    by_cases hs : InData v (cutLines source) (i + 1)
    · exact ⟨_, .inr ⟨_, mem_dataLines.mpr ⟨i, hl, hs⟩, fault,
        by simp [NumberedLine.line, hf, Row.fault?], rfl⟩, rfl⟩
    · exact ⟨_, .inl ⟨_, mem_headerLines.mpr ⟨i, hl, hs⟩, fault,
        Header.fault?_eq_some_iff.mpr (.inl hf), rfl⟩, rfl⟩
  · obtain ⟨l, hl, hentry⟩ := entryAt_iff.mp entry
    have hs : ¬ InData v (cutLines source) (i + 1) := fun h =>
      (inData_succ_of_entryAt entry).mp h header
    obtain ⟨line, -, rfl⟩ := line_of_getElem? hl
    exact ⟨_, .inl ⟨_, mem_headerLines.mpr ⟨i, hl, hs⟩, _,
      Header.fault?_eq_some_iff.mpr (.inr ⟨key, value, hentry, type, unknown, rfl⟩), rfl⟩, rfl⟩
  · obtain ⟨l, hl, hentry⟩ := entryAt_iff.mp entry.1
    have hs := (inData_succ_of_entryAt entry.1).mpr entry.2
    obtain ⟨fault, hf⟩ := Row.fault?_isSome_iff.mpr (.inr ⟨key, value, hentry, hno⟩)
    obtain ⟨line, -, rfl⟩ := line_of_getElem? hl
    exact ⟨_, .inr ⟨_, mem_dataLines.mpr ⟨i, hl, hs⟩, fault, hf, rfl⟩, rfl⟩

theorem malformed_of_mem_lineDiagnostics {d : Diagnostic} {i : Nat}
    (h : d ∈ lineDiagnostics v (numberedLines source)) (hnumber : d.line = i + 1) :
    Malformed v (cutLines source) i := by
  rcases mem_lineDiagnostics.mp h with ⟨l, hl, fault, hf, rfl⟩ | ⟨l, hl, fault, hf, rfl⟩
  · obtain ⟨j, hj, hs⟩ := mem_headerLines.mp hl
    obtain ⟨line, hline, rfl⟩ := line_of_getElem? hj
    obtain rfl : j = i := by simpa [NumberedLine.diagnostic, Fault.diagnostic] using hnumber
    rcases Header.fault?_eq_some_iff.mp hf with hfaulty | ⟨key, value, he, type, unknown, rfl⟩
    · obtain ⟨active, hne⟩ := Line.ofTrimmed_isFaulty_iff.mp ⟨fault, hfaulty⟩
      exact .notEntry line hline active hne
    · have entry : EntryAt (cutLines source) j key value := entryAt_iff.mpr ⟨_, hj, he⟩
      have header : IsHeaderEntry v (cutLines source) j key := by
        simpa [inData_succ_of_entryAt entry] using hs
      exact .unknownType key value entry header type unknown
  · obtain ⟨j, hj, hs⟩ := mem_dataLines.mp hl
    obtain ⟨line, hline, rfl⟩ := line_of_getElem? hj
    obtain rfl : j = i := by simpa [NumberedLine.diagnostic, Fault.diagnostic] using hnumber
    rcases Row.fault?_isSome_iff.mp ⟨fault, hf⟩ with hfaulty | ⟨key, value, he, hno⟩
    · obtain ⟨active, hne⟩ := Line.ofTrimmed_isFaulty_iff.mp hfaulty
      exact .notEntry line hline active hne
    · have entry : EntryAt (cutLines source) j key value := entryAt_iff.mpr ⟨_, hj, he⟩
      exact .noNumber key value ⟨entry, (inData_succ_of_entryAt entry).mp hs⟩ hno

theorem malformed_iff {i : Nat} :
    Malformed v (cutLines source) i ↔
      i + 1 ∈ (lineDiagnostics v (numberedLines source)).map Diagnostic.line := by
  rw [List.mem_map]
  constructor
  · exact exists_diagnostic_of_malformed
  · rintro ⟨d, hd, hnumber⟩
    exact malformed_of_mem_lineDiagnostics hd hnumber

theorem mem_lines_lineDiagnostics {n : Nat} :
    n ∈ (lineDiagnostics v (numberedLines source)).map Diagnostic.line ↔
      ∃ i, n = i + 1 ∧ Malformed v (cutLines source) i := by
  constructor
  · intro hn
    obtain ⟨d, hd, rfl⟩ := List.mem_map.mp hn
    obtain ⟨i, line, hi, -⟩ := exists_line_of_mem_lineDiagnostics hd
    exact ⟨i, hi, malformed_iff.mpr (hi ▸ hn)⟩
  · rintro ⟨i, rfl, hm⟩
    exact malformed_iff.mp hm

theorem lineDiagnostics_eq_nil_iff :
    lineDiagnostics v (numberedLines source) = [] ↔ ¬ ∃ i, Malformed v (cutLines source) i := by
  rw [← List.map_eq_nil_iff (f := Diagnostic.line), List.eq_nil_iff_forall_not_mem]
  simp only [mem_lines_lineDiagnostics]
  constructor
  · rintro hnone ⟨i, hm⟩
    exact hnone (i + 1) ⟨i, rfl, hm⟩
  · rintro hgood n ⟨i, -, hm⟩
    exact hgood ⟨i, hm⟩

theorem rowsOf_eq_nil_iff (hgood : ¬ ∃ i, Malformed v (cutLines source) i) :
    rowsOf (dataLines v (numberedLines source)) = [] ↔
      ¬ ∃ i key value, DataEntryAt v (cutLines source) i key value := by
  rw [List.eq_nil_iff_forall_not_mem]
  simp only [mem_rowsOf, mem_dataLines]
  constructor
  · rintro hrows ⟨i, key, value, hdata⟩
    obtain ⟨l, hl, hentry⟩ := entryAt_iff.mp hdata.1
    have hs := (inData_succ_of_entryAt hdata.1).mpr hdata.2
    cases hrow : Row.ofEntry key value with
    | ok row => exact hrows row ⟨l, ⟨i, hl, hs⟩, key, value, hentry, hrow⟩
    | error fault =>
      have hno := Row.ofEntry_isError_iff.mp ⟨fault, hrow⟩
      exact hgood ⟨i, .noNumber key value hdata hno⟩
  · rintro hdata row ⟨l, ⟨i, hl, hs⟩, key, value, hentry, -⟩
    have entry : EntryAt (cutLines source) i key value := entryAt_iff.mpr ⟨l, hl, hentry⟩
    exact hdata ⟨i, key, value, entry, (inData_succ_of_entryAt entry).mp hs⟩

end

/-- The diagnostics of a document are its malformed lines, in their order and one for each. A
document without any is a chart, unless it has no row. -/
theorem parse_eq_malformed (v : Vocabulary) (source : String) :
    let lines := cutLines source.toList
    (∀ i, InData v lines i ↔
      ∃ j < i, ∃ key value, EntryAt lines j key value ∧ ¬ IsHeaderEntry v lines j key) ∧
    ((∃ i, Malformed v lines i) → ∃ ds, parse v source = .error ds ∧
      (ds.map Diagnostic.line).Pairwise (· < ·) ∧
      (∀ n, n ∈ ds.map Diagnostic.line ↔ ∃ i, n = i + 1 ∧ Malformed v lines i) ∧
      ∀ d ∈ ds, ∃ (i : Nat) (line : List Char), d.line = i + 1 ∧ lines[i]? = some line ∧
        d.source = some (String.ofList (trim line))) ∧
    ((¬ ∃ i, Malformed v lines i) → (¬ ∃ i key value, DataEntryAt v lines i key value) →
      parse v source = .error [{
        line := 0
        message := "No data points found"
        hint := some "Add data like:\nApples: 50\nOranges: 30\nBananas: 45" }]) ∧
    ((¬ ∃ i, Malformed v lines i) → (∃ i key value, DataEntryAt v lines i key value) →
      ∃ c, parse v source = .ok c) := by
  intro lines
  refine ⟨fun i => inData_iff, fun hbad => ?_, fun hgood hnone => ?_, fun hgood hsome => ?_⟩
  · refine ⟨lineDiagnostics v (numberedLines source.toList), ?_, ?_,
      fun n => mem_lines_lineDiagnostics, fun d hd => exists_line_of_mem_lineDiagnostics hd⟩
    · cases hd : lineDiagnostics v (numberedLines source.toList) with
      | nil => exact absurd hbad (lineDiagnostics_eq_nil_iff.mp hd)
      | cons d ds => simp only [parse, parseLines, hd]
    · rw [List.pairwise_map]
      exact pairwise_lineDiagnostics
  · simp only [parse, parseLines, lineDiagnostics_eq_nil_iff.mpr hgood,
      (rowsOf_eq_nil_iff hgood).mpr hnone]
    rfl
  · have hrows := mt (rowsOf_eq_nil_iff hgood).mp (not_not.mpr hsome)
    simp only [parse, parseLines, lineDiagnostics_eq_nil_iff.mpr hgood, List.isEmpty_iff,
      if_neg hrows]
    exact ⟨_, rfl⟩

/-- The key of the third line ends the header, so the type below it is read as a row. -/
theorem parse_eq_malformed_sections :
    ∃ ds, parse .standard "Type: pie\nFoo\nA: 1\nType: x" = .error ds ∧
      ds.map Diagnostic.line = [2, 4] ∧
      ∀ n, n ∈ [2, 4] ↔
        ∃ i, n = i + 1 ∧ Malformed .standard (cutLines "Type: pie\nFoo\nA: 1\nType: x".toList) i := by
  obtain ⟨-, hbad, -⟩ := parse_eq_malformed .standard "Type: pie\nFoo\nA: 1\nType: x"
  obtain ⟨ds, hds, -, hlines, -⟩ := hbad ⟨1, malformed_iff.mpr (by decide +kernel)⟩
  have hnumbers : ds.map Diagnostic.line = [2, 4] := by
    have hparse : (match parse .standard "Type: pie\nFoo\nA: 1\nType: x" with
      | .error ds => ds.map Diagnostic.line
      | .ok _ => []) = [2, 4] := by decide +kernel
    rwa [hds] at hparse
  exact ⟨ds, hds, hnumbers, fun n => hnumbers ▸ hlines n⟩

end ChartText.Source
