import ChartText.Proofs.Source.Lines
import ChartText.Proofs.Source.Values
import Mathlib.Control.Monad.Basic

/-! # Charts of documents are well-formed

`Chart.WellFormed` is what every chart that `parse` gives satisfies, whatever the document and the
vocabulary: the labels and all columns have one length, the numbers are finite, and nothing that is
present is empty. The header keeps `Header.Clean` line by line; the rest follows from the rows. -/

namespace ChartText

/-- A text that can stand before the colon of a row. -/
structure IsLabel (label : String) : Prop where
  ne_empty : label ≠ ""
  trimmed : Text.IsTrimmed label.toList
  no_colon : ':' ∉ label.toList
  no_line_feed : '\n' ∉ label.toList

namespace Chart

/-- The numbers of the values and of every series. -/
def numbers (c : Chart) : List Float :=
  c.values ++ (c.series.getD []).flatMap Series.values

theorem forall_mem_numbers {c : Chart} {p : Float → Prop} :
    (∀ x ∈ c.numbers, p x) ↔
      (∀ x ∈ c.values, p x) ∧ ∀ ss, c.series = some ss → ∀ s ∈ ss, ∀ x ∈ s.values, p x := by
  unfold numbers
  rw [List.forall_mem_append]
  simp only [List.mem_flatMap]
  cases c.series with
  | none => simp
  | some ss =>
    simp only [Option.getD_some, Option.some.injEq, forall_eq']
    exact and_congr_right fun _ =>
      ⟨fun h s hs x hx => h x ⟨s, hs, hx⟩, fun h x ⟨s, hs, hx⟩ => h s hs x hx⟩

structure WellFormed (c : Chart) : Prop where
  labels_ne_nil : c.labels ≠ []
  values_length : c.values.length = c.labels.length
  label : ∀ l ∈ c.labels, IsLabel l
  finite : ∀ x ∈ c.numbers, x.isFinite = true
  /-- There are several series or none; all are as long as the labels, none has a colour, and the
  first one holds the values. -/
  series : ∀ ss, c.series = some ss →
    2 ≤ ss.length ∧ (∀ s ∈ ss, s.values.length = c.labels.length ∧ s.color = none) ∧
      ss.head?.map Series.values = some c.values
  title : c.title ≠ some ""
  subtitle : c.subtitle ≠ some ""
  hints : ∀ h, c.hints = some h →
    h.xAxis ≠ none ∨ h.yAxis ≠ none ∨ h.theme ≠ none ∨ h.colors ≠ none

end Chart

namespace Source
open Text

/-! ### The header -/

namespace Header

/-- A title that is set is not empty. -/
structure Clean (h : Header) : Prop where
  title : h.title ≠ some ""
  subtitle : h.subtitle ≠ some ""

theorem title?_ne_empty (value : List Char) : title? value ≠ some "" := by
  unfold title?
  dsimp only
  split
  · simp
  · next h => simpa [String.ofList_eq_empty_iff] using h

theorem Clean.set {v : Vocabulary} {h h' : Header} {key : HeaderKey} {value : List Char}
    (hc : h.Clean) (hs : h.set v key value = .ok h') : h'.Clean := by
  cases key with
  | type =>
    simp only [Header.set] at hs
    split at hs
    · cases hs
      exact ⟨hc.title, hc.subtitle⟩
    · cases hs
  | title =>
    cases hs
    exact ⟨title?_ne_empty value, hc.subtitle⟩
  | subtitle =>
    cases hs
    exact ⟨hc.title, title?_ne_empty value⟩
  | theme | xAxis | yAxis | legend | colors =>
    cases hs
    exact ⟨hc.title, hc.subtitle⟩

theorem Clean.read {v : Vocabulary} {h h' : Header} {line : Line} (hc : h.Clean)
    (hr : h.read v line = .ok h') : h'.Clean := by
  cases line with
  | ignored =>
    cases hr
    exact hc
  | faulty fault => cases hr
  | entry key value =>
    simp only [Header.read] at hr
    split at hr
    · exact hc.set hr
    · cases hr
      exact hc

theorem Clean.step {v : Vocabulary} {h : Header} (hc : h.Clean) (l : NumberedLine) :
    (h.step v l).Clean := by
  unfold Header.step
  split
  · next h' hr => exact hc.read hr
  · exact hc

theorem clean_ofLines (v : Vocabulary) (lines : List NumberedLine) : (ofLines v lines).Clean := by
  suffices ∀ h : Header, h.Clean → (lines.foldl (Header.step v) h).Clean from
    this {} ⟨by simp, by simp⟩
  induction lines with
  | nil => exact fun h hc => hc
  | cons l lines ih => exact fun h hc => ih _ (hc.step l)

end Header

/-! ### The rows -/

theorem isLabel_of_isEntry {source line key value : List Char} (hl : line ∈ cutLines source)
    (h : IsEntry line key value) : IsLabel (String.ofList key) := by
  obtain ⟨before, after, hcut, hcolon, rfl, rfl⟩ := h.cut
  have hmem : ∀ c ∈ trim before, c ∈ trim line := fun c hc =>
    hcut ▸ List.mem_append_left _ (mem_of_mem_trim hc)
  refine ⟨?_, ?_, ?_, ?_⟩
  · simpa [String.ofList_eq_empty_iff] using h.key_ne_nil
  · simpa using isTrimmed_trim before
  · simpa using fun hc => hcolon (mem_of_mem_trim hc)
  · intro hc
    have hfeed := of_mem_cutAt hl (mem_of_mem_trim (hmem '\n' (by simpa using hc)))
    simp at hfeed

theorem of_mem_rowsOf {source : List Char} {lines : List NumberedLine} {row : Row}
    (hsub : ∀ l ∈ lines, l ∈ numberedLines source) (h : row ∈ rowsOf lines) :
    IsLabel row.label ∧ ∀ x ∈ row.values, x.isFinite = true := by
  obtain ⟨l, hl, key, value, he, hrow⟩ := mem_rowsOf.mp h
  obtain ⟨i, line, hi, rfl⟩ := mem_numberedLines.mp (hsub l hl)
  have hentry : IsEntry line key value := Line.ofTrimmed_eq_entry_iff.mp he
  refine ⟨?_, Row.isFinite_of_ofEntry hrow⟩
  rw [(Row.ofEntry_eq_ok_iff.mp hrow).1]
  exact isLabel_of_isEntry (List.mem_of_getElem? hi) hentry

/-! ### The columns -/

theorem two_le_of_seriesCount? {rows : List Row} {n : Nat} (h : seriesCount? rows = some n) :
    2 ≤ n := by
  unfold seriesCount? at h
  obtain ⟨row, hrow, rfl⟩ := Option.map_eq_some_iff.mp h
  have hne : row.others ≠ [] := by simpa using List.find?_some hrow
  have := List.length_pos_iff.mpr hne
  simp only [Row.values, List.length_cons]
  omega

@[simp] theorem length_columns (legend : List String) (rows : List Row) (n : Nat) :
    (columns legend rows n).length = n := by
  simp [columns]

theorem of_mem_columns {legend : List String} {rows : List Row} {n : Nat} {s : Series}
    (h : s ∈ columns legend rows n) : s.values.length = rows.length ∧ s.color = none := by
  obtain ⟨i, -, rfl⟩ := List.mem_map.mp h
  simp

theorem head?_columns (legend : List String) (rows : List Row) {n : Nat} (hn : 0 < n) :
    (columns legend rows n).head?.map Series.values = some (rows.map Row.first) := by
  obtain ⟨n, rfl⟩ := Nat.exists_eq_succ_of_ne_zero (Nat.ne_of_gt hn)
  simp [columns, List.range_succ_eq_map, Row.values]

theorem isFinite_of_mem_columns {legend : List String} {rows : List Row} {n : Nat} {s : Series}
    (hrows : ∀ row ∈ rows, ∀ x ∈ row.values, x.isFinite = true) (h : s ∈ columns legend rows n) :
    ∀ x ∈ s.values, x.isFinite = true := by
  obtain ⟨i, -, rfl⟩ := List.mem_map.mp h
  intro x hx
  obtain ⟨row, hrow, rfl⟩ := List.mem_map.mp hx
  cases hi : row.values[i]? with
  | none =>
    rw [Option.getD_none]
    decide
  | some y => exact hrows row hrow y (List.mem_of_getElem? hi)

/-! ### The chart -/

theorem wellFormed_chartOf {header : Header} {rows : List Row} (hh : header.Clean)
    (hne : rows ≠ [])
    (hrows : ∀ row ∈ rows, IsLabel row.label ∧ ∀ x ∈ row.values, x.isFinite = true) :
    (chartOf header rows).WellFormed where
  labels_ne_nil := by simpa [chartOf] using hne
  values_length := by simp [chartOf]
  label l hl := by
    obtain ⟨row, hrow, rfl⟩ := List.mem_map.mp hl
    exact (hrows row hrow).1
  finite := by
    refine Chart.forall_mem_numbers.mpr ⟨fun x hx => ?_, fun ss hss s hs => ?_⟩
    · obtain ⟨row, hrow, rfl⟩ := List.mem_map.mp hx
      exact (hrows row hrow).2 row.first List.mem_cons_self
    · obtain ⟨n, -, rfl⟩ := Option.map_eq_some_iff.mp hss
      exact isFinite_of_mem_columns (fun row hrow => (hrows row hrow).2) hs
  series ss hss := by
    obtain ⟨n, hn, rfl⟩ := Option.map_eq_some_iff.mp hss
    have h2 := two_le_of_seriesCount? hn
    refine ⟨by simpa using h2, fun s hs => ?_, head?_columns _ _ (by omega)⟩
    simpa [chartOf] using of_mem_columns hs
  title := hh.title
  subtitle := hh.subtitle
  hints h hsome := by
    simp only [chartOf] at hsome
    split at hsome
    · cases hsome
    · next he =>
      cases hsome
      by_contra hnone
      simp_all [Hints.isEmpty]

/-- A document that can be read has rows, all of them with a label and finite numbers. -/
theorem parse_eq_chartOf {v : Vocabulary} {source : String} {c : Chart}
    (h : parse v source = .ok c) :
    ∃ header rows, c = chartOf header rows ∧ header.Clean ∧ rows ≠ [] ∧
      ∀ row ∈ rows, IsLabel row.label ∧ ∀ x ∈ row.values, x.isFinite = true := by
  unfold parse parseLines at h
  dsimp only at h
  split at h
  · split at h
    · cases h
    · next hne =>
      cases h
      refine ⟨_, _, rfl, Header.clean_ofLines _ _, by simpa using hne, fun row hrow => ?_⟩
      exact of_mem_rowsOf (fun l hl => (List.dropWhile_suffix _).subset hl) hrow
  · cases h

/-- The chart of a document is well-formed, and no row of it is without a first value: a field that
gives numbers at all gives at least one. -/
theorem parse_wellFormed {v : Vocabulary} {source : String} {c : Chart}
    (h : parse v source = .ok c) :
    c.WellFormed ∧ ∀ field xs, (splitValues field).mapM number? = some xs → xs ≠ [] := by
  obtain ⟨header, rows, rfl, hheader, hne, hrows⟩ := parse_eq_chartOf h
  exact ⟨wellFormed_chartOf hheader hne hrows, fun field xs => ne_nil_of_mapM_number?⟩

/-- A document with ragged rows, a legend for one of its two series, and an empty subtitle. -/
theorem parse_wellFormed_ragged :
    ∃ c, parse .standard "Title: \"T\"\nSubtitle: ''\nLegend: a\n\nA: 1, 2.5\nB: $3" = .ok c ∧
      c.series = some [⟨"a", [1.0, 3.0], none⟩, ⟨"Series 2", [2.5, 0.0], none⟩] ∧ c.WellFormed := by
  have h : parse .standard "Title: \"T\"\nSubtitle: ''\nLegend: a\n\nA: 1, 2.5\nB: $3" =
      .ok { title := some "T", labels := ["A", "B"], values := [1.0, 3.0]
            series := some [⟨"a", [1.0, 3.0], none⟩, ⟨"Series 2", [2.5, 0.0], none⟩] } := by
    decide +kernel
  exact ⟨_, h, rfl, (parse_wellFormed h).1⟩

end Source
end ChartText
