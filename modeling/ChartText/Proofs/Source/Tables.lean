import ChartText.Proofs.Lists
import ChartText.Proofs.Source.Joined
import ChartText.Proofs.Source.Lines
import ChartText.Proofs.Source.WellFormed
import Mathlib.Data.List.Basic

/-! # Tables

A `Table` is written out as a document: its chart type, its legend unless there is none, and a line
for each row. If the labels, the tokens and the names of the legend can be told apart from what
stands around them (`Table.Writable`), the document is read back as the table it was made of
(`parse_table`). The first label starts the data, so later labels may be keys of the header. -/

namespace ChartText.Source
open Text

/-- The line of a key and a value. -/
def entryLine (key : String) (value : List Char) : List Char :=
  key.toList ++ ':' :: ' ' :: value

structure TableRow where
  label : String
  tokens : List String

namespace TableRow

def joined (r : TableRow) : List Char :=
  [',', ' '].intercalate (r.tokens.map String.toList)

def line (r : TableRow) : List Char :=
  entryLine r.label r.joined

/-- The number in column `i`, if there is one. -/
def number? (r : TableRow) (i : Nat) : Option Float :=
  r.tokens[i]?.bind fun t => Source.number? t.toList

end TableRow

structure Table where
  type : ChartType
  /-- The names of the series. There is no legend if there are no names. -/
  legend : List String
  rows : List TableRow

namespace Table

def joinedLegend (t : Table) : List Char :=
  [',', ' '].intercalate (t.legend.map String.toList)

def head (t : Table) : List (List Char) :=
  entryLine "Type" t.type.name.toList ::
    if t.legend.isEmpty then [] else [entryLine "Legend" t.joinedLegend]

/-- The document of the table. -/
def source (t : Table) : String :=
  String.ofList (['\n'].intercalate (t.head ++ t.rows.map TableRow.line))

/-- Nothing in the table can be taken for something else. -/
structure Writable (t : Table) : Prop where
  rows_ne_nil : t.rows ≠ []
  label : ∀ r ∈ t.rows, IsLabel r.label ∧ Line.isComment r.label.toList = false
  first_label : ∀ r, t.rows.head? = some r → Vocabulary.standard.headerKey? r.label.toList = none
  tokens_ne_nil : ∀ r ∈ t.rows, r.tokens ≠ []
  token : ∀ r ∈ t.rows, ∀ s ∈ r.tokens, IsToken s.toList
  name : ∀ n ∈ t.legend,
    IsTrimmed n.toList ∧ n ≠ "" ∧ ',' ∉ n.toList ∧ wideComma ∉ n.toList ∧ '\n' ∉ n.toList
  no_brackets : ¬ (['['] <+: t.joinedLegend ∧ [']'] <:+ t.joinedLegend)

/-- The chart says what the table says. -/
structure ReadAs (t : Table) (c : Chart) : Prop where
  type : c.type = t.type
  labels : c.labels = t.rows.map TableRow.label
  /-- Every row has a first number. -/
  values : c.values.map some = t.rows.map (·.number? 0)
  no_series : (∀ r ∈ t.rows, r.tokens.length = 1) → c.series = none
  /-- The first row with several tokens says how many series there are. -/
  series : ∀ before r after, t.rows = before ++ r :: after →
    (∀ b ∈ before, b.tokens.length = 1) → 1 < r.tokens.length →
      ∃ ss, c.series = some ss ∧ ss.length = r.tokens.length ∧ ∀ i s, ss[i]? = some s →
        s.name = t.legend[i]?.getD s!"Series {i + 1}" ∧ s.color = none ∧
          s.values = t.rows.map fun r => (r.number? i).getD 0.0
  nothing_else : c.title = none ∧ c.subtitle = none ∧ c.hints = none

end Table

/-! ### Lines that were written -/

theorem Line.isComment_append_colon {key : List Char} (h : isComment key = false)
    (rest : List Char) : isComment (key ++ ':' :: rest) = false := by
  have hash : "#".toList = ['#'] := rfl
  have slashes : "//".toList = ['/', '/'] := rfl
  rw [isComment, hash, slashes] at h ⊢
  cases key with
  | nil => rfl
  | cons c key => cases key <;> simpa [List.isPrefixOf] using h

theorem isEntry_entryLine {key : String} {value : List Char} (hk : IsLabel key)
    (hcomment : Line.isComment key.toList = false) (hv : IsTrimmed value) (hv' : value ≠ []) :
    IsEntry (entryLine key value) key.toList value := by
  have hk' : key.toList ≠ [] := by simpa using hk.ne_empty
  have hline : trim (entryLine key value) = key.toList ++ ':' :: ' ' :: value := by
    have := hk.trimmed.append hk' hv hv' [':', ' ']
    simpa [entryLine] using this.trim_eq
  refine ⟨isActive_iff.mpr ⟨?_, ?_⟩,
    ⟨key.toList, ' ' :: value, hline, hk.no_colon, hk.trimmed.trim_eq.symm, ?_⟩, hk', hv'⟩
  · simp [hline]
  · rw [hline, Line.isComment_append_colon hcomment]
  · rw [trim_cons_blank (by decide), hv.trim_eq]

theorem line_feed_notMem_entryLine {key : String} {value : List Char} (hk : IsLabel key)
    (hv : '\n' ∉ value) : '\n' ∉ entryLine key value := by
  simp [entryLine, hk.no_line_feed, hv]

/-- The keys that are written above the rows. -/
theorem isLabel_of_headerKey {key : String} (h : key = "Type" ∨ key = "Legend") :
    IsLabel key ∧ Line.isComment key.toList = false := by
  rcases h with rfl | rfl
  · exact ⟨⟨by decide, isTrimmed_of_no_blank (by decide), by decide, by decide⟩, by decide⟩
  · exact ⟨⟨by decide, isTrimmed_of_no_blank (by decide), by decide, by decide⟩, by decide⟩

/-! ### The rows -/

namespace TableRow
variable {r : TableRow}

def row (r : TableRow) : Row where
  label := r.label
  first := (r.number? 0).getD 0.0
  others := r.tokens.tail.map fun t => (Source.number? t.toList).getD 0.0

theorem values_row (hne : r.tokens ≠ []) :
    r.row.values = r.tokens.map fun t => (Source.number? t.toList).getD 0.0 := by
  obtain ⟨t, rest, h⟩ := List.exists_cons_of_ne_nil hne
  simp [Row.values, row, number?, h]

theorem getD_values_row (hne : r.tokens ≠ []) (i : Nat) :
    r.row.values[i]?.getD 0.0 = (r.number? i).getD 0.0 := by
  rw [values_row hne, List.getElem?_map, number?]
  cases r.tokens[i]? <;> rfl

theorem isToken_of_mem (h : ∀ s ∈ r.tokens, IsToken s.toList) :
    ∀ s ∈ r.tokens.map String.toList, IsToken s := by
  intro s hs
  obtain ⟨token, ht, rfl⟩ := List.mem_map.mp hs
  exact h token ht

theorem ofEntry_joined (hne : r.tokens ≠ []) (h : ∀ s ∈ r.tokens, IsToken s.toList) :
    Row.ofEntry r.label.toList r.joined = .ok r.row := by
  rw [Row.ofEntry_eq_ok_iff]
  refine ⟨by simp [row], ?_⟩
  rw [joined, splitValues_intercalate (by simpa using hne) (isToken_of_mem h), values_row hne,
    mapM_eq_some_iff, List.map_map, List.map_map]
  refine List.map_congr_left fun s hs => ?_
  obtain ⟨x, hx⟩ := Option.isSome_iff_exists.mp (h s hs).isNumber
  simp [hx]

theorem isEntry_line (hl : IsLabel r.label) (hc : Line.isComment r.label.toList = false)
    (hne : r.tokens ≠ []) (h : ∀ s ∈ r.tokens, IsToken s.toList) :
    IsEntry r.line r.label.toList r.joined := by
  obtain ⟨ht, hne'⟩ := isTrimmed_intercalate [',', ' '] (by simpa using hne) fun s hs =>
    ⟨(isToken_of_mem h s hs).isTrimmed, (isToken_of_mem h s hs).ne_nil⟩
  exact isEntry_entryLine hl hc ht hne'

theorem line_feed_notMem_line (hl : IsLabel r.label) (h : ∀ s ∈ r.tokens, IsToken s.toList) :
    '\n' ∉ r.line := by
  have hj : '\n' ∉ r.joined := notMem_intercalate (by decide) fun s hs hmem =>
    List.any_eq_false.mp (isToken_of_mem h s hs).no_blank '\n' hmem rfl
  exact line_feed_notMem_entryLine hl hj

end TableRow

/-! ### The lines of a table -/

namespace Table
variable {t : Table}

def headEntries (t : Table) : List Line :=
  .entry "Type".toList t.type.name.toList ::
    if t.legend.isEmpty then [] else [.entry "Legend".toList t.joinedLegend]

def rowEntries (t : Table) : List Line :=
  t.rows.map fun r => .entry r.label.toList r.joined

namespace Writable

theorem name_of_mem (h : t.Writable) : ∀ n ∈ t.legend.map String.toList,
    IsTrimmed n ∧ n ≠ [] ∧ ',' ∉ n ∧ wideComma ∉ n ∧ '\n' ∉ n := by
  intro n hn
  obtain ⟨name, hname, rfl⟩ := List.mem_map.mp hn
  simpa using h.name name hname

theorem isEntry_type (t : Table) :
    IsEntry (entryLine "Type" t.type.name.toList) "Type".toList t.type.name.toList := by
  obtain ⟨hk, hcomment⟩ := isLabel_of_headerKey (.inl rfl)
  refine isEntry_entryLine hk hcomment (isTrimmed_of_no_blank ?_) ?_
  · cases t.type <;> decide
  · cases t.type <;> decide

theorem isEntry_legend (h : t.Writable) (hne : t.legend ≠ []) :
    IsEntry (entryLine "Legend" t.joinedLegend) "Legend".toList t.joinedLegend := by
  obtain ⟨hk, hcomment⟩ := isLabel_of_headerKey (.inr rfl)
  obtain ⟨ht, hne'⟩ := isTrimmed_intercalate [',', ' '] (by simpa using hne) fun n hn =>
    ⟨(h.name_of_mem n hn).1, (h.name_of_mem n hn).2.1⟩
  exact isEntry_entryLine hk hcomment ht hne'

theorem line_feed_notMem_head (h : t.Writable) : ∀ line ∈ t.head, '\n' ∉ line := by
  have htype : '\n' ∉ entryLine "Type" t.type.name.toList := by
    refine line_feed_notMem_entryLine (isLabel_of_headerKey (.inl rfl)).1 ?_
    cases t.type <;> decide
  have hlegend : '\n' ∉ entryLine "Legend" t.joinedLegend := by
    refine line_feed_notMem_entryLine (isLabel_of_headerKey (.inr rfl)).1 ?_
    exact notMem_intercalate (by decide) fun n hn => (h.name_of_mem n hn).2.2.2.2
  intro line hline
  unfold head at hline
  split at hline
  · rwa [List.mem_singleton.mp hline]
  · simp only [List.mem_cons, List.not_mem_nil, or_false] at hline
    rcases hline with rfl | rfl
    · exact htype
    · exact hlegend

theorem cutLines_source (h : t.Writable) :
    cutLines t.source.toList = t.head ++ t.rows.map TableRow.line := by
  rw [source, String.toList_ofList, cutLines_intercalate (by simp [head])]
  intro line hline
  rcases List.mem_append.mp hline with hline | hline
  · exact h.line_feed_notMem_head line hline
  · obtain ⟨r, hr, rfl⟩ := List.mem_map.mp hline
    exact TableRow.line_feed_notMem_line (h.label r hr).1 (h.token r hr)

theorem map_line_numberedLines_source (h : t.Writable) :
    (numberedLines t.source.toList).map NumberedLine.line = t.headEntries ++ t.rowEntries := by
  rw [map_line_numberedLines, h.cutLines_source, List.map_append]
  have hhead : t.head.map (fun line => Line.ofTrimmed (trim line)) = t.headEntries := by
    unfold head headEntries
    rw [List.map_cons, Line.ofTrimmed_eq_entry_iff.mpr (isEntry_type t)]
    split
    · rfl
    · next hne =>
      rw [List.map_singleton, Line.ofTrimmed_eq_entry_iff.mpr (h.isEntry_legend (by simpa using hne))]
  have hrows : (t.rows.map TableRow.line).map (fun line => Line.ofTrimmed (trim line)) =
      t.rowEntries := by
    rw [List.map_map]
    refine List.map_congr_left fun r hr => ?_
    exact Line.ofTrimmed_eq_entry_iff.mpr <|
      TableRow.isEntry_line (h.label r hr).1 (h.label r hr).2 (h.tokens_ne_nil r hr) (h.token r hr)
  rw [hhead, hrows]

end Writable
/-! ### The chart of a table -/

variable {hs ds : List NumberedLine}

theorem ofLines_of_headEntries (h : t.Writable) (hhs : hs.map NumberedLine.line = t.headEntries) :
    Header.ofLines .standard hs = { type := t.type, legend := t.legend } := by
  have htype : Vocabulary.standard.headerKey? "Type".toList = some .type := by decide
  have hname : Vocabulary.standard.chartType? t.type.name.toList = some t.type := by
    cases t.type <;> decide
  have hlegend : Vocabulary.standard.headerKey? "Legend".toList = some .legend := by decide
  unfold headEntries at hhs
  obtain ⟨l, rest, rfl, hl, hrest⟩ := List.map_eq_cons_iff.mp hhs
  rw [Header.ofLines, List.foldl_cons, Header.step, hl]
  simp only [Header.read, htype, Header.set, hname]
  split at hrest
  · next hempty =>
    obtain rfl := List.map_eq_nil_iff.mp hrest
    rw [List.foldl_nil, List.isEmpty_iff.mp hempty]
  · next hne =>
    obtain ⟨l', rfl, hl'⟩ := List.map_eq_singleton_iff.mp hrest
    have hnames : Header.names t.joinedLegend = t.legend := by
      rw [Header.names, joinedLegend, splitList_intercalate (by simpa using hne) (fun n hn => ?_)
        h.no_brackets, List.map_map]
      · simp [Function.comp_def]
      · have := h.name_of_mem n hn
        exact ⟨this.1, this.2.1, this.2.2.1, this.2.2.2.1⟩
    rw [List.foldl_cons, List.foldl_nil, Header.step, hl']
    simp only [Header.read, hlegend, Header.set, hnames]

theorem key_of_mem_headEntries {line : Line} (h : line ∈ t.headEntries) :
    line = .entry "Type".toList t.type.name.toList ∨
      line = .entry "Legend".toList t.joinedLegend := by
  unfold headEntries at h
  split at h
  · exact .inl (List.mem_singleton.mp h)
  · simpa using h

theorem fault?_of_mem_headEntries {line : Line} (h : line ∈ t.headEntries) :
    Header.fault? .standard line = none := by
  rcases key_of_mem_headEntries h with rfl | rfl
  · cases t.type <;> decide
  · rfl

theorem startsData_of_headEntries (hhs : hs.map NumberedLine.line = t.headEntries) :
    ∀ l ∈ hs, startsData .standard l = false := by
  intro l hl
  have hmem : l.line ∈ t.headEntries := hhs ▸ List.mem_map_of_mem hl
  rw [startsData]
  rcases key_of_mem_headEntries hmem with h | h <;> rw [h] <;> rfl

theorem startsData_of_rowEntries (h : t.Writable) (hds : ds.map NumberedLine.line = t.rowEntries) :
    ∃ l rest, ds = l :: rest ∧ startsData .standard l = true := by
  obtain ⟨r, rows, hr⟩ := List.exists_cons_of_ne_nil h.rows_ne_nil
  rw [rowEntries, hr, List.map_cons] at hds
  obtain ⟨l, rest, rfl, hl, -⟩ := List.map_eq_cons_iff.mp hds
  have hkey := h.first_label r (by rw [hr, List.head?_cons])
  exact ⟨l, rest, rfl, by simp [startsData, hl, hkey]⟩

theorem fault?_of_mem_rowEntries (h : t.Writable) {line : Line} (hl : line ∈ t.rowEntries) :
    Row.fault? line = none := by
  obtain ⟨r, hr, rfl⟩ := List.mem_map.mp hl
  simp [Row.fault?, TableRow.ofEntry_joined (h.tokens_ne_nil r hr) (h.token r hr)]

theorem rowsOf_of_rowEntries (h : t.Writable) (hds : ds.map NumberedLine.line = t.rowEntries) :
    rowsOf ds = t.rows.map TableRow.row := by
  have hrows : rowsOf ds = (ds.map NumberedLine.line).filterMap Row.ofLine? := by
    rw [List.filterMap_map]
    rfl
  rw [hrows, hds, rowEntries, List.filterMap_map, ← List.filterMap_eq_map]
  refine List.filterMap_congr fun r hr => ?_
  have hrow := TableRow.ofEntry_joined (h.tokens_ne_nil r hr) (h.token r hr)
  simp [Row.ofLine?, hrow, Except.toOption]

theorem parse_source (h : t.Writable) : parse .standard t.source =
    .ok (chartOf { type := t.type, legend := t.legend } (t.rows.map TableRow.row)) := by
  obtain ⟨hs, ds, hnum, hhs, hds⟩ := List.map_eq_append_iff.mp h.map_line_numberedLines_source
  have hnot := startsData_of_headEntries hhs
  obtain ⟨l, rest, hl, hstart⟩ := startsData_of_rowEntries h hds
  have hheader : headerLines .standard (hs ++ ds) = hs := by
    rw [headerLines, List.takeWhile_append_of_pos (by simpa using hnot), hl]
    simp [hstart]
  have hdata : dataLines .standard (hs ++ ds) = ds := by
    rw [dataLines, List.dropWhile_append_of_pos (by simpa using hnot), hl]
    simp [hstart]
  have hgood : lineDiagnostics .standard (hs ++ ds) = [] := by
    rw [lineDiagnostics, hheader, hdata, List.append_eq_nil_iff]
    simp only [List.filterMap_eq_nil_iff, Option.map_eq_none_iff]
    constructor
    · exact fun l hl => fault?_of_mem_headEntries (hhs ▸ List.mem_map_of_mem hl)
    · exact fun l hl => fault?_of_mem_rowEntries h (hds ▸ List.mem_map_of_mem hl)
  rw [parse, parseLines, hnum, hgood, hheader, hdata, rowsOf_of_rowEntries h hds,
    ofLines_of_headEntries h hhs]
  simp [h.rows_ne_nil]

end Table

theorem TableRow.isEmpty_others (r : TableRow) :
    r.row.others.isEmpty = !decide (1 < r.tokens.length) := by
  obtain ⟨label, tokens⟩ := r
  match tokens with
  | [] => rfl
  | [_] => rfl
  | _ :: _ :: _ => simp [row]

theorem seriesCount?_eq_none {rows : List TableRow} (h : ∀ r ∈ rows, r.tokens.length = 1) :
    seriesCount? (rows.map TableRow.row) = none := by
  rw [seriesCount?, Option.map_eq_none_iff, List.find?_eq_none]
  intro row hrow
  obtain ⟨r, hr, rfl⟩ := List.mem_map.mp hrow
  simp [TableRow.isEmpty_others, h r hr]

theorem seriesCount?_eq_some {before after : List TableRow} {r : TableRow}
    (hb : ∀ b ∈ before, b.tokens.length = 1) (hr : 1 < r.tokens.length) :
    seriesCount? ((before ++ r :: after).map TableRow.row) = some r.tokens.length := by
  have hne : r.tokens ≠ [] := List.ne_nil_of_length_pos (Nat.lt_trans Nat.zero_lt_one hr)
  have hfind : ((before ++ r :: after).map TableRow.row).find? (!·.others.isEmpty) = some r.row := by
    rw [List.find?_eq_some_iff_append]
    refine ⟨by simp [TableRow.isEmpty_others, hr], before.map TableRow.row, after.map TableRow.row,
      by simp, fun row hrow => ?_⟩
    obtain ⟨b, hmem, rfl⟩ := List.mem_map.mp hrow
    simp [TableRow.isEmpty_others, hb b hmem]
  rw [seriesCount?, hfind, Option.map_some, TableRow.values_row hne, List.length_map]

theorem number?_zero {r : TableRow} (hne : r.tokens ≠ []) (h : ∀ s ∈ r.tokens, IsToken s.toList) :
    some r.row.first = r.number? 0 := by
  obtain ⟨t, rest, ht⟩ := List.exists_cons_of_ne_nil hne
  obtain ⟨x, hx⟩ := Option.isSome_iff_exists.mp (h t (ht ▸ List.mem_cons_self)).isNumber
  simp [TableRow.row, TableRow.number?, ht, hx]

/-- A table that was written out is read back. -/
theorem parse_table {t : Table} (h : t.Writable) :
    ∃ c, parse .standard t.source = .ok c ∧ t.ReadAs c := by
  refine ⟨_, Table.parse_source h, rfl, ?_, ?_, ?_, ?_, rfl, rfl, rfl⟩
  · simp [chartOf, TableRow.row]
  · rw [chartOf, List.map_map, List.map_map]
    exact List.map_congr_left fun r hr => number?_zero (h.tokens_ne_nil r hr) (h.token r hr)
  · intro hone
    simp [chartOf, seriesCount?_eq_none hone]
  · intro before r after hrows hb hr
    refine ⟨columns t.legend (t.rows.map TableRow.row) r.tokens.length, ?_, by simp, ?_⟩
    · rw [chartOf, hrows, seriesCount?_eq_some hb hr, Option.map_some]
    · intro i s hs
      obtain ⟨j, hj, rfl⟩ := Option.map_eq_some_iff.mp ((List.getElem?_map ..).symm.trans hs)
      obtain ⟨hi, rfl⟩ := List.getElem?_eq_some_iff.mp hj
      refine ⟨by simp, rfl, ?_⟩
      simp only [List.map_map, List.getElem_range]
      exact List.map_congr_left fun r hr => TableRow.getD_values_row (h.tokens_ne_nil r hr) i

/-- The second row says that there are two series, and the key of its label sets nothing. -/
theorem parse_table_ragged :
    ∃ (t : Table) (c : Chart),
      t.source = "Type: line\nLegend: a b\nA: $1\nTitle: -2, 3.5\nA: 4, 5, 6%" ∧
        t.Writable ∧ parse .standard t.source = .ok c ∧ t.ReadAs c := by
  have label (l : String) (h : l ≠ "" ∧ l.toList.any isBlank = false ∧ ':' ∉ l.toList ∧
      '\n' ∉ l.toList) : IsLabel l := ⟨h.1, isTrimmed_of_no_blank h.2.1, h.2.2.1, h.2.2.2⟩
  have token (s : String) (h : isNumber s.toList = true ∧ ',' ∉ s.toList ∧
      s.toList.any isBlank = false) : IsToken s.toList := ⟨h.1, h.2.1, h.2.2⟩
  refine ⟨⟨.line, ["a b"], [⟨"A", ["$1"]⟩, ⟨"Title", ["-2", "3.5"]⟩, ⟨"A", ["4", "5", "6%"]⟩]⟩, ?_⟩
  have h : Table.Writable
      ⟨.line, ["a b"], [⟨"A", ["$1"]⟩, ⟨"Title", ["-2", "3.5"]⟩, ⟨"A", ["4", "5", "6%"]⟩]⟩ := by
    refine ⟨by simp, ?_, ?_, by simp, ?_, ?_, by decide⟩
    · simp only [List.forall_mem_cons, List.not_mem_nil, false_imp_iff, implies_true, and_true]
      exact ⟨⟨label _ (by decide), by decide⟩, ⟨label _ (by decide), by decide⟩,
        ⟨label _ (by decide), by decide⟩⟩
    · rintro r ⟨⟩
      decide
    · simp only [List.forall_mem_cons, List.not_mem_nil, false_imp_iff, implies_true, and_true]
      exact ⟨token _ (by decide +kernel), ⟨token _ (by decide +kernel), token _ (by decide +kernel)⟩,
        token _ (by decide +kernel), token _ (by decide +kernel), token _ (by decide +kernel)⟩
    · simp only [List.forall_mem_cons, List.not_mem_nil, false_imp_iff, implies_true, and_true]
      exact ⟨⟨by rintro c ⟨⟩; rfl, by rintro c ⟨⟩; rfl⟩, by decide⟩
  obtain ⟨c, hc, hread⟩ := parse_table h
  exact ⟨c, by decide +kernel, h, hc, hread⟩

end ChartText.Source
