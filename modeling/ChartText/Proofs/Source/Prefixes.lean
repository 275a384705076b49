import ChartText.Proofs.Source.Joined
import ChartText.Proofs.Source.Malformed
import Mathlib.Data.List.Forall2
import Mathlib.Data.List.TakeWhile

/-! # Documents that grow

Lines that are added at the end of a document change nothing of what was read before them. The
diagnostics of the first lines stay (`lineDiagnostics_append`), and once a row has begun the data,
the header is closed and every later line can only add a row (`dataLines_append`). So the chart of
the first lines is extended by the chart of all of them (`parse_firstLines`). -/

namespace ChartText

/-- The second chart has more rows than the first one, after the same rows, and else it is the
same. -/
structure Chart.IsExtendedBy (c d : Chart) : Prop where
  type : d.type = c.type
  title : d.title = c.title
  subtitle : d.subtitle = c.subtitle
  hints : d.hints = c.hints
  labels : c.labels <+: d.labels
  values : c.values <+: d.values
  /-- The series that are there keep their number and their names. -/
  series : ∀ ss, c.series = some ss → ∃ ts, d.series = some ts ∧
    List.Forall₂ (fun s t => t.name = s.name ∧ s.values <+: t.values) ss ts

namespace Source
open Text

/-- The document that ends after the first `k` lines. -/
def firstLines (k : Nat) (source : String) : String :=
  String.ofList (['\n'].intercalate ((cutLines source.toList).take k))

/-- The header that is in effect at the end of a document. -/
def headerOf (v : Vocabulary) (source : String) : Header :=
  Header.ofLines v (headerLines v (numberedLines source.toList))

def diagnosticsOf : Except (List Diagnostic) Chart → List Diagnostic
  | .ok _ => []
  | .error ds => ds

variable {v : Vocabulary} {front back : List NumberedLine}

/-! ### Where the data begin -/

/-- Some line among these begins the data. -/
def BeginsData (v : Vocabulary) (lines : List NumberedLine) : Prop :=
  ∃ l ∈ lines, startsData v l = true

theorem dataLines_eq_nil_iff {lines : List NumberedLine} :
    dataLines v lines = [] ↔ ¬ BeginsData v lines := by
  simp [dataLines, BeginsData, List.dropWhile_eq_nil_iff]

theorem headerLines_eq_self (h : ¬ BeginsData v front) : headerLines v front = front := by
  rw [headerLines, List.takeWhile_eq_self_iff]
  intro l hl
  cases hs : startsData v l with
  | true => exact absurd ⟨l, hl, hs⟩ h
  | false => rfl

theorem headerLines_append (h : BeginsData v front) :
    headerLines v (front ++ back) = headerLines v front := by
  unfold headerLines
  rw [List.takeWhile_append, if_neg]
  intro hlength
  have hdrop : dataLines v front = [] := by
    have := congrArg List.length
      (List.takeWhile_append_dropWhile (p := (!startsData v ·)) (l := front))
    rw [List.length_append, hlength] at this
    exact List.length_eq_zero_iff.mp (by unfold dataLines; omega)
  exact dataLines_eq_nil_iff.mp hdrop h

theorem dataLines_append (h : BeginsData v front) :
    dataLines v (front ++ back) = dataLines v front ++ back := by
  have hne : (front.dropWhile (!startsData v ·)).isEmpty = false := by
    rw [List.isEmpty_eq_false_iff]
    exact fun hnil => dataLines_eq_nil_iff.mp hnil h
  unfold dataLines
  rw [List.dropWhile_append, hne]
  rfl

theorem headerLines_append_of_not (h : ¬ BeginsData v front) :
    headerLines v (front ++ back) = front ++ headerLines v back := by
  unfold headerLines
  rw [List.takeWhile_append_of_pos]
  exact List.takeWhile_eq_self_iff.mp (headerLines_eq_self h)

theorem dataLines_append_of_not (h : ¬ BeginsData v front) :
    dataLines v (front ++ back) = dataLines v back := by
  unfold dataLines
  rw [List.dropWhile_append_of_pos]
  exact List.takeWhile_eq_self_iff.mp (headerLines_eq_self h)

/-! ### What the later lines add -/

theorem line_of_mem_filterMap {f : Line → Option Fault} {lines : List NumberedLine}
    {d : Diagnostic} (h : d ∈ lines.filterMap fun l => (f l.line).map l.diagnostic) :
    ∃ l ∈ lines, d.line = l.number := by
  obtain ⟨l, hl, hd⟩ := List.mem_filterMap.mp h
  obtain ⟨fault, -, rfl⟩ := Option.map_eq_some_iff.mp hd
  exact ⟨l, hl, rfl⟩

theorem line_of_mem_lineDiagnostics {lines : List NumberedLine} {d : Diagnostic}
    (h : d ∈ lineDiagnostics v lines) : ∃ l ∈ lines, d.line = l.number := by
  rcases mem_lineDiagnostics.mp h with ⟨l, hl, fault, -, rfl⟩ | ⟨l, hl, fault, -, rfl⟩
  · exact ⟨l, (List.takeWhile_prefix _).subset hl, rfl⟩
  · exact ⟨l, (List.dropWhile_suffix _).subset hl, rfl⟩

/-- The diagnostics of the first lines stay, and the later ones are all about later lines. -/
theorem lineDiagnostics_append (v : Vocabulary) (front back : List NumberedLine) :
    ∃ later, lineDiagnostics v (front ++ back) = lineDiagnostics v front ++ later ∧
      ∀ d ∈ later, ∃ l ∈ back, d.line = l.number := by
  by_cases h : BeginsData v front
  · -- The later lines all belong to the data.
    refine ⟨back.filterMap fun l => (Row.fault? l.line).map l.diagnostic, ?_,
      fun d hd => line_of_mem_filterMap hd⟩
    rw [lineDiagnostics, headerLines_append h, dataLines_append h, List.filterMap_append,
      ← List.append_assoc, ← lineDiagnostics]
  · -- The later lines are read as if they were a document of their own.
    refine ⟨lineDiagnostics v back, ?_, fun d hd => line_of_mem_lineDiagnostics hd⟩
    have hfront : lineDiagnostics v front =
        front.filterMap fun l => (Header.fault? v l.line).map l.diagnostic := by
      rw [lineDiagnostics, headerLines_eq_self h, dataLines_eq_nil_iff.mpr h, List.filterMap_nil,
        List.append_nil]
    rw [lineDiagnostics, headerLines_append_of_not h, dataLines_append_of_not h,
      List.filterMap_append, List.append_assoc, ← lineDiagnostics, hfront]

theorem rowsOf_append (v : Vocabulary) (front back : List NumberedLine) :
    ∃ later, rowsOf (dataLines v (front ++ back)) = rowsOf (dataLines v front) ++ later := by
  by_cases h : BeginsData v front
  · exact ⟨rowsOf back, by rw [dataLines_append h, rowsOf, List.filterMap_append, rowsOf, rowsOf]⟩
  · exact ⟨_, by rw [dataLines_eq_nil_iff.mpr h]; rfl⟩

theorem beginsData_of_rowsOf_ne_nil (h : rowsOf (dataLines v front) ≠ []) : BeginsData v front := by
  by_contra hnone
  exact h (by rw [dataLines_eq_nil_iff.mpr hnone]; rfl)

/-! ### Rows and columns of a chart that grows -/

/-- The first row with several values decides for all later rows. -/
theorem seriesCount?_append {rows : List Row} {count : Nat} (later : List Row)
    (h : seriesCount? rows = some count) : seriesCount? (rows ++ later) = some count := by
  obtain ⟨row, hrow, rfl⟩ := Option.map_eq_some_iff.mp h
  rw [seriesCount?, List.find?_append, hrow]
  rfl

theorem columns_append (legend : List String) (rows later : List Row) (count : Nat) :
    List.Forall₂ (fun s t => t.name = s.name ∧ s.values <+: t.values)
      (columns legend rows count) (columns legend (rows ++ later) count) := by
  simp only [columns, List.map_append, List.forall₂_map_left_iff, List.forall₂_map_right_iff,
    List.forall₂_same]
  exact fun i _ => ⟨trivial, List.prefix_append _ _⟩

theorem chartOf_append (header : Header) (rows later : List Row) :
    (chartOf header rows).IsExtendedBy (chartOf header (rows ++ later)) where
  type := rfl
  title := rfl
  subtitle := rfl
  hints := rfl
  labels := by simp [chartOf]
  values := by simp [chartOf]
  series ss hss := by
    obtain ⟨count, hcount, rfl⟩ := Option.map_eq_some_iff.mp hss
    exact ⟨columns header.legend (rows ++ later) count,
      by simp [chartOf, seriesCount?_append later hcount], columns_append _ _ _ _⟩

/-! ### The two readings -/

theorem parseLines_eq_ok_iff {lines : List NumberedLine} {c : Chart} :
    parseLines v lines = .ok c ↔
      lineDiagnostics v lines = [] ∧ rowsOf (dataLines v lines) ≠ [] ∧
        c = chartOf (Header.ofLines v (headerLines v lines)) (rowsOf (dataLines v lines)) := by
  unfold parseLines
  dsimp only
  split
  · next hnone =>
    by_cases hrows : rowsOf (dataLines v lines) = []
    · simp [hrows]
    · simp [hnone, hrows, eq_comm (a := c)]
  · next hsome => exact ⟨nofun, fun h => absurd h.1 hsome⟩

/-- The diagnostics of lines are those of the reading; the one about the whole document is the only
one without a line. -/
theorem filter_diagnosticsOf_parseLines {lines : List NumberedLine}
    (h : ∀ l ∈ lines, 1 ≤ l.number) :
    (diagnosticsOf (parseLines v lines)).filter (1 ≤ ·.line) = lineDiagnostics v lines := by
  unfold parseLines
  dsimp only
  split
  · next hnone =>
    rw [hnone]
    split <;> rfl
  · next hsome =>
    refine List.filter_eq_self.mpr fun d hd => ?_
    obtain ⟨l, hl, hline⟩ := line_of_mem_lineDiagnostics hd
    exact decide_eq_true (hline ▸ h l hl)

theorem parseLines_of_append_eq_ok {d : Chart} (h : parseLines v (front ++ back) = .ok d) :
    (∃ c, parseLines v front = .ok c) ∨ parseLines v front = .error [Fault.noData.ofDocument] := by
  obtain ⟨hnone, -, -⟩ := parseLines_eq_ok_iff.mp h
  obtain ⟨later, happend, -⟩ := lineDiagnostics_append v front back
  have hfront : lineDiagnostics v front = [] := (List.append_eq_nil_iff.mp (happend ▸ hnone)).1
  by_cases hrows : rowsOf (dataLines v front) = []
  · exact .inr (by simp [parseLines, hfront, hrows])
  · exact .inl ⟨_, parseLines_eq_ok_iff.mpr ⟨hfront, hrows, rfl⟩⟩

theorem isExtendedBy_of_parseLines {c d : Chart} (hc : parseLines v front = .ok c)
    (hd : parseLines v (front ++ back) = .ok d) : c.IsExtendedBy d := by
  obtain ⟨-, hrows, rfl⟩ := parseLines_eq_ok_iff.mp hc
  obtain ⟨-, -, rfl⟩ := parseLines_eq_ok_iff.mp hd
  obtain ⟨later, hlater⟩ := rowsOf_append v front back
  rw [headerLines_append (beginsData_of_rowsOf_ne_nil hrows), hlater]
  exact chartOf_append _ _ _

/-! ### The first lines of a document -/

section
variable {source : String} {k : Nat}

theorem numberedLines_firstLines (hk : 1 ≤ k) :
    numberedLines (firstLines k source).toList = (numberedLines source.toList).take k := by
  have hne : (cutLines source.toList).take k ≠ [] := by
    simp [cutLines, cutAt_ne_nil, Nat.ne_of_gt hk]
  have hfeed : ∀ line ∈ (cutLines source.toList).take k, '\n' ∉ line := by
    intro line hline hmem
    have := (of_mem_cutAt ((List.take_subset _ _) hline) hmem).2
    simp at this
  have hcut : cutLines (firstLines k source).toList = (cutLines source.toList).take k := by
    rw [firstLines, String.toList_ofList, cutLines_intercalate hne hfeed]
  refine List.ext_getElem? fun i => ?_
  rw [getElem?_numberedLines, hcut, List.getElem?_take, List.getElem?_take, getElem?_numberedLines]
  split <;> rfl

/-- Without a line there is nothing to read, and the empty document has one empty line. -/
theorem parse_firstLines_eq (v : Vocabulary) (k : Nat) (source : String) :
    parse v (firstLines k source) = parseLines v ((numberedLines source.toList).take k) := by
  cases k with
  | zero => rfl
  | succ k => rw [parse, numberedLines_firstLines (Nat.le_add_left 1 k)]

theorem beginsData_take (h : InData v (cutLines source.toList) k) :
    BeginsData v ((numberedLines source.toList).take k) := by
  obtain ⟨j, hj, key, value, hentry, hkey⟩ := h
  obtain ⟨l, hl, hline⟩ := entryAt_iff.mp hentry
  refine ⟨l, List.mem_of_getElem? (i := j) ?_, startsData_iff.mpr ⟨key, value, hline, hkey⟩⟩
  rw [List.getElem?_take, if_pos hj, hl]

theorem headerOf_firstLines (h : InData v (cutLines source.toList) k) :
    headerOf v (firstLines k source) = headerOf v source := by
  obtain ⟨j, hj, -⟩ := id h
  have hbegins := beginsData_take h
  rw [headerOf, numberedLines_firstLines (by omega), headerOf]
  conv => rhs; rw [← List.take_append_drop k (numberedLines source.toList),
    headerLines_append hbegins]

/-- Of the diagnostics of all lines, those of the first `k` lines are the ones that these lines
have on their own. -/
theorem filter_lineDiagnostics_take (v : Vocabulary) (k : Nat) (source : List Char) :
    (lineDiagnostics v (numberedLines source)).filter (·.line ≤ k) =
      lineDiagnostics v ((numberedLines source).take k) := by
  obtain ⟨later, happend, hlater⟩ :=
    lineDiagnostics_append v ((numberedLines source).take k) ((numberedLines source).drop k)
  rw [List.take_append_drop] at happend
  rw [happend, List.filter_append, List.filter_eq_self.mpr, List.filter_eq_nil_iff.mpr,
    List.append_nil]
  · intro d hd
    obtain ⟨l, hl, hline⟩ := hlater d hd
    obtain ⟨i, hi⟩ := List.mem_iff_getElem?.mp hl
    rw [List.getElem?_drop] at hi
    obtain ⟨line, -, rfl⟩ := line_of_getElem? hi
    simp only [hline, decide_eq_true_eq]
    omega
  · intro d hd
    obtain ⟨l, hl, hline⟩ := line_of_mem_lineDiagnostics hd
    obtain ⟨i, hi⟩ := List.mem_iff_getElem?.mp hl
    rw [List.getElem?_take] at hi
    split at hi
    · obtain ⟨line, -, rfl⟩ := line_of_getElem? hi
      simp only [hline, decide_eq_true_eq]
      omega
    · cases hi

end

theorem one_le_number {source : List Char} {l : NumberedLine} (h : l ∈ numberedLines source) :
    1 ≤ l.number := by
  obtain ⟨i, line, -, rfl⟩ := mem_numberedLines.mp h
  exact Nat.le_add_left 1 i

/-- The first `k` lines of a document and all its lines. The diagnostics of the first lines are
those of the document up to line `k`. If both have a chart, the chart of the document extends the
other one. If the document has a chart, the first lines have one too, or no data yet. And once a
row of the data was met, whether it could be read or not, the header is what it is. -/
theorem parse_firstLines (v : Vocabulary) (source : String) (k : Nat) :
    (diagnosticsOf (parse v (firstLines k source))).filter (1 ≤ ·.line) =
        (diagnosticsOf (parse v source)).filter (fun d => 1 ≤ d.line ∧ d.line ≤ k) ∧
      (∀ c d, parse v (firstLines k source) = .ok c → parse v source = .ok d →
        c.IsExtendedBy d) ∧
      (∀ d, parse v source = .ok d →
        (∃ c, parse v (firstLines k source) = .ok c) ∨
          parse v (firstLines k source) =
            .error [{ line := 0, message := "No data points found",
                      hint := some Fault.noData.hint }]) ∧
      (InData v (cutLines source.toList) k →
        headerOf v (firstLines k source) = headerOf v source) := by
  have hsplit : parse v source = parseLines v
      ((numberedLines source.toList).take k ++ (numberedLines source.toList).drop k) := by
    rw [List.take_append_drop, parse]
  refine ⟨?_, fun c d hc hd => ?_, fun d hd => ?_, headerOf_firstLines⟩
  · have hfront : ∀ l ∈ (numberedLines source.toList).take k, 1 ≤ l.number :=
      fun l hl => one_le_number (List.take_subset _ _ hl)
    rw [parse_firstLines_eq, filter_diagnosticsOf_parseLines hfront,
      ← filter_lineDiagnostics_take, parse,
      ← filter_diagnosticsOf_parseLines fun l hl => one_le_number hl, List.filter_filter]
    exact List.filter_congr fun d _ => by simp [Bool.and_comm]
  · rw [parse_firstLines_eq] at hc
    exact isExtendedBy_of_parseLines hc (hsplit ▸ hd)
  · rw [parse_firstLines_eq]
    exact parseLines_of_append_eq_ok (hsplit ▸ hd)

/-- The first three of these six lines end with the row that fixes two series. A key of the header
below it is a label, and the last row is cut to the two series. -/
theorem parse_firstLines_ragged :
    ∃ c d, parse .standard (firstLines 3 "Title: T\nLegend: a\nA: 1, 2\n\nTitle: 7\nB: 3, 4, 5") =
        .ok c ∧
      parse .standard "Title: T\nLegend: a\nA: 1, 2\n\nTitle: 7\nB: 3, 4, 5" = .ok d ∧
      d.labels = ["A", "Title", "B"] ∧
      d.series = some [⟨"a", [1.0, 7.0, 3.0], none⟩, ⟨"Series 2", [2.0, 0.0, 4.0], none⟩] ∧
      c.IsExtendedBy d := by
  have hc : parse .standard
      (firstLines 3 "Title: T\nLegend: a\nA: 1, 2\n\nTitle: 7\nB: 3, 4, 5") =
      .ok { title := some "T", labels := ["A"], values := [1.0]
            series := some [⟨"a", [1.0], none⟩, ⟨"Series 2", [2.0], none⟩] } := by
    decide +kernel
  have hd : parse .standard "Title: T\nLegend: a\nA: 1, 2\n\nTitle: 7\nB: 3, 4, 5" =
      .ok { title := some "T", labels := ["A", "Title", "B"], values := [1.0, 7.0, 3.0]
            series := some [⟨"a", [1.0, 7.0, 3.0], none⟩, ⟨"Series 2", [2.0, 0.0, 4.0], none⟩] } := by
    decide +kernel
  exact ⟨_, _, hc, hd, rfl, rfl, (parse_firstLines _ _ _).2.1 _ _ hc hd⟩

end Source
end ChartText
