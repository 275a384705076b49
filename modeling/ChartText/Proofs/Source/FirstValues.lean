import ChartText.Proofs.Source.Fields
import ChartText.Proofs.Source.Layout
import ChartText.Proofs.Source.Prefixes
import ChartText.Proofs.Source.Tables

/-! # First values

The first value of a row is in `values`, the others are only in the series. So when every row of a
document is cut to its first value (`firstValues`), its chart loses the series and nothing else
(`parse_firstValues_eq`). A field of one value is not cut again, whatever that value looks like. -/

namespace ChartText.Source
open Text

/-! ### Lines -/

def firstPiece (value : List Char) : List Char :=
  (splitValues value).headD []

/-- The line with the first value of its row alone. -/
def firstValueLine (line : List Char) : List Char :=
  match Line.ofTrimmed (trim line) with
  | .entry key value => entryLine (String.ofList key) (firstPiece value)
  | _ => line

/-- The document with every row cut to its first value. The header stays as it is. -/
def firstValues (v : Vocabulary) (source : String) : String :=
  let lines := cutLines source.toList
  let count := (headerLines v (numberedLines source.toList)).length
  String.ofList (['\n'].intercalate (lines.take count ++ (lines.drop count).map firstValueLine))

def Line.firstValue : Line → Line
  | .entry key value => .entry key (firstPiece value)
  | line => line

/-- The row without the values behind the first one. -/
def Row.alone (r : Row) : Row :=
  { r with others := [] }

/-! ### The first piece of a field -/

section
variable {value : List Char}

theorem firstPiece_mem (value : List Char) : firstPiece value ∈ splitValues value := by
  obtain ⟨first, rest, h⟩ := List.exists_cons_of_ne_nil (splitValues_ne_nil value)
  rw [firstPiece, h]
  exact List.mem_cons_self

theorem firstPiece_ne_nil (h : trim value ≠ []) : firstPiece value ≠ [] := by
  have hmem := firstPiece_mem value
  rcases splitValues_cases value with hone | ⟨-, hall⟩
  · rw [hone, List.mem_singleton] at hmem
    rwa [hmem]
  · exact ne_nil_of_isNumber (hall _ hmem)

theorem splitValues_firstPiece (value : List Char) :
    splitValues (firstPiece value) = [firstPiece value] :=
  splitValues_of_mem (firstPiece_mem value)

end

/-! ### Lines that are cut -/

section
variable {source line : List Char}

theorem key_isPrefix {key value : List Char} (h : IsEntry line key value) : key <+: trim line := by
  obtain ⟨before, after, hcut, -, rfl, -⟩ := h.cut
  have hne : before ≠ [] := fun hnil => h.key_ne_nil (hnil ▸ trim_nil)
  have hstart : trimStart before = before := by
    refine trimStart_eq_self fun c hc => (isTrimmed_trim line).head c ?_
    rw [hcut, List.head?_append_of_ne_nil _ hne, hc]
  rw [trim, hstart, hcut]
  exact (trimEnd_prefix_self before).trans (List.prefix_append _ _)

theorem isComment_key {key value : List Char} (h : IsEntry line key value) :
    Line.isComment key = false := by
  have hash : "#".toList = ['#'] := rfl
  have slashes : "//".toList = ['/', '/'] := rfl
  rw [Line.isComment, hash, slashes, Bool.or_eq_false_iff]
  constructor
  · exact Bool.eq_false_iff.mpr fun hp =>
      h.active.not_hash ((List.isPrefixOf_iff_prefix.mp hp).trans (key_isPrefix h))
  · exact Bool.eq_false_iff.mpr fun hp =>
      h.active.not_slashes ((List.isPrefixOf_iff_prefix.mp hp).trans (key_isPrefix h))

theorem isEntry_firstValueLine {key value : List Char} (hl : line ∈ cutLines source)
    (h : IsEntry line key value) : IsEntry (firstValueLine line) key (firstPiece value) := by
  have hlabel := isLabel_of_isEntry hl h
  have hvalue : trim value = value := by
    obtain ⟨before, after, -, -, -, rfl⟩ := h.cut
    exact trim_trim after
  have hcomment : Line.isComment (String.ofList key).toList = false := by
    rw [String.toList_ofList, isComment_key h]
  have hentry := isEntry_entryLine hlabel hcomment
    (isTrimmed_of_mem_splitValues (firstPiece_mem value))
    (firstPiece_ne_nil (hvalue.symm ▸ h.value_ne_nil))
  rw [firstValueLine, Line.ofTrimmed_eq_entry_iff.mpr h]
  rwa [String.toList_ofList] at hentry

theorem ofTrimmed_firstValueLine (hl : line ∈ cutLines source) :
    Line.ofTrimmed (trim (firstValueLine line)) = (Line.ofTrimmed (trim line)).firstValue := by
  cases hline : Line.ofTrimmed (trim line) with
  | entry key value =>
    exact Line.ofTrimmed_eq_entry_iff.mpr
      (isEntry_firstValueLine hl (Line.ofTrimmed_eq_entry_iff.mp hline))
  | ignored => simp only [firstValueLine, hline, Line.firstValue]
  | faulty fault => simp only [firstValueLine, hline, Line.firstValue]

theorem line_feed_notMem_firstValueLine (hl : line ∈ cutLines source) :
    '\n' ∉ firstValueLine line := by
  have hfeed : '\n' ∉ line := fun hmem => by simpa using (of_mem_cutAt hl hmem).2
  unfold firstValueLine
  split
  · next key value hline =>
    have hentry := Line.ofTrimmed_eq_entry_iff.mp hline
    refine line_feed_notMem_entryLine (isLabel_of_isEntry hl hentry) fun hmem => hfeed ?_
    obtain ⟨before, after, hcut, -, -, rfl⟩ := hentry.cut
    have hafter := mem_of_mem_trim ((infix_of_mem_splitValues (firstPiece_mem _)).subset hmem)
    exact mem_of_mem_trim (hcut ▸ List.mem_append_right _ (List.mem_cons_of_mem _ hafter))
  · exact hfeed

end

/-! ### Rows -/

namespace Row

theorem ofEntry_firstPiece {key value : List Char} {row : Row}
    (h : ofEntry key value = .ok row) : ofEntry key (firstPiece value) = .ok row.alone := by
  obtain ⟨hlabel, hvalues⟩ := ofEntry_eq_ok_iff.mp h
  obtain ⟨first, rest, hpieces⟩ := List.exists_cons_of_ne_nil (splitValues_ne_nil value)
  have hfirst : number? first = some row.first := by
    rw [mapM_eq_some_iff, hpieces] at hvalues
    exact (List.cons.inj hvalues).1
  have hpiece : firstPiece value = first := by rw [firstPiece, hpieces, List.headD_cons]
  refine ofEntry_eq_ok_iff.mpr ⟨hlabel, ?_⟩
  rw [splitValues_firstPiece, hpiece, mapM_eq_some_iff, List.map_singleton, hfirst]
  rfl

/-- A line without a fault has none either when it is cut. -/
theorem of_fault?_eq_none {line : Line} (h : fault? line = none) :
    fault? line.firstValue = none ∧
      ofLine? line.firstValue = (ofLine? line).map Row.alone := by
  cases line with
  | ignored => exact ⟨rfl, rfl⟩
  | faulty fault => cases h
  | entry key value =>
    cases hrow : ofEntry key value with
    | error fault => simp [fault?, hrow] at h
    | ok row =>
      simp [fault?, ofLine?, Line.firstValue, hrow, ofEntry_firstPiece hrow, Except.toOption]

end Row

/-! ### Documents -/

section
variable {v : Vocabulary} {header data data' : List NumberedLine}

/-- The two lists have the same lines, cut to the first value in the second one. -/
def AreCut (data data' : List NumberedLine) : Prop :=
  data'.map NumberedLine.line = data.map fun l => l.line.firstValue

theorem startsData_of_firstValue {l l' : NumberedLine} (h : l'.line = l.line.firstValue) :
    startsData v l' = startsData v l := by
  rw [startsData, h, startsData]
  cases l.line <;> rfl

theorem rowsOf_eq_filterMap (lines : List NumberedLine) :
    rowsOf lines = (lines.map NumberedLine.line).filterMap Row.ofLine? := by
  rw [List.filterMap_map]
  rfl

theorem rowsOf_of_areCut (h : AreCut data data') (hnone : ∀ l ∈ data, Row.fault? l.line = none) :
    rowsOf data' = (rowsOf data).map Row.alone := by
  rw [rowsOf_eq_filterMap, h, List.filterMap_map, rowsOf, List.map_filterMap]
  exact List.filterMap_congr fun l hl => (Row.of_fault?_eq_none (hnone l hl)).2

theorem fault?_of_areCut (h : AreCut data data') (hnone : ∀ l ∈ data, Row.fault? l.line = none) :
    ∀ l ∈ data', Row.fault? l.line = none := by
  intro l hl
  have hmem : l.line ∈ data.map fun l => l.line.firstValue := h ▸ List.mem_map_of_mem hl
  obtain ⟨m, hm, hline⟩ := List.mem_map.mp hmem
  rw [← hline]
  exact (Row.of_fault?_eq_none (hnone m hm)).1

theorem sections_of_areCut {lines : List NumberedLine} (hbegins : BeginsData v lines)
    (h : AreCut (dataLines v lines) data') :
    headerLines v (headerLines v lines ++ data') = headerLines v lines ∧
      dataLines v (headerLines v lines ++ data') = data' := by
  have hheader : ¬ BeginsData v (headerLines v lines) := by
    rintro ⟨l, hl, hstarts⟩
    have := List.mem_takeWhile_imp hl
    simp [hstarts] at this
  rw [headerLines_append_of_not hheader, dataLines_append_of_not hheader]
  obtain ⟨first, rest, hdata⟩ := List.exists_cons_of_ne_nil fun hnil =>
    dataLines_eq_nil_iff.mp hnil hbegins
  have hfirst : startsData v first = true := by
    have := List.head?_dropWhile_not (!startsData v ·) lines
    rw [← dataLines, hdata] at this
    simpa using this
  rw [AreCut, hdata, List.map_cons] at h
  obtain ⟨first', rest', rfl, hline, -⟩ := List.map_eq_cons_iff.mp h
  have hfirst' : startsData v first' = true := (startsData_of_firstValue hline).trans hfirst
  constructor
  · simp [headerLines, hfirst']
  · simp [dataLines, hfirst']

theorem chartOf_map_alone (header : Header) (rows : List Row) :
    chartOf header (rows.map Row.alone) = { chartOf header rows with series := none } := by
  have hcount : seriesCount? (rows.map Row.alone) = none := by
    rw [seriesCount?, Option.map_eq_none_iff, List.find?_eq_none]
    intro row hrow
    obtain ⟨r, -, rfl⟩ := List.mem_map.mp hrow
    simp [Row.alone]
  simp only [chartOf, hcount, List.map_map]
  rfl

theorem parseLines_of_areCut {lines : List NumberedLine} {c : Chart}
    (h : AreCut (dataLines v lines) data') (hc : parseLines v lines = .ok c) :
    parseLines v (headerLines v lines ++ data') = .ok { c with series := none } := by
  obtain ⟨hnone, hrows, rfl⟩ := parseLines_eq_ok_iff.mp hc
  obtain ⟨hheader, hdata⟩ := sections_of_areCut (beginsData_of_rowsOf_ne_nil hrows) h
  rw [lineDiagnostics, List.append_eq_nil_iff] at hnone
  have hfault : ∀ l ∈ dataLines v lines, Row.fault? l.line = none := fun l hl => by
    have := List.filterMap_eq_nil_iff.mp hnone.2 l hl
    rwa [Option.map_eq_none_iff] at this
  refine parseLines_eq_ok_iff.mpr ⟨?_, ?_, ?_⟩
  · rw [lineDiagnostics, hheader, hdata, hnone.1, List.nil_append, List.filterMap_eq_nil_iff]
    intro l hl
    rw [fault?_of_areCut h hfault l hl, Option.map_none]
  · rw [hdata, rowsOf_of_areCut h hfault]
    simpa using hrows
  · rw [hheader, hdata, rowsOf_of_areCut h hfault, chartOf_map_alone]

end

section
variable {v : Vocabulary} {source : String}

theorem cutLines_firstValues :
    let lines := cutLines source.toList
    let count := (headerLines v (numberedLines source.toList)).length
    cutLines (firstValues v source).toList =
      lines.take count ++ (lines.drop count).map firstValueLine := by
  intro lines count
  have hne : lines ≠ [] := cutAt_ne_nil _ _
  rw [firstValues, String.toList_ofList]
  refine cutLines_intercalate (fun hnil => hne ?_) fun line hline => ?_
  · obtain ⟨htake, hdrop⟩ := List.append_eq_nil_iff.mp hnil
    rw [← List.take_append_drop count lines, htake, List.map_eq_nil_iff.mp hdrop, List.nil_append]
  · rcases List.mem_append.mp hline with hline | hline
    · intro hmem
      simpa using (of_mem_cutAt (List.take_subset _ _ hline) hmem).2
    · obtain ⟨line, hmem, rfl⟩ := List.mem_map.mp hline
      exact line_feed_notMem_firstValueLine (List.drop_subset _ _ hmem)

theorem numberedLines_firstValues :
    ∃ data', AreCut (dataLines v (numberedLines source.toList)) data' ∧
      numberedLines (firstValues v source).toList =
        headerLines v (numberedLines source.toList) ++ data' := by
  set lines := cutLines source.toList
  set count := (headerLines v (numberedLines source.toList)).length
  have hsplit : numberFrom 1 (lines.take count) ++
      numberFrom (1 + (lines.take count).length) (lines.drop count) =
        headerLines v (numberedLines source.toList) ++
          dataLines v (numberedLines source.toList) := by
    rw [← numberFrom_append, List.take_append_drop, ← numberedLines_eq_numberFrom]
    exact List.takeWhile_append_dropWhile.symm
  have hcount : (numberFrom 1 (lines.take count)).length = count := by
    have hle : count ≤ (numberedLines source.toList).length :=
      (List.takeWhile_prefix _).length_le
    rw [numberedLines, List.length_map, List.length_zipIdx] at hle
    rw [numberFrom, List.length_map, List.length_zipIdx, List.length_take, Nat.min_eq_left hle]
  obtain ⟨hheader, hdata⟩ := List.append_inj hsplit hcount
  refine ⟨numberFrom (1 + (lines.take count).length) ((lines.drop count).map firstValueLine), ?_, ?_⟩
  · have hlines : (dataLines v (numberedLines source.toList)).map NumberedLine.line =
        (lines.drop count).map fun line => Line.ofTrimmed (trim line) := by
      rw [← hdata, map_line_numberFrom]
    have hcut := congrArg (List.map Line.firstValue) hlines
    rw [List.map_map, List.map_map] at hcut
    rw [AreCut, map_line_numberFrom, List.map_map]
    refine Eq.trans (List.map_congr_left fun line hline => ?_) hcut.symm
    exact ofTrimmed_firstValueLine (List.drop_subset _ _ hline)
  · rw [numberedLines_eq_numberFrom, cutLines_firstValues, numberFrom_append, hheader]

end

/-- Cut to its first values, a document has the chart without series. -/
theorem parse_firstValues_eq {v : Vocabulary} {source : String} {c : Chart}
    (h : parse v source = .ok c) :
    parse v (firstValues v source) = .ok { c with series := none } := by
  obtain ⟨data', hcut, hlines⟩ := @numberedLines_firstValues v source
  rw [parse, hlines]
  exact parseLines_of_areCut hcut h

end ChartText.Source
