import ChartText.Proofs.Source.Messages
import ChartText.Proofs.Source.Prefixes
import ChartText.Proofs.Source.WellFormed
import ChartText.Proofs.Text.Filled

/-! # The texts of a document

Every text of a chart is cut out of one line of its document, so none of them has a line feed in it
(`Source.isOneLine_of_parse`). The header keeps `Header.IsOneLine` line by line; the labels are
those of the rows, and series without a name in the legend are numbered. -/

namespace ChartText
open Text (IsLine)

/-- The texts of the hints. -/
structure Hints.IsOneLine (h : Hints) : Prop where
  xAxis : ∀ s, h.xAxis = some s → IsLine s
  yAxis : ∀ s, h.yAxis = some s → IsLine s
  theme : ∀ s, h.theme = some s → IsLine s
  colors : ∀ ss, h.colors = some ss → ∀ s ∈ ss, IsLine s

structure Series.IsOneLine (s : Series) : Prop where
  name : IsLine s.name
  color : ∀ color, s.color = some color → IsLine color

/-- No text of the chart has a line feed. -/
structure Chart.IsOneLine (c : Chart) : Prop where
  title : ∀ s, c.title = some s → IsLine s
  subtitle : ∀ s, c.subtitle = some s → IsLine s
  labels : ∀ s ∈ c.labels, IsLine s
  series : ∀ ss, c.series = some ss → ∀ s ∈ ss, s.IsOneLine
  hints : ∀ h, c.hints = some h → h.IsOneLine

namespace Source

/-! ### Parts of a value -/

theorem mem_of_mem_stripQuotes {c : Char} {s : List Char} (h : c ∈ stripQuotes s) : c ∈ s := by
  have hopened (opened : List Char) (hsub : opened ⊆ s)
      (h : c ∈ if opened.getLast?.any isQuote then opened.dropLast else opened) : c ∈ s := by
    split at h
    · exact hsub ((List.dropLast_prefix _).subset h)
    · exact hsub h
  refine hopened _ ?_ h
  cases s with
  | nil => exact List.nil_subset []
  | cons d s =>
    dsimp only
    split
    · exact List.subset_cons_self d s
    · exact List.Subset.refl _

theorem mem_of_mem_dropBrackets {c : Char} {s : List Char} (h : c ∈ dropBrackets s) : c ∈ s := by
  unfold dropBrackets at h
  split at h
  · split at h
    · exact List.mem_cons_of_mem _ ((List.dropLast_prefix _).subset h)
    · exact h
  · exact h

theorem mem_of_mem_splitList {c : Char} {value entry : List Char} (he : entry ∈ splitList value)
    (hc : c ∈ entry) : c ∈ value := by
  obtain ⟨piece, hpiece, rfl⟩ := List.mem_map.mp (List.mem_of_mem_filter he)
  have hmem := (Text.of_mem_cutAt hpiece (Text.mem_of_mem_trim hc)).1
  exact Text.mem_of_mem_trim (mem_of_mem_dropBrackets hmem)

/-! ### The header -/

namespace Header

structure IsOneLine (h : Header) : Prop where
  title : ∀ s, h.title = some s → IsLine s
  subtitle : ∀ s, h.subtitle = some s → IsLine s
  legend : ∀ s ∈ h.legend, IsLine s
  hints : h.hints.IsOneLine

section
variable {value : List Char} (hv : '\n' ∉ value)
include hv

theorem isLine_ofList : IsLine (String.ofList value) := by
  unfold IsLine
  rwa [String.toList_ofList]

theorem isLine_title? : ∀ s, title? value = some s → IsLine s := by
  intro s hs
  unfold title? at hs
  dsimp only at hs
  split at hs
  · cases hs
  · cases hs
    exact isLine_ofList fun hmem => hv (mem_of_mem_stripQuotes hmem)

theorem isLine_of_mem_names : ∀ s ∈ names value, IsLine s := by
  intro s hs
  obtain ⟨entry, hentry, rfl⟩ := List.mem_map.mp hs
  exact isLine_ofList fun hmem => hv (mem_of_mem_splitList hentry hmem)

theorem IsOneLine.set {v : Vocabulary} {h h' : Header} {key : HeaderKey} (hh : h.IsOneLine)
    (hs : h.set v key value = .ok h') : h'.IsOneLine := by
  have htext : ∀ s, some (String.ofList value) = some s → IsLine s := by
    rintro s ⟨⟩
    exact isLine_ofList hv
  cases key with
  | type =>
    simp only [Header.set] at hs
    split at hs
    · cases hs
      exact { hh with }
    · cases hs
  | title =>
    cases hs
    exact { hh with title := isLine_title? hv }
  | subtitle =>
    cases hs
    exact { hh with subtitle := isLine_title? hv }
  | theme =>
    cases hs
    exact { hh with hints := { hh.hints with theme := htext } }
  | xAxis =>
    cases hs
    exact { hh with hints := { hh.hints with xAxis := htext } }
  | yAxis =>
    cases hs
    exact { hh with hints := { hh.hints with yAxis := htext } }
  | legend =>
    cases hs
    exact { hh with legend := isLine_of_mem_names hv }
  | colors =>
    cases hs
    refine { hh with hints := { hh.hints with colors := ?_ } }
    rintro ss ⟨⟩
    exact isLine_of_mem_names hv

end

/-- A line of a document sets a field to a part of that line. -/
theorem IsOneLine.step {v : Vocabulary} {source : List Char} {h : Header} {l : NumberedLine}
    (hh : h.IsOneLine) (hl : l ∈ numberedLines source) : (h.step v l).IsOneLine := by
  unfold Header.step
  split
  · next h' hread =>
    unfold Header.read at hread
    split at hread
    · cases hread
      exact hh
    · cases hread
    · next key value hentry =>
      split at hread
      · obtain ⟨i, line, hi, rfl⟩ := mem_numberedLines.mp hl
        refine hh.set ?_ hread
        exact line_feed_notMem_value (List.mem_of_getElem? hi)
          (Line.ofTrimmed_eq_entry_iff.mp hentry)
      · cases hread
        exact hh
  · exact hh

theorem isOneLine_ofLines (v : Vocabulary) {source : List Char} {lines : List NumberedLine}
    (hsub : lines ⊆ numberedLines source) : (ofLines v lines).IsOneLine :=
  List.foldlRecOn lines (step v)
    ⟨nofun, nofun, fun _ hs => absurd hs List.not_mem_nil, ⟨nofun, nofun, nofun, nofun⟩⟩
    fun _ hh _ hl => hh.step (hsub hl)

end Header

/-! ### The chart -/

theorem isOneLine_of_mem_columns {legend : List String} {rows : List Row} {n : Nat} {s : Series}
    (hlegend : ∀ name ∈ legend, IsLine name) (hs : s ∈ columns legend rows n) : s.IsOneLine := by
  refine ⟨?_, by simp [(of_mem_columns hs).2]⟩
  obtain ⟨i, -, rfl⟩ := List.mem_map.mp hs
  show IsLine (legend[i]?.getD s!"Series {i + 1}")
  cases hi : legend[i]? with
  | none =>
    have hprefix : IsLine "Series " := by decide
    exact hprefix.append (Text.isPrintable_toString (i + 1)).isLine
  | some name => exact hlegend name (List.mem_of_getElem? hi)

/-- No text of a chart goes over more than one line of its document. -/
theorem isOneLine_of_parse {v : Vocabulary} {source : String} {c : Chart}
    (h : parse v source = .ok c) : c.IsOneLine := by
  have hlabels := (parse_wellFormed h).1.label
  obtain ⟨-, -, rfl⟩ := parseLines_eq_ok_iff.mp h
  have hheader : (Header.ofLines v (headerLines v (numberedLines source.toList))).IsOneLine :=
    Header.isOneLine_ofLines v (List.takeWhile_prefix _).subset
  refine ⟨hheader.title, hheader.subtitle, fun s hs => (hlabels s hs).no_line_feed, ?_, ?_⟩
  · intro ss hss s hs
    obtain ⟨n, -, rfl⟩ := Option.map_eq_some_iff.mp hss
    exact isOneLine_of_mem_columns hheader.legend hs
  · intro hints hhints
    simp only [chartOf] at hhints
    split at hhints
    · cases hhints
    · cases hhints
      exact hheader.hints

end Source
end ChartText
