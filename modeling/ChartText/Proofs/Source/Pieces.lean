import ChartText.Proofs.Source.Joined
import ChartText.Proofs.Source.Rows

/-! # Rows of several numbers

A field with several numbers among its pieces is cut there only if every piece is a number. Else the
whole field is read as one token, and taking off its decoration takes off the commas between the
pieces with it: what is left are the pieces, run together. `ReadsAsOne` says when that is a number
again, and `parse_pieces` that a row is read from its pieces, or reported, in all other cases. -/

namespace ChartText.Text

theorem filter_trim {p : Char → Bool} (hp : ∀ c, isBlank c = true → p c = false) (s : List Char) :
    (trim s).filter p = s.filter p := by
  have hstart : ∀ t : List Char, (t.dropWhile isBlank).filter p = t.filter p := fun t => by
    have hnone : (t.takeWhile isBlank).filter p = [] :=
      List.filter_eq_nil_iff.mpr fun c hc =>
        Bool.eq_false_iff.mp (hp c (List.all_eq_true.mp List.all_takeWhile c hc))
    conv => rhs; rw [← List.takeWhile_append_dropWhile (p := isBlank) (l := t), List.filter_append,
      hnone, List.nil_append]
  rw [trim, trimEnd, List.filter_reverse, hstart, List.filter_reverse, List.reverse_reverse,
    trimStart, hstart]

theorem flatten_cutAt {α : Type} (p : α → Bool) (s : List α) :
    (cutAt p s).flatten = s.filter (!p ·) := by
  induction s with
  | nil => rfl
  | cons c s ih =>
    rw [cutAt_cons, List.filter_cons]
    split
    · next hc => simp [hc, ih]
    · next hc =>
      obtain ⟨piece, rest, h⟩ := List.exists_cons_of_ne_nil (cutAt_ne_nil p s)
      rw [h, List.flatten_cons] at ih
      simp [hc, h, ih]

end ChartText.Text

namespace ChartText.Source
open Text

/-! ### Taking off the decoration -/

/-- A number is read from what is left of a token without its decoration. -/
theorem number?_congr {s t : List Char}
    (h : s.filter (!isDecoration ·) = t.filter (!isDecoration ·)) : number? s = number? t := by
  rw [number?, number?, h]

theorem isDecoration_of_isBlank {c : Char} (h : isBlank c = true) : isDecoration c = true := by
  simp [isDecoration, h]

theorem isDecoration_of_isSeparator {c : Char} {next : Option Char} (hc : c ≠ wideComma)
    (h : isSeparator (c, next) = true) : isDecoration c = true := by
  simp only [isSeparator, beq_eq_false_iff_ne.mpr hc, Bool.false_or, Bool.and_eq_true] at h
  simp [isDecoration, h.1]

/-- Without wide commas a field differs from its pieces in decoration only. -/
theorem filter_flatten_cutFields {s : List Char} (hs : wideComma ∉ s) :
    (cutFields s).flatten.filter (!isDecoration ·) = s.filter (!isDecoration ·) := by
  have htrim : ∀ piece : List (Char × Option Char),
      (trim (piece.map Prod.fst)).filter (!isDecoration ·) =
        (piece.map Prod.fst).filter (!isDecoration ·) :=
    fun piece => filter_trim (fun c hc => by simp [isDecoration_of_isBlank hc]) _
  have hpieces : (cutFields s).flatten.filter (!isDecoration ·) =
      (((cutAt isSeparator (withNext s)).flatten).map Prod.fst).filter (!isDecoration ·) := by
    rw [cutFields, List.filter_flatten, List.map_map, List.map_flatten, List.filter_flatten,
      List.map_map]
    exact congrArg List.flatten (List.map_congr_left fun piece _ => htrim piece)
  rw [hpieces, flatten_cutAt]
  conv => rhs; rw [← map_fst_withNext s]
  rw [List.filter_map, List.filter_map, List.filter_filter]
  refine congrArg (List.map Prod.fst) (List.filter_congr fun pair hpair => ?_)
  -- what is cut at is a comma, and a comma is decoration
  have hc : pair.1 ≠ wideComma := fun he =>
    hs (he ▸ map_fst_withNext s ▸ List.mem_map_of_mem hpair)
  cases hsep : isSeparator pair with
  | false => simp
  | true => simp [isDecoration_of_isSeparator hc hsep]

/-- A field that is not cut is read as its pieces, run together. -/
theorem number?_eq_flatten {s : List Char} (hs : wideComma ∉ s) :
    number? s = number? (cutFields s).flatten :=
  number?_congr (filter_flatten_cutFields hs).symm

/-! ### The row of an entry -/

/-- Some piece of the field is no number, and the pieces run together are one. -/
def ReadsAsOne (value : List Char) : Prop :=
  (∃ piece ∈ cutFields value, isNumber piece = false) ∧ wideComma ∉ value ∧
    isNumber (cutFields value).flatten = true

theorem splitValues_of_forall {value : List Char} (hv : IsTrimmed value)
    (hmany : 1 < (cutFields value).length)
    (hall : ∀ piece ∈ cutFields value, isNumber piece = true) :
    splitValues value = cutFields value := by
  unfold splitValues
  rw [hv.trim_eq]
  exact if_pos (by simpa using And.intro hmany hall)

theorem splitValues_of_exists {value : List Char} (hv : IsTrimmed value)
    (hsome : ∃ piece ∈ cutFields value, isNumber piece = false) : splitValues value = [value] := by
  unfold splitValues
  rw [hv.trim_eq]
  refine if_neg fun h => ?_
  obtain ⟨piece, hpiece, hno⟩ := hsome
  simp only [Bool.and_eq_true, List.all_eq_true] at h
  rw [h.2 piece hpiece] at hno
  cases hno

section
variable {v : Vocabulary} {source : List Char} {i : Nat} {key value : List Char} {row : Row}

theorem isTrimmed_of_entryAt {lines : List (List Char)} (h : EntryAt lines i key value) :
    IsTrimmed value := by
  obtain ⟨line, -, hentry⟩ := h
  obtain ⟨before, after, -, -, -, rfl⟩ := hentry.cut
  exact isTrimmed_trim after

theorem rowAt_iff_of_dataEntryAt (h : DataEntryAt v (cutLines source) i key value) :
    RowAt v (cutLines source) i row ↔
      row.label = String.ofList key ∧ (splitValues value).mapM number? = some row.values := by
  constructor
  · rintro ⟨key', value', ⟨hentry, -⟩, hrow⟩
    obtain ⟨l, hl, hline⟩ := entryAt_iff.mp h.1
    obtain ⟨l', hl', hline'⟩ := entryAt_iff.mp hentry
    obtain rfl := Option.some.inj (hl.symm.trans hl')
    obtain ⟨rfl, rfl⟩ := Line.entry.inj (hline.symm.trans hline')
    exact hrow
  · exact fun hrow => ⟨key, value, h, hrow⟩

theorem rowAt_iff_of_forall (h : DataEntryAt v (cutLines source) i key value)
    (hmany : 1 < (cutFields value).length)
    (hall : ∀ piece ∈ cutFields value, isNumber piece = true) :
    RowAt v (cutLines source) i row ↔
      row.label = String.ofList key ∧ row.values.map some = (cutFields value).map number? := by
  rw [rowAt_iff_of_dataEntryAt h, splitValues_of_forall (isTrimmed_of_entryAt h.1) hmany hall,
    mapM_eq_some_iff, eq_comm (a := row.values.map some)]

theorem rowAt_iff_of_exists (h : DataEntryAt v (cutLines source) i key value)
    (hsome : ∃ piece ∈ cutFields value, isNumber piece = false) :
    RowAt v (cutLines source) i row ↔
      row.label = String.ofList key ∧ number? value = some row.first ∧ row.others = [] := by
  rw [rowAt_iff_of_dataEntryAt h, splitValues_of_exists (isTrimmed_of_entryAt h.1) hsome,
    mapM_eq_some_iff, Row.values, List.map_cons, List.map_nil, List.map_cons, List.cons.injEq,
    eq_comm (a := []), List.map_eq_nil_iff]

theorem exists_rowAt_of_forall (h : DataEntryAt v (cutLines source) i key value)
    (hmany : 1 < (cutFields value).length)
    (hall : ∀ piece ∈ cutFields value, isNumber piece = true) :
    ∃ row, RowAt v (cutLines source) i row := by
  obtain ⟨xs, hxs⟩ := isSome_mapM hall
  rw [mapM_eq_some_iff] at hxs
  cases xs with
  | nil =>
    rw [List.map_eq_nil_iff.mp hxs] at hmany
    cases hmany
  | cons x rest =>
    exact ⟨⟨String.ofList key, x, rest⟩, (rowAt_iff_of_forall h hmany hall).mpr ⟨rfl, hxs.symm⟩⟩

theorem parse_of_malformed {source : String} (h : Malformed v (cutLines source.toList) i) :
    ∃ ds, parse v source = .error ds ∧ i + 1 ∈ ds.map Diagnostic.line := by
  have hline := malformed_iff.mp h
  refine ⟨lineDiagnostics v (numberedLines source.toList), ?_, hline⟩
  cases hd : lineDiagnostics v (numberedLines source.toList) with
  | nil => simp [hd] at hline
  | cons d ds => simp only [parse, parseLines, hd]

theorem readsAsOne_iff :
    ReadsAsOne value ↔
      (∃ piece ∈ cutFields value, isNumber piece = false) ∧ isNumber value = true := by
  refine and_congr_right fun _ => ⟨fun ⟨hwide, hnumber⟩ => ?_, fun hnumber => ?_⟩
  · rwa [isNumber, number?_eq_flatten hwide]
  · have hwide := wideComma_notMem_of_isNumber hnumber
    exact ⟨hwide, by rwa [isNumber, ← number?_eq_flatten hwide]⟩

/-- An entry with several numbers among its pieces is a row of a single number only if the pieces,
some of which are no numbers, run together into one. In all other cases it is a row with a value for
every piece, or it is reported. -/
theorem parse_pieces {source : String}
    (h : DataEntryAt v (cutLines source.toList) i key value)
    (hmany : 2 ≤ (cutFields value).countP isNumber) :
    ((∃ row, RowAt v (cutLines source.toList) i row ∧ row.others = []) ↔ ReadsAsOne value) ∧
    (¬ ReadsAsOne value →
      (∃ row, RowAt v (cutLines source.toList) i row ∧
        row.values.map some = (cutFields value).map number?) ∨
      ∃ ds, parse v source = .error ds ∧ i + 1 ∈ ds.map Diagnostic.line) := by
  rw [readsAsOne_iff]
  by_cases hall : ∀ piece ∈ cutFields value, isNumber piece = true
  · have hsome : ¬ ∃ piece ∈ cutFields value, isNumber piece = false := by simpa using hall
    have hlength : 1 < (cutFields value).length := Nat.le_trans hmany List.countP_le_length
    have hvalues {row} (hrow : RowAt v (cutLines source.toList) i row) :
        row.values.map some = (cutFields value).map number? :=
      ((rowAt_iff_of_forall h hlength hall).mp hrow).2
    obtain ⟨row, hrow⟩ := exists_rowAt_of_forall h hlength hall
    refine ⟨?_, fun _ => .inl ⟨row, hrow, hvalues hrow⟩⟩
    simp only [hsome, false_and, iff_false]
    rintro ⟨row, hrow, hothers⟩
    have := congrArg List.length (hvalues hrow)
    simp only [Row.values, hothers, List.length_map, List.length_singleton] at this
    omega
  · have hsome : ∃ piece ∈ cutFields value, isNumber piece = false := by simpa using hall
    simp only [rowAt_iff_of_exists h hsome, hsome, true_and]
    cases hnumber : number? value with
    | some x =>
      have hone : isNumber value = true := by simp [isNumber, hnumber]
      simp only [hone, not_true_eq_false, false_implies, and_true, iff_true]
      exact ⟨⟨String.ofList key, x, []⟩, ⟨rfl, rfl, rfl⟩, rfl⟩
    | none =>
      have hone : isNumber value = false := by simp [isNumber, hnumber]
      refine ⟨by simp [hone], fun _ => .inr (parse_of_malformed (.noNumber key value h ?_))⟩
      rw [splitValues_of_exists (isTrimmed_of_entryAt h.1) hsome]
      simpa using hnumber

/-- Of the pieces `1`, `2` and `x` two are numbers, and the line is reported. -/
theorem parse_pieces_reported :
    DataEntryAt .standard (cutLines "A: 1, 2，x".toList) 0 ['A'] "1, 2，x".toList ∧
      2 ≤ (cutFields "1, 2，x".toList).countP isNumber ∧
      ∃ ds, parse .standard "A: 1, 2，x" = .error ds ∧ 1 ∈ ds.map Diagnostic.line := by
  have entry : IsEntry "A: 1, 2，x".toList ['A'] "1, 2，x".toList :=
    ⟨⟨by decide, by decide, by decide⟩,
      ⟨['A'], " 1, 2，x".toList, by decide, by decide, by decide, by decide⟩, by decide, by decide⟩
  have h : DataEntryAt .standard (cutLines "A: 1, 2，x".toList) 0 ['A'] "1, 2，x".toList :=
    ⟨⟨_, by decide, entry⟩, fun header => header.2 (by decide)⟩
  have hmany : 2 ≤ (cutFields "1, 2，x".toList).countP isNumber := by decide +kernel
  refine ⟨h, hmany, ((parse_pieces h hmany).2 fun hone => hone.2.1 (by decide)).resolve_left ?_⟩
  rintro ⟨row, -, hrow⟩
  -- the last piece has no value
  have hx : none ∈ (cutFields "1, 2，x".toList).map number? :=
    List.mem_map.mpr ⟨['x'], by decide, by decide⟩
  rw [← hrow] at hx
  simp at hx

/-- The last piece is empty, so the numbers before it run together. -/
theorem parse_pieces_run_together :
    DataEntryAt .standard (cutLines "A: 1, 2,".toList) 0 ['A'] "1, 2,".toList ∧
      (cutFields "1, 2,".toList).map number? = [some 1.0, some 2.0, none] ∧
      RowAt .standard (cutLines "A: 1, 2,".toList) 0 ⟨"A", 12.0, []⟩ ∧
      parse .standard "A: 1, 2," = .ok { labels := ["A"], values := [12.0] } := by
  have entry : IsEntry "A: 1, 2,".toList ['A'] "1, 2,".toList :=
    ⟨⟨by decide, by decide, by decide⟩,
      ⟨['A'], " 1, 2,".toList, by decide, by decide, by decide, by decide⟩, by decide, by decide⟩
  have h : DataEntryAt .standard (cutLines "A: 1, 2,".toList) 0 ['A'] "1, 2,".toList :=
    ⟨⟨_, by decide, entry⟩, fun header => header.2 (by decide)⟩
  refine ⟨h, by decide +kernel, (rowAt_iff_of_dataEntryAt h).mpr ⟨by decide, ?_⟩, by decide +kernel⟩
  decide +kernel

end

end ChartText.Source
