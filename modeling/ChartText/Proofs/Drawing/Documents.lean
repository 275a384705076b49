import ChartText.Proofs.Drawing.Verdict
import ChartText.Proofs.Source.Prefixes
import ChartText.Proofs.Source.Rows
import ChartText.Proofs.Source.WellFormed

/-! # Drawing the chart of a document

A chart that was read from a document has a label and a value for every row, so it passes the checks
of its lengths, and the only fault of its data that names a row is a negative slice. The row that is
named is the first one in the document with a negative first value (`Chart.render_of_parse`). -/

namespace ChartText

/-! ### Faults of the data -/

namespace Drawing

variable {c : Chart} {type : ChartType} {label : String} {x : Float}

theorem not_hasAxes_iff : ¬ HasAxes type ↔ type = .pie ∨ type = .donut := by
  cases type <;> simp [HasAxes]

theorem slices_eq_negativeSlice_iff (hlengths : checkLengths c = .ok ()) :
    slices c = .error (.negativeSlice type label x) ↔
      type = c.type ∧
        (c.labels.zip c.values).find? (fun (_, value) => value < 0.0) = some (label, x) := by
  unfold slices
  rw [hlengths]
  cases (c.labels.zip c.values).find? fun (_, value) => value < 0.0 with
  | some entry =>
    dsimp only [bind, Except.bind]
    simp [Prod.ext_iff, eq_comm]
  | none =>
    dsimp only [bind, Except.bind]
    split <;> simp

theorem checkData_eq_negativeSlice_iff (hlengths : checkLengths c = .ok ()) :
    checkData c = .error (.negativeSlice type label x) ↔
      ¬ HasAxes c.type ∧ type = c.type ∧
        (c.labels.zip c.values).find? (fun (_, value) => value < 0.0) = some (label, x) := by
  by_cases haxes : HasAxes c.type
  · simp only [haxes, not_true_eq_false, false_and, iff_false]
    intro h
    rw [checkData_of_axes haxes, hlengths] at h
    obtain ⟨_, _, _, he⟩ := scaleMax_eq_error (discard_eq_error_iff.mp h)
    cases he
  · simp only [haxes, not_false_eq_true, true_and]
    rw [checkData_of_not_axes haxes, discard_eq_error_iff, slices_eq_negativeSlice_iff hlengths]

/-- The labels and the values of a chart come from the same rows. -/
theorem find?_negative_chartOf (header : Source.Header) (rows : List Source.Row) :
    ((Source.chartOf header rows).labels.zip (Source.chartOf header rows).values).find?
        (fun (_, value) => value < 0.0) =
      (rows.find? (·.first < 0.0)).map fun row => (row.label, row.first) := by
  simp only [Source.chartOf, List.zip_map', List.find?_map]
  rfl

end Drawing

open Drawing Source Text

variable {c : Chart} {v : Vocabulary} {source : String}

theorem Chart.checkLengths_of_parse (h : parse v source = .ok c) : checkLengths c = .ok () := by
  obtain ⟨-, hrows, rfl⟩ := parseLines_eq_ok_iff.mp h
  exact checkLengths_eq_ok_iff.mpr ⟨by simpa [chartOf] using hrows, by simp [chartOf]⟩

theorem Chart.render_eq_negativeSlice_iff (h : parse v source = .ok c) (o : Options)
    {type : ChartType} {label : String} {x : Float} :
    c.render o = .error (.negativeSlice type label x) ↔
      (c.type = .pie ∨ c.type = .donut) ∧ type = c.type ∧
        ∃ row, (rowsOf (dataLines v (numberedLines source.toList))).find? (·.first < 0.0) =
          some row ∧ label = row.label ∧ x = row.first := by
  have hdata : c.render o = .error (.negativeSlice type label x) ↔
      checkData c = .error (.negativeSlice type label x) :=
    ⟨checkData_of_render trivial, fun hdata => render_of_checkData hdata o⟩
  rw [hdata, checkData_eq_negativeSlice_iff (checkLengths_of_parse h), not_hasAxes_iff]
  obtain ⟨-, -, rfl⟩ := parseLines_eq_ok_iff.mp h
  rw [find?_negative_chartOf, Option.map_eq_some_iff]
  simp only [Prod.mk.injEq, eq_comm]

/-- The first row of a document with a negative first value. -/
def IsFirstNegative (v : Vocabulary) (lines : List (List Char)) (row : Row) : Prop :=
  ∃ i, RowAt v lines i row ∧ row.first < 0.0 ∧
    ∀ j < i, ∀ r, RowAt v lines j r → ¬ r.first < 0.0

/-- The chart of a document is never refused for its lengths, whatever its rows and its type. It is
refused for a negative slice exactly if it is a pie or a donut and some row begins with a negative
value, and then the label and the value are those of the first such row. -/
theorem Chart.render_of_parse (h : parse v source = .ok c) (o : Options) :
    (∀ type, c.render o ≠ .error (.noData type)) ∧
    (∀ type labels values, c.render o ≠ .error (.mismatchedLengths type labels values)) ∧
    ((∃ type label x, c.render o = .error (.negativeSlice type label x)) ↔
      (c.type = .pie ∨ c.type = .donut) ∧
        ∃ i row, RowAt v (cutLines source.toList) i row ∧ row.first < 0.0) ∧
    ∀ type label x, c.render o = .error (.negativeSlice type label x) →
      type = c.type ∧ ∃ row, IsFirstNegative v (cutLines source.toList) row ∧
        label = row.label ∧ x = row.first := by
  have hlengths := checkLengths_of_parse h
  have hfirst {row : Row} (hrow : (rowsOf (dataLines v (numberedLines source.toList))).find?
      (·.first < 0.0) = some row) : IsFirstNegative v (cutLines source.toList) row := by
    obtain ⟨i, hi, hnegative, hbefore⟩ := rowAt_of_find? hrow
    exact ⟨i, hi, of_decide_eq_true hnegative, fun j hj r hr => of_decide_eq_false (hbefore j hj r hr)⟩
  have hfaults {e : RenderError} (hrender : c.render o = .error e) (he : e.IsOfData) :
      (∃ max, e = .nonPositiveScale c.type max) ∨
        (∃ label value, e = .negativeSlice c.type label value) ∨
        ∃ total, e = .nonPositiveTotal c.type total := by
    refine (checkData_eq_error (checkData_of_render he hrender)).resolve_left fun herror => ?_
    rw [hlengths] at herror
    cases herror
  refine ⟨fun type hrender => ?_, fun type labels values hrender => ?_, ⟨?_, ?_⟩, ?_⟩
  · rcases hfaults hrender trivial with ⟨_, he⟩ | ⟨_, _, he⟩ | ⟨_, he⟩ <;> cases he
  · rcases hfaults hrender trivial with ⟨_, he⟩ | ⟨_, _, he⟩ | ⟨_, he⟩ <;> cases he
  · rintro ⟨type, label, x, hrender⟩
    obtain ⟨htype, -, row, hrow, -⟩ := (render_eq_negativeSlice_iff h o).mp hrender
    obtain ⟨i, hi, hnegative, -⟩ := hfirst hrow
    exact ⟨htype, i, row, hi, hnegative⟩
  · rintro ⟨htype, i, row, hi, hnegative⟩
    have hsome : ((rowsOf (dataLines v (numberedLines source.toList))).find?
        (·.first < 0.0)).isSome = true :=
      List.find?_isSome.mpr ⟨row, mem_rowsOf_of_rowAt hi, decide_eq_true hnegative⟩
    obtain ⟨first, hfind⟩ := Option.isSome_iff_exists.mp hsome
    exact ⟨_, _, _, (render_eq_negativeSlice_iff h o).mpr ⟨htype, rfl, first, hfind, rfl, rfl⟩⟩
  · intro type label x hrender
    obtain ⟨-, htype, row, hrow, hlabel, hx⟩ := (render_eq_negativeSlice_iff h o).mp hrender
    exact ⟨htype, row, hfirst hrow, hlabel, hx⟩

/-- Ragged rows of a donut. The first value of the second row is not negative, though another value
of it is, and so the third row is named. -/
theorem Chart.render_of_parse_ragged :
    ∃ c, parse .standard "Type: donut\nA: 5, 1\nB: 0, -2, 3\nTitle: -4\nC: -1, 2" = .ok c ∧
      c.render (.themed .dark) = .error (.negativeSlice .donut "Title" (-4.0)) ∧
      ∃ row, IsFirstNegative .standard
          (cutLines "Type: donut\nA: 5, 1\nB: 0, -2, 3\nTitle: -4\nC: -1, 2".toList) row ∧
        "Title" = row.label ∧ -4.0 = row.first := by
  have h : ∃ c, parse .standard "Type: donut\nA: 5, 1\nB: 0, -2, 3\nTitle: -4\nC: -1, 2" = .ok c ∧
      c.render (.themed .dark) = .error (.negativeSlice .donut "Title" (-4.0)) := by
    refine ⟨{ type := .donut, labels := ["A", "B", "Title", "C"], values := [5.0, 0.0, -4.0, -1.0]
              series := some [⟨"Series 1", [5.0, 0.0, -4.0, -1.0], none⟩,
                ⟨"Series 2", [1.0, -2.0, 0.0, 2.0], none⟩] }, ?_, ?_⟩
    · decide +kernel
    · decide +kernel
  obtain ⟨c, hparse, hrender⟩ := h
  exact ⟨c, hparse, hrender, ((render_of_parse hparse _).2.2.2 _ _ _ hrender).2⟩

end ChartText
