import ChartText.Proofs.Drawing.Refused
import ChartText.Proofs.Number.Totals
import ChartText.Proofs.Source.WellFormed

/-! # Charts without a positive value

A chart with axes whose scale is refused has no positive value. A pie whose total is refused has
none either, unless the total is infinite: values that can all be drawn may have a sum that is too
large (`Chart.render_nonPositive`). -/

namespace ChartText
open Binary64 Drawing

variable {c : Chart} {o : Options}

theorem Chart.mem_numbers_of_mem_drawnValues {x : Float} (h : x ∈ drawnValues c) :
    x ∈ c.numbers := by
  have hvalues : x ∈ c.values → x ∈ c.numbers := fun hx => List.mem_append_left _ hx
  have hscaled : x ∈ scaledValues c → x ∈ c.numbers := by
    unfold scaledValues Chart.multiSeries? Chart.numbers
    cases c.series with
    | none => exact fun hx => List.mem_append_left _ hx
    | some ss =>
      match ss with
      | [] | [_] => exact fun hx => List.mem_append_left _ hx
      | _ :: _ :: _ => exact fun hx => List.mem_append_right _ hx
  unfold drawnValues at h
  split at h
  · exact hscaled h
  · exact hscaled h
  · exact hvalues h

namespace Drawing

theorem not_pos_of_scaleMax {type : ChartType} {values : List Float} {e : RenderError}
    (hvalues : ∀ v ∈ values, v.isFinite = true) (h : scaleMax type values = .error e) :
    ∀ v ∈ values, ¬ 0.0 < v := by
  intro v hv hpos
  obtain ⟨m, hm, hlargest, hle⟩ := largest?_eq hvalues (List.ne_nil_of_mem hv)
  obtain ⟨max, rfl, hmax, -⟩ := scaleMax_eq_error h
  have hfinite (w : Float) (hw : w ∈ values) := (isNaN_isInf_of_isFinite (hvalues w hw)).1
  rw [hlargest, Option.getD_some, hvalues m hm, Bool.true_and, decide_eq_false_iff_not] at hmax
  exact hmax ((pos_iff (hfinite m hm)).mpr
    (((pos_iff (hfinite v hv)).mp hpos).trans_le (hle v hv)))

/-- A sum of finite values that are not negative is refused because they are all zero, or because
it is infinite. -/
theorem exists_pos_iff_isInf {values : List Float} (hvalues : ∀ v ∈ values, v.isFinite = true)
    (hneg : ∀ v ∈ values, ¬ v < 0.0)
    (h : ((Scalar.sum values).isFinite && 0.0 < Scalar.sum values) = false) :
    (∃ v ∈ values, 0.0 < v) ↔ (Scalar.sum values).isInf = true := by
  have hfinite (v : Float) (hv : v ∈ values) := (isNaN_isInf_of_isFinite (hvalues v hv)).1
  have hnonneg (v : Float) (hv : v ∈ values) : 0 ≤ scaled v :=
    not_lt.mp fun hlt => hneg v hv ((neg_iff (hfinite v hv)).mpr hlt)
  have htotal := isTotal_sum fun v hv => ⟨hvalues v hv, hnonneg v hv⟩
  rw [isInf_iff htotal.isNaN]
  constructor
  · rintro ⟨v, hv, hpos⟩
    by_contra hsum
    rw [Bool.not_eq_false] at hsum
    rw [hsum, Bool.true_and, decide_eq_false_iff_not, pos_iff htotal.isNaN] at h
    exact h (((pos_iff (hfinite v hv)).mp hpos).trans_le (htotal.le v hv))
  · intro hsum
    by_contra hnone
    have hzero := htotal.eq_zero fun v hv => le_antisymm
      (not_lt.mp fun hlt => hnone ⟨v, hv, (pos_iff (hfinite v hv)).mpr hlt⟩) (hnonneg v hv)
    have : (Scalar.sum values).isFinite = true := by
      rw [isFinite_iff htotal.isNaN, hzero]
      exact limit_pos
    rw [hsum] at this
    cases this

end Drawing

/-- If a chart of a document is refused because no positive number scales it, it draws no positive
value. If it is refused because its values have no positive sum, it has a positive value exactly if
the sum is infinite. -/
theorem Chart.render_nonPositive {v : Source.Vocabulary} {source : String}
    (h : Source.parse v source = .ok c) (o : Options) :
    (∀ type max, c.render o = .error (.nonPositiveScale type max) →
        ∀ x ∈ drawnValues c, ¬ 0.0 < x) ∧
      ∀ type total, c.render o = .error (.nonPositiveTotal type total) →
        ((∃ x ∈ drawnValues c, 0.0 < x) ↔ total.isInf = true) := by
  obtain ⟨header, rows, rfl, hheader, hne, hrows⟩ := Source.parse_eq_chartOf h
  have hfinite := (Source.wellFormed_chartOf hheader hne hrows).finite
  generalize Source.chartOf header rows = c at hfinite
  have hvalues (x : Float) (hx : x ∈ drawnValues c) : x.isFinite = true :=
    hfinite x (mem_numbers_of_mem_drawnValues hx)
  constructor
  · intro type max hrender
    generalize he : RenderError.nonPositiveScale type max = e at hrender
    cases refused_of_render hrender with
    | lengths hlengths => rcases checkLengths_eq_error hlengths with rfl | rfl <;> cases he
    | scale _ hscale => exact not_pos_of_scaleMax hvalues hscale
    | slices _ hlengths hslices =>
      rcases slices_eq_error hlengths hslices with ⟨label, value, rfl⟩ | ⟨-, -, rfl⟩ <;> cases he
    | plotArea | radius | canvas => cases he
  · intro type total hrender
    generalize he : RenderError.nonPositiveTotal type total = e at hrender
    cases refused_of_render hrender with
    | lengths hlengths => rcases checkLengths_eq_error hlengths with rfl | rfl <;> cases he
    | scale _ hscale =>
      obtain ⟨_, _, _, rfl⟩ := scaleMax_eq_error hscale
      cases he
    | slices hradial hlengths hslices =>
      rcases slices_eq_error hlengths hslices with ⟨label, value, rfl⟩ | ⟨hneg, htotal, rfl⟩
      · cases he
      · cases he
        have hdrawn : drawnValues c = c.values := by
          unfold drawnValues
          split <;> simp_all [HasAxes]
        rw [hdrawn] at hvalues ⊢
        exact exists_pos_iff_isInf hvalues hneg htotal
    | plotArea | radius | canvas => cases he

/-- The largest of a zero and a negative value. -/
theorem Chart.render_nonPositive_zero :
    ∃ c, Source.parse .standard "A: 0\nB: -3" = .ok c ∧
      c.render (.themed .dark) = .error (.nonPositiveScale .bar 0.0) ∧
      drawnValues c = [0.0, -3.0] ∧ ∀ x ∈ drawnValues c, ¬ 0.0 < x := by
  have h : Source.parse .standard "A: 0\nB: -3" =
      .ok { labels := ["A", "B"], values := [0.0, -3.0] } := by decide +kernel
  have hrender : Chart.render { labels := ["A", "B"], values := [0.0, -3.0] } (.themed .dark) =
      .error (.nonPositiveScale .bar 0.0) := by decide +kernel
  exact ⟨_, h, hrender, rfl, (render_nonPositive h _).1 _ _ hrender⟩

/-- Two positive values whose sum is too large for a finite double. -/
theorem Chart.render_nonPositive_overflow :
    ∃ c, Source.parse .standard "Type: pie\nA: 1e308\nB: 1e308" = .ok c ∧
      c.render (.themed .dark) = .error (.nonPositiveTotal .pie (infinity false)) ∧
      ∃ x ∈ drawnValues c, 0.0 < x := by
  have h : Source.parse .standard "Type: pie\nA: 1e308\nB: 1e308" =
      .ok { type := .pie, labels := ["A", "B"], values := [1e308, 1e308] } := by decide +kernel
  exact ⟨_, h, by decide +kernel, 1e308, List.mem_cons_self, by decide +kernel⟩

end ChartText
