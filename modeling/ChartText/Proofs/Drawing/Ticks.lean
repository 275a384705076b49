import ChartText.Proofs.Drawing.Labels
import ChartText.Proofs.Drawing.Placed
import ChartText.Proofs.Drawing.Shares
import ChartText.Proofs.Number.Whole

/-! # Numbers at gridlines and slices

A number at a gridline is rounded to a whole number and counted in 64 bits, so it is the numeral of
that whole number (`isNumeral_tickLabel`) unless it is too large: from `2 ^ 63` on all numbers look
the same. The labels at the gridlines of a chart are these numerals of the quarters of its largest
cell (`Drawn.gridlineLabels_eq`). Percentages are at most a hundred, and so never too large
(`percent_bounds`). -/

namespace ChartText

open Binary64
open Svg (Element)

namespace Drawing

/-! ### Numerals -/

/-- The text shows a whole number, as far as 64 bits go. -/
structure IsNumeral (n : ℤ) (s : String) : Prop where
  inside : -2 ^ 63 ≤ n → n < 2 ^ 63 → s = toString n
  above : 2 ^ 63 ≤ n → s = "9223372036854775807"
  below : n < -2 ^ 63 → s = "-9223372036854775808"

theorem isNumeral_tickLabel {x : Float} {n : ℤ} (hx : x.isFinite = true)
    (hn : IsRoundedAway (toRat x) n) : IsNumeral n (tickLabel x) := by
  obtain ⟨hnan, hinf⟩ := isNaN_isInf_of_isFinite hx
  have hlimit : ((Nat.pow 2 63 : Nat) : Int) = 2 ^ 63 := rfl
  have hlabel : tickLabel x = toString (max (-2 ^ 63) (min (roundHalfAway x) (2 ^ 63 - 1))) := by
    unfold tickLabel
    rw [hnan, hinf, hlimit]
    rfl
  rw [hlabel, ← hn.unique (isRoundedAway_roundHalfAway x)]
  refine ⟨fun hlow hhigh => ?_, fun h => ?_, fun h => ?_⟩
  · rw [min_eq_left (by omega), max_eq_right (by omega)]
  · rw [min_eq_right (by omega), max_eq_right (by omega)]
    rfl
  · rw [min_eq_left (by omega), max_eq_left (by omega)]
    rfl

theorem exists_isNumeral_tickLabel {x : Float} (hx : x.isFinite = true) :
    ∃ n, IsRoundedAway (toRat x) n ∧ IsNumeral n (tickLabel x) :=
  ⟨_, isRoundedAway_roundHalfAway x, isNumeral_tickLabel hx (isRoundedAway_roundHalfAway x)⟩

theorem toString_ne_minus_zero (n : ℤ) : toString n ≠ "-0" := by
  intro h
  cases n with
  | ofNat m =>
    have hdash : '-' ∈ (toString m).toList := by
      rw [show toString m = "-0" from h]
      decide
    rw [Nat.toString_eq_ofList_toDigits, String.toList_ofList] at hdash
    have hdigit := Nat.isDigit_of_mem_toDigits (by decide) (by decide) hdash
    revert hdigit
    decide
  | negSucc m =>
    have happend : "-" ++ toString (m + 1) = "-" ++ "0" := h
    have hzero : Nat.repr (m + 1) = Nat.repr 0 := by
      have := congrArg String.toList happend
      rw [String.toList_append, String.toList_append, List.append_cancel_left_eq] at this
      exact String.ext this
    exact absurd (Nat.repr_inj.mp hzero) (Nat.succ_ne_zero m)

theorem IsNumeral.ne_minus_zero {n : ℤ} {s : String} (h : IsNumeral n s) : s ≠ "-0" := by
  rcases lt_or_ge n (-2 ^ 63) with hbelow | hlow
  · rw [h.below hbelow]
    decide
  · rcases lt_or_ge n (2 ^ 63) with hhigh | habove
    · rw [h.inside hlow hhigh]
      exact toString_ne_minus_zero n
    · rw [h.above habove]
      decide

/-! ### Shares -/

theorem scaled_one_hundred : (100.0 : Float).isFinite = true ∧ scaled 100.0 = 100 * one := by
  decide +kernel

theorem mul_between {x share : Float} (hx : x.isFinite = true) (hx0 : 0 ≤ scaled x)
    (hshare : share.isFinite = true) (h0 : 0 ≤ scaled share) (h1 : scaled share ≤ one) :
    (x * share).isFinite = true ∧ 0 ≤ scaled (x * share) ∧ scaled (x * share) ≤ scaled x := by
  have hx0' : (0 : ℚ) ≤ scaled x := by exact_mod_cast hx0
  have h0' : (0 : ℚ) ≤ scaled share := by exact_mod_cast h0
  have h1' : (scaled share : ℚ) ≤ one := by exact_mod_cast h1
  have h := (isRounding_mul hx hshare).between isFinite_zero hx
  rw [scaled_zero] at h
  refine h ?_ ?_
  · rw [Int.cast_zero]
    exact div_nonneg (mul_nonneg hx0' h0') cast_one_pos.le
  · rw [div_le_iff₀ cast_one_pos]
    exact mul_le_mul_of_nonneg_left h1' hx0'

section
variable {value total : Float} (hvalue : value.isFinite = true) (htotal : total.isFinite = true)
  (h0 : 0 ≤ scaled value) (hle : scaled value ≤ scaled total) (hpos : 0 < scaled total)
include hvalue htotal h0 hle hpos

theorem div_between : (value / total).isFinite = true ∧ 0 ≤ scaled (value / total) ∧
    scaled (value / total) ≤ one := by
  obtain ⟨x, hx, hone⟩ := exists_scaled_ones (n := 1) (by decide)
  have h0' : (0 : ℚ) ≤ scaled value := by exact_mod_cast h0
  have hle' : (scaled value : ℚ) ≤ scaled total := by exact_mod_cast hle
  have hpos' : (0 : ℚ) < scaled total := by exact_mod_cast hpos
  have h := (isRounding_div hvalue htotal hpos.ne').between isFinite_zero hx
  rw [scaled_zero, hone, Nat.cast_one, one_mul] at h
  refine h ?_ ?_
  · rw [Int.cast_zero]
    exact div_nonneg (mul_nonneg h0' cast_one_pos.le) hpos'.le
  · rw [div_le_iff₀ hpos', Int.cast_natCast, mul_comm]
    exact mul_le_mul_of_nonneg_left hle' cast_one_pos.le

theorem percent_bounds : (value / total * 100.0).isFinite = true ∧
    0 ≤ toRat (value / total * 100.0) ∧ toRat (value / total * 100.0) ≤ 100 := by
  obtain ⟨hdiv, hdiv0, hdiv1⟩ := div_between hvalue htotal h0 hle hpos
  obtain ⟨hhundred, hscaled⟩ := scaled_one_hundred
  have h0' : (0 : ℚ) ≤ scaled (value / total) := by exact_mod_cast hdiv0
  have h1' : (scaled (value / total) : ℚ) ≤ one := by exact_mod_cast hdiv1
  have h := (isRounding_mul hdiv hhundred).between isFinite_zero hhundred
  rw [scaled_zero, hscaled] at h
  push_cast at h
  have hone := cast_one_pos
  have hbound : (scaled (value / total) : ℚ) * (100 * one) ≤ 100 * one * one := by
    rw [mul_comm (100 * (one : ℚ)) one]
    exact mul_le_mul_of_nonneg_right h1' (by positivity)
  obtain ⟨hfinite, hlow, hhigh⟩ := h (by positivity) ((div_le_iff₀ hone).mpr hbound)
  refine ⟨hfinite, toRat_nonneg_iff.mpr hlow, ?_⟩
  rw [toRat, div_le_iff₀ hone]
  exact_mod_cast hhigh

end

/-! ### Quarters -/

/-- The share of the scale at a gridline. -/
def quarter (k : Nat) : Float :=
  Float.ofNat k / Float.ofNat gridlineCount

theorem quarter_spec : ∀ k ∈ List.range' 1 gridlineCount, (quarter k).isFinite = true ∧
    0 ≤ scaled (quarter k) ∧ scaled (quarter k) ≤ one := by
  decide +kernel

theorem scaled_quarter_last : scaled (quarter gridlineCount) = one := by
  decide +kernel

/-- The last quarter is all of the scale. -/
theorem toRat_mul_quarter_last {max : Float} (hmax : max.isFinite = true) :
    toRat (max * quarter gridlineCount) = toRat max := by
  obtain ⟨hfinite, -, -⟩ := quarter_spec gridlineCount (by decide)
  have h := (isRounding_mul hmax hfinite).scaled_eq hmax (by
    rw [scaled_quarter_last, Int.cast_natCast, mul_div_cancel_right₀ _ cast_one_pos.ne'])
  rw [toRat, toRat, h]

/-! ### Gridlines -/

/-- Among the elements of a drawing, the gridlines are dashed, and their labels end at them. -/
def isOfGridline : Element → Bool
  | .rule r => r.dashed
  | .label l => l.anchor == .stop
  | _ => false

/-- The labels at the gridlines among some elements, from the bottom up. -/
def gridlineLabels (es : List Element) : List String :=
  texts (es.filter isOfGridline)

section
variable {c : Chart} {o : Options} {plot : PlotArea Float} {max : Float}

theorem filter_gridlines :
    (gridlines o plot max).filter isOfGridline = gridlines o plot max := by
  rw [List.filter_eq_self]
  simp only [gridlines, List.forall_mem_flatMap, List.forall_mem_cons, List.not_mem_nil,
    false_imp_iff, implies_true, and_true]
  exact fun _ _ => ⟨rfl, rfl⟩

theorem filter_framed {marks : List Element} {x : Nat → Float}
    (h : ∀ e ∈ marks, isOfGridline e = false) :
    (framed c o plot max marks x).filter isOfGridline = gridlines o plot max := by
  have hnone {es : List Element} (hes : ∀ e ∈ es, isOfGridline e = false) :
      es.filter isOfGridline = [] :=
    List.filter_eq_nil_iff.mpr fun e he => by simp [hes e he]
  have haxes : (axes o plot).filter isOfGridline = [] := rfl
  have hlabels : (categoryLabels c o plot x).filter isOfGridline = [] :=
    hnone (List.forall_mem_map.mpr fun _ _ => rfl)
  have hcaptions : (captions c o plot).filter isOfGridline = [] := by
    unfold captions
    cases c.hints.bind (·.xAxis) <;> cases c.hints.bind (·.yAxis) <;> rfl
  rw [framed, List.filter_append, List.filter_append, List.filter_append, List.filter_append,
    filter_gridlines, haxes, hnone h, hlabels, hcaptions]
  simp only [List.append_nil]

/-- The labels of gridlines end at them, and no other label ends at its position. -/
theorem isOfGridline_label {l : Svg.Label} (h : l.anchor ≠ .stop) :
    isOfGridline (.label l) = false := by
  simpa [isOfGridline] using h

theorem isOfGridline_of_mem_bars : ∀ e ∈ bars c o plot max, isOfGridline e = false :=
  forall_mem_bars (fun _ => rfl) fun _ h => isOfGridline_label (by rw [h]; decide)

theorem isOfGridline_of_mem_lines : ∀ e ∈ lines c o plot max, isOfGridline e = false :=
  forall_mem_lines (fun _ => rfl) (fun _ => rfl) fun _ h => isOfGridline_label (by rw [h]; decide)

theorem filter_seriesLegend : (seriesLegend c o).filter isOfGridline = [] := by
  have hlegend : ∀ e ∈ seriesLegend c o, isOfGridline e = false :=
    forall_mem_seriesLegend (fun _ => rfl) fun _ h => isOfGridline_label (by rw [h]; decide)
  exact List.filter_eq_nil_iff.mpr fun e he => by simp [hlegend e he]

theorem filter_page (es : List Element) :
    (page c o es).elements.filter isOfGridline = es.filter isOfGridline := by
  rw [page, List.filter_append]
  cases nonEmpty c.title <;> rfl

theorem texts_gridlines : texts (gridlines o plot max) =
    (List.range' 1 gridlineCount).map fun k => tickLabel (max * quarter k) := by
  rw [texts, gridlines, List.filterMap_flatMap, List.map_eq_flatMap]
  rfl

end

section
variable {c : Chart} {o : Options} {es : List Element}

/-- The gridlines of a chart with axes are labelled with quarters of its largest cell. -/
theorem Drawn.gridlineLabels_eq (h : Drawn c o es) (haxes : HasAxes c.type) :
    ∃ max, Scalar.largest? (c.cells c.type).all = some max ∧
      (max.isFinite && 0.0 < max) = true ∧
      gridlineLabels es =
        (List.range' 1 gridlineCount).map fun k => tickLabel (max * quarter k) := by
  cases h with
  | @bar plot max type scaled =>
    obtain ⟨hlargest, hmax⟩ := scaleMax_eq_ok_iff.mp scaled.scale
    refine ⟨max, by rw [type, all_cells]; exact hlargest, hmax, ?_⟩
    rw [gridlineLabels, List.filter_append, filter_seriesLegend, List.nil_append,
      filter_framed isOfGridline_of_mem_bars, texts_gridlines]
  | @line plot max type scaled =>
    obtain ⟨hlargest, hmax⟩ := scaleMax_eq_ok_iff.mp scaled.scale
    rw [← all_cells] at hlargest
    refine ⟨max, by rw [type]; exact hlargest, hmax, ?_⟩
    rw [gridlineLabels, List.filter_append, filter_seriesLegend, List.nil_append,
      filter_framed isOfGridline_of_mem_lines, texts_gridlines]
  | @area plot max type scaled =>
    obtain ⟨hlargest, hmax⟩ := scaleMax_eq_ok_iff.mp scaled.scale
    refine ⟨max, by rw [type]; exact hlargest, hmax, ?_⟩
    have harea : ∀ e ∈ areaElements c o plot max, isOfGridline e = false :=
      List.forall_mem_singleton.mpr rfl
    rw [gridlineLabels, filter_framed harea, texts_gridlines]
  | @radial hole slices type =>
    exfalso
    generalize c.type = type' at type haxes
    cases type with
    | pie | donut => exact haxes

end

/-! ### Labels of drawings -/

section
variable {c : Chart} {o : Options} {es : List Element}

theorem Drawn.isNumeral_gridlineLabels (h : Drawn c o es) (haxes : HasAxes c.type) :
    ∃ max, IsLargest (c.cells c.type).all max ∧ max.isFinite = true ∧ 0 < toRat max ∧
      List.Forall₂ (fun k s => ∃ n, IsRoundedAway (toRat (max * quarter k)) n ∧ IsNumeral n s)
        (List.range' 1 gridlineCount) (gridlineLabels es) ∧
      ∃ n top, IsRoundedAway (toRat max) n ∧ IsNumeral n top ∧
        (gridlineLabels es).getLast? = some top := by
  obtain ⟨max, hlargest, hmax, hlabels⟩ := h.gridlineLabels_eq haxes
  have hlargest := isLargest_of_largest? hlargest
  simp only [Bool.and_eq_true, decide_eq_true_eq, pos_iff hlargest.isNaN] at hmax
  obtain ⟨hfinite, hpos⟩ := hmax
  have hquarters : ∀ k ∈ List.range' 1 gridlineCount,
      ∃ n, IsRoundedAway (toRat (max * quarter k)) n ∧
        IsNumeral n (tickLabel (max * quarter k)) := by
    intro k hk
    obtain ⟨hquarter, h0, h1⟩ := quarter_spec k hk
    exact exists_isNumeral_tickLabel (mul_between hfinite hpos.le hquarter h0 h1).1
  rw [hlabels]
  refine ⟨max, hlargest, hfinite, toRat_pos_iff.mpr hpos, ?_, ?_⟩
  · rw [List.forall₂_map_right_iff, List.forall₂_same]
    exact hquarters
  · obtain ⟨n, hn, hs⟩ := hquarters gridlineCount (by decide)
    rw [toRat_mul_quarter_last hfinite] at hn
    exact ⟨n, _, hn, hs, rfl⟩

theorem Drawn.percentLabel_eq (h : Drawn c o es) (haxes : ¬ HasAxes c.type) {v : Float}
    (hv : v ∈ c.values) :
    ∃ n, IsRoundedAway (toRat (v / Scalar.sum c.values * 100.0)) n ∧ 0 ≤ n ∧ n ≤ 100 ∧
      percentLabel v (Scalar.sum c.values) = toString n := by
  cases h with
  | bar type | line type | area type => exact absurd (type ▸ trivial) haxes
  | radial type share =>
    obtain ⟨-, -, htotal, -⟩ := slices_eq_ok_iff.mp share
    rw [Bool.and_eq_true, decide_eq_true_eq] at htotal
    obtain ⟨htotal, hpos⟩ := htotal
    have hfinite := isFinite_of_sum htotal
    have hnonneg : ∀ w ∈ c.values, 0 ≤ scaled w := fun w hw =>
      toRat_nonneg_iff.mp (toRat_nonneg_of_slices share hfinite w hw)
    have hsum := isTotal_sum fun w hw => ⟨hfinite w hw, hnonneg w hw⟩
    rw [pos_iff hsum.isNaN] at hpos
    obtain ⟨hpercent, hlow, hhigh⟩ :=
      percent_bounds (hfinite v hv) htotal (hnonneg v hv) (hsum.le v hv) hpos
    obtain ⟨n, hn, hs⟩ := exists_isNumeral_tickLabel hpercent
    have hn0 : 0 ≤ n := hn.ge_of_ge (by exact_mod_cast hlow)
    have hn100 : n ≤ 100 := hn.le_of_le (by exact_mod_cast hhigh)
    exact ⟨n, hn, hn0, hn100, hs.inside (by omega) (by omega)⟩

end

/-- Numbers at gridlines are numerals of whole numbers, up to the largest number of 64 bits: those
of a chart show the quarters of its largest cell, and the top one shows this cell itself. A
percentage is the numeral of a whole number in any case. -/
theorem isNumeral_labels {x : Float} (hx : x.isFinite = true) :
    (∃ n, IsRoundedAway (toRat x) n ∧ IsNumeral n (tickLabel x) ∧ tickLabel x ≠ "-0") ∧
    (∀ (c : Chart) (o : Options) (d : Svg.Document), c.drawing o = .ok d → HasAxes c.type →
      ∃ max, IsLargest (c.cells c.type).all max ∧ max.isFinite = true ∧ 0 < toRat max ∧
        List.Forall₂ (fun k s => ∃ n, IsRoundedAway (toRat (max * quarter k)) n ∧ IsNumeral n s)
          (List.range' 1 gridlineCount) (gridlineLabels d.elements) ∧
        ∃ n top, IsRoundedAway (toRat max) n ∧ IsNumeral n top ∧
          (gridlineLabels d.elements).getLast? = some top) ∧
    ∀ (c : Chart) (o : Options) (d : Svg.Document), c.drawing o = .ok d → ¬ HasAxes c.type →
      ∀ v ∈ c.values,
        ∃ n, IsRoundedAway (toRat (v / Scalar.sum c.values * 100.0)) n ∧ 0 ≤ n ∧ n ≤ 100 ∧
          percentLabel v (Scalar.sum c.values) = toString n := by
  refine ⟨?_, fun c o d h haxes => ?_, fun c o d h haxes v hv => ?_⟩
  · obtain ⟨n, hn, hs⟩ := exists_isNumeral_tickLabel hx
    exact ⟨n, hn, hs, hs.ne_minus_zero⟩
  · obtain ⟨-, es, hdrawn, rfl⟩ := Chart.drawing_eq_ok_iff.mp h
    rw [gridlineLabels, filter_page]
    exact hdrawn.isNumeral_gridlineLabels haxes
  · obtain ⟨-, es, hdrawn, -⟩ := Chart.drawing_eq_ok_iff.mp h
    exact hdrawn.percentLabel_eq haxes hv

/-- Halves, and what is rounded to zero from below. -/
theorem isNumeral_labels_halves :
    let bar : Chart := { type := .bar, labels := ["A", "B"], values := [2.5, -0.4] }
    let pie : Chart := { type := .pie, labels := ["A", "B"], values := [1.0, 7.0] }
    (∃ n, IsRoundedAway (toRat (-0.4)) n ∧ IsNumeral n (tickLabel (-0.4))) ∧
    tickLabel (-0.4) = "0" ∧
    (∃ d max n, bar.drawing (.themed .dark) = .ok d ∧ IsLargest (bar.cells bar.type).all max ∧
      IsRoundedAway (toRat max) n ∧ IsNumeral n "3" ∧
      gridlineLabels d.elements = ["1", "1", "2", "3"]) ∧
    ∃ d n, pie.drawing (.themed .dark) = .ok d ∧
      IsRoundedAway (toRat (1.0 / Scalar.sum pie.values * 100.0)) n ∧ toString n = "13" := by
  intro bar pie
  have hfinite : (-0.4 : Float).isFinite = true := by decide +kernel
  obtain ⟨⟨n, hn, hs, -⟩, hgridlines, hpercentages⟩ := isNumeral_labels hfinite
  refine ⟨⟨n, hn, hs⟩, by decide +kernel, ?_, ?_⟩
  · have hlabels : (bar.drawing (.themed .dark)).toOption.map (fun d => gridlineLabels d.elements) =
        some ["1", "1", "2", "3"] := by decide +kernel
    cases h : bar.drawing (.themed .dark) with
    | error e =>
      rw [h] at hlabels
      cases hlabels
    | ok d =>
      rw [h] at hlabels
      have hlabels : gridlineLabels d.elements = ["1", "1", "2", "3"] := Option.some.inj hlabels
      obtain ⟨max, hmax, -, -, -, n, top, hn, hs, htop⟩ := hgridlines bar _ d h trivial
      obtain rfl : "3" = top := by
        rw [hlabels] at htop
        exact Option.some.inj htop
      exact ⟨d, max, n, rfl, hmax, hn, hs, hlabels⟩
  · have hdrawn : (pie.drawing (.themed .dark)).toOption.isSome = true := by decide +kernel
    have hpercent : percentLabel 1.0 (Scalar.sum pie.values) = "13" := by decide +kernel
    cases h : pie.drawing (.themed .dark) with
    | error e =>
      rw [h] at hdrawn
      cases hdrawn
    | ok d =>
      obtain ⟨n, hn, -, -, hlabel⟩ := hpercentages pie _ d h id 1.0 List.mem_cons_self
      exact ⟨d, n, rfl, hn, hlabel.symm.trans hpercent⟩

/-- A number that is too large is not shown, although it is whole. -/
theorem tickLabel_large :
    (1e19 : Float).isFinite = true ∧ IsRoundedAway (toRat 1e19) (10 ^ 19) ∧
      tickLabel 1e19 = "9223372036854775807" ∧ tickLabel 1e19 ≠ toString (10 ^ 19 : ℤ) := by
  have hfinite : (1e19 : Float).isFinite = true := by decide +kernel
  have hscaled : scaled 1e19 = 10 ^ 19 * one := by decide +kernel
  have hvalue : toRat 1e19 = (10 ^ 19 : ℤ) := by
    rw [toRat, hscaled, Int.cast_mul, Int.cast_natCast, mul_div_cancel_right₀ _ cast_one_pos.ne']
  have hrounded : IsRoundedAway (toRat 1e19) (10 ^ 19) := by
    rw [hvalue]
    exact .of_nonneg (by positivity) (by linarith) (by linarith)
  have hlabel := (isNumeral_tickLabel hfinite hrounded).above (by norm_num)
  refine ⟨hfinite, hrounded, hlabel, ?_⟩
  rw [hlabel]
  decide +kernel

end Drawing
end ChartText
