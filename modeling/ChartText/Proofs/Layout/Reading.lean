import ChartText.Proofs.Layout.Placement
import ChartText.Proofs.Number.Exact
import ChartText.Proofs.Settings.Room

/-! # The layout of doubles, read exactly

Where a chart can be laid out with doubles it can be laid out over exact numbers as well: rounding
never makes room that is not there (`room_of_ofCanvas?`), and the largest cell is the same one. -/

namespace ChartText
open Binary64

def Canvas.map {α β : Type} (f : α → β) (k : Canvas α) : Canvas β where
  width := f k.width
  height := f k.height
  padding := f k.padding

/-! ### The canvas -/

section
variable {k : Canvas Float} {withLegend : Bool} {plot : PlotArea Float}

theorem isDrawable_cases (h : k.isDrawable = true) :
    k.width.isFinite = true ∧ 0 < scaled k.width ∧ k.height.isFinite = true ∧ 0 < scaled k.height ∧
      k.padding.isFinite = true ∧ 0 ≤ scaled k.padding := by
  simp only [Canvas.isDrawable, Bool.and_eq_true, decide_eq_true_eq, Bool.not_eq_true',
    decide_eq_false_iff_not] at h
  obtain ⟨⟨⟨⟨hw, hw0⟩, hh, hh0⟩, hp⟩, hp0⟩ := h
  rw [pos_iff (isNaN_isInf_of_isFinite hw).1] at hw0
  rw [pos_iff (isNaN_isInf_of_isFinite hh).1] at hh0
  rw [neg_iff (isNaN_isInf_of_isFinite hp).1, not_lt] at hp0
  exact ⟨hw, hw0, hh, hh0, hp, hp0⟩

/-- A plot area that is not empty with doubles is not empty without rounding. -/
theorem room_of_ofCanvas? (hk : k.isDrawable = true)
    (h : PlotArea.ofCanvas? k withLegend = some plot) :
    2 * scaled k.padding < scaled k.width ∧
      2 * scaled k.padding + bandPixels withLegend * one < scaled k.height := by
  obtain ⟨hw, hw0, hh, hh0, hp, hp0⟩ := isDrawable_cases hk
  obtain ⟨hwidth, hheight⟩ := not_not.mp (mt ofCanvas?_eq_none_iff.mpr (by rw [h]; nofun))
  have hright := isFinite_sub hw hp hw0.le hp0
  rw [pos_iff (isRounding_sub hright hp).isNaN, scaled_sub_pos_iff hright hp] at hwidth
  have hw2 : 2 * scaled k.padding < scaled k.width := by
    by_contra hle
    have := (isRounding_sub hw hp).ge k.padding hp (by
      rw [sub_le_iff_le_add]
      exact_mod_cast (show scaled k.width ≤ scaled k.padding + scaled k.padding by omega))
    omega
  refine ⟨hw2, ?_⟩
  by_contra hbands
  by_cases hh2 : 2 * scaled k.padding < scaled k.height
  · have hroomy : k.IsRoomy := ⟨hw, hh, hp, hp0, hw2, hh2⟩
    rw [ofCanvas?_eq_none hroomy (not_lt.mp hbands)] at h
    cases h
  · -- Nothing is left of the height even without the bands.
    have htwice := isRounding_double hp
    obtain ⟨htitle, htitle'⟩ := scaled_titleBand
    obtain ⟨hlegend, hlegend'⟩ := scaled_legendBand withLegend
    have hbelow := sub_nonpos_of_le hh htwice.isNaN
      (htwice.le k.height hh (by exact_mod_cast not_lt.mp hh2))
    have htitled := sub_nonpos_of_nonpos hbelow.1 hbelow.2 htitle (htitle' ▸ ones_nonneg 30)
    have hplot : (plotHeight k withLegend).isNaN = false ∧ scaled (plotHeight k withLegend) ≤ 0 :=
      sub_nonpos_of_nonpos htitled.1 htitled.2 hlegend (hlegend' ▸ ones_nonneg _)
    have hbottom := isFinite_sub hh hp hh0.le hp0
    have htop := le_sub_of_nonpos hbottom hplot.1 hplot.2
    exact not_pos_sub hbottom htop.1 htop.2 hheight

end

namespace Scale
variable {canvas : Canvas Float} {cells : Cells Float} {s : Scale Float}

theorem of?_eq_some {α : Type} [Scalar α] {canvas : Canvas α} {cells : Cells α} {s : Scale α}
    (h : of? canvas cells = some s) :
    canvas.isDrawable = true ∧ PlotArea.ofCanvas? canvas cells.isGrouped = some s.plot ∧
      Scalar.largest? cells.all = some s.peak ∧ Scalar.isFinite s.peak = true ∧
      (0.0 : α) < s.peak := by
  unfold of? at h
  split at h
  · next peak plot hpeak hplot =>
    split at h
    · next hok =>
      cases h
      simp only [Bool.and_eq_true, decide_eq_true_eq] at hok
      exact ⟨hok.1, hplot, hpeak, hok.2.1, hok.2.2⟩
    · cases h
  · cases h

/-- Without rounding the largest cell is the same. -/
theorem reaches_toRat (hfinite : ∀ v ∈ cells.all, v.isFinite = true) (h : of? canvas cells = some s)
    {plot : PlotArea ℚ} : Reaches ⟨plot, toRat s.peak⟩ (cells.map toRat) := by
  obtain ⟨-, -, hlargest, hpeak, hpos⟩ := of?_eq_some h
  have hne : cells.all ≠ [] := by
    intro hnil
    rw [hnil] at hlargest
    cases hlargest
  obtain ⟨m, hm, hm', hle⟩ := largest?_eq hfinite hne
  obtain rfl : s.peak = m := Option.some.inj (hlargest.symm.trans hm')
  refine ⟨?_, ?_, ?_⟩
  · exact toRat_pos_iff.mpr ((pos_iff (isNaN_isInf_of_isFinite hpeak).1).mp hpos)
  · rw [Cells.all_map]
    exact List.mem_map_of_mem hm
  · rw [Cells.all_map, List.forall_mem_map]
    exact fun v hv => toRat_le_toRat_iff.mpr (hle v hv)

theorem isDrawable_toRat (h : canvas.isDrawable = true) :
    (canvas.map toRat).isDrawable = true := by
  obtain ⟨-, hw0, -, hh0, -, hp0⟩ := isDrawable_cases h
  have hw : 0 < toRat canvas.width := toRat_pos_iff.mpr hw0
  have hh : 0 < toRat canvas.height := toRat_pos_iff.mpr hh0
  have hp : 0 ≤ toRat canvas.padding := toRat_nonneg_iff.mpr hp0
  simp [Canvas.isDrawable, Canvas.map, hw, hh, hp]

theorem bands_eq (withLegend : Bool) : (bands withLegend : ℚ) = bandPixels withLegend := by
  cases withLegend <;> norm_num [bands, bandPixels, legendPixels]

theorem room_toRat {side padding : Float} {n : Nat}
    (h : 2 * scaled padding + n * one < scaled side) :
    toRat padding + n < toRat side - toRat padding := by
  have hsum : toRat padding + n + toRat padding = (2 * scaled padding + n * one : Int) / one := by
    have hne := cast_one_pos.ne'
    rw [toRat]
    field_simp
    push_cast
    ring
  rw [lt_sub_iff_add_lt, hsum, toRat, div_lt_div_iff_of_pos_right cast_one_pos, Int.cast_lt]
  exact h

theorem of?_toRat (hfinite : ∀ v ∈ cells.all, v.isFinite = true) (h : of? canvas cells = some s) :
    ∃ t, of? (canvas.map toRat) (cells.map toRat) = some t ∧ t.peak = toRat s.peak := by
  obtain ⟨hdrawable, hplot, -⟩ := of?_eq_some h
  obtain ⟨hwidth, hheight⟩ := room_of_ofCanvas? hdrawable hplot
  let plot : PlotArea ℚ :=
    { left := toRat canvas.padding
      right := toRat canvas.width - toRat canvas.padding
      top := toRat canvas.padding + bands cells.isGrouped
      bottom := toRat canvas.height - toRat canvas.padding }
  have hon : IsOn ⟨plot, toRat s.peak⟩ (canvas.map toRat) (cells.map toRat).isGrouped :=
    { left := rfl
      right := rfl
      bottom := rfl
      top := by rw [Cells.isGrouped_map]; rfl
      left_lt_right := by
        have := @room_toRat canvas.width canvas.padding 0 (by
          rw [Int.natCast_zero, zero_mul, add_zero]
          exact hwidth)
        rwa [Nat.cast_zero, add_zero] at this
      top_lt_bottom := by
        have := room_toRat hheight
        rwa [← bands_eq] at this }
  exact ⟨_, of?_eq_some_iff.mpr ⟨isDrawable_toRat hdrawable, hon, reaches_toRat hfinite h⟩, rfl⟩

end Scale
end ChartText
