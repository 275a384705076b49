import ChartText.Proofs.Number.Nearest
import Mathlib.Algebra.Order.Round

/-! # The nearest whole number

`IsRoundedAway v n` is rounding to the nearest whole number, where a half goes away from zero. There
is one such number (`IsRoundedAway.unique`), `roundHalfAway` finds it for every double
(`isRoundedAway_roundHalfAway`), and it is on the same side of any other whole number as `v`. -/

namespace ChartText.Binary64

/-- The whole number is the rational number, rounded with halves away from zero. -/
structure IsRoundedAway (v : ℚ) (n : ℤ) : Prop where
  nearest : ∀ m : ℤ, |v - n| ≤ |v - m|
  away : ∀ m : ℤ, |v - m| = |v - n| → |m| ≤ |n|

namespace IsRoundedAway
variable {v : ℚ} {n m : ℤ}

theorem of_nonneg (hv : 0 ≤ v) (hlow : n ≤ v + 1 / 2) (hhigh : v + 1 / 2 < n + 1) :
    IsRoundedAway v n := by
  have hn : n = round v := by rw [round_eq, Int.floor_eq_iff.mpr ⟨hlow, hhigh⟩]
  refine ⟨fun m => hn ▸ round_le v m, fun m h => ?_⟩
  have hhalf : |v - n| ≤ 1 / 2 := hn ▸ abs_sub_round v
  rw [← h, abs_le] at hhalf
  -- Both are between a half below zero and a half above `v`, and there is none above `n`.
  have hn0 : -1 < n := by exact_mod_cast (show (-1 : ℚ) < n by linarith)
  have hm0 : -1 < m := by exact_mod_cast (show (-1 : ℚ) < m by linarith)
  have hmn : m < n + 1 := by exact_mod_cast (show (m : ℚ) < n + 1 by linarith)
  rw [abs_of_nonneg (by omega), abs_of_nonneg (by omega)]
  omega

theorem neg (h : IsRoundedAway v n) : IsRoundedAway (-v) (-n) := by
  have hdistance (k : ℤ) : |-v - (k : ℚ)| = |v - ((-k : ℤ) : ℚ)| := by
    rw [← abs_neg, Int.cast_neg]
    ring_nf
  refine ⟨fun m => ?_, fun m hm => ?_⟩
  · rw [hdistance, hdistance, neg_neg]
    exact h.nearest (-m)
  · rw [hdistance, hdistance, neg_neg] at hm
    rw [abs_neg, ← abs_neg m]
    exact h.away (-m) hm

theorem unique (hn : IsRoundedAway v n) (hm : IsRoundedAway v m) : n = m := by
  have hdistance : |v - n| = |v - m| := le_antisymm (hn.nearest m) (hm.nearest n)
  have hsize : |n| = |m| := le_antisymm (hm.away n hdistance) (hn.away m hdistance.symm)
  rcases abs_eq_abs.mp hsize with h | rfl
  · exact h
  -- Opposite numbers are as far from `v` only if `v` or they are zero, and zero is nearest to zero.
  · have hm0 : m = 0 := by
      rcases abs_eq_abs.mp hdistance with h | h
      · exact_mod_cast (show (m : ℚ) = 0 by push_cast at h; linarith)
      · have hv : v = 0 := by push_cast at h; linarith
        have hzero := hm.nearest 0
        rw [hv, Int.cast_zero, sub_zero, zero_sub, abs_neg, abs_zero, abs_nonpos_iff] at hzero
        exact_mod_cast hzero
    rw [hm0, neg_zero]

theorem le_of_le (h : IsRoundedAway v n) (hv : v ≤ m) : n ≤ m := by
  by_contra hlt
  have hlt' : (m : ℚ) < n := by exact_mod_cast not_le.mp hlt
  have hnear := h.nearest m
  rw [abs_of_nonpos (by linarith), abs_of_nonpos (by linarith)] at hnear
  linarith

theorem ge_of_ge (h : IsRoundedAway v n) (hv : m ≤ v) : m ≤ n := by
  by_contra hlt
  have hlt' : (n : ℚ) < m := by exact_mod_cast not_le.mp hlt
  have hnear := h.nearest m
  rw [abs_of_nonneg (by linarith), abs_of_nonneg (by linarith)] at hnear
  linarith

end IsRoundedAway

theorem isRoundedAway_div (m : Nat) {u : Nat} (hu : 0 < u) :
    IsRoundedAway (m / u) ((2 * m + u) / (2 * u) : Nat) := by
  have hu' : (0 : ℚ) < u := by exact_mod_cast hu
  have hfloor : (2 * m + u) / (2 * u) = ⌊(m : ℚ) / u + 1 / 2⌋₊ := by
    rw [← Nat.floor_div_eq_div (K := ℚ)]
    push_cast
    congr 1
    field_simp
  have hnonneg : 0 ≤ (m : ℚ) / u := by positivity
  refine .of_nonneg hnonneg ?_ ?_
  · rw [Int.cast_natCast, hfloor]
    exact Nat.floor_le (by linarith)
  · rw [Int.cast_natCast, hfloor]
    exact Nat.lt_floor_add_one _

theorem isRoundedAway_roundHalfAway (x : Float) : IsRoundedAway (toRat x) (roundHalfAway x) := by
  have hone : 0 < one := Nat.cast_pos.mp cast_one_pos
  have h := isRoundedAway_div (magnitude x) hone
  rw [toRat, scaled_eq_withSign]
  unfold roundHalfAway withSign
  split
  · rw [neg_div]
    exact h.neg
  · exact h

end ChartText.Binary64
