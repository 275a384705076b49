import ChartText.Proofs.Number.Nearest
import ChartText.Proofs.Number.Shortest

/-! # Decimals as doubles

`Decimal.toFloat` does not compute powers of ten that are far too small or far too large. It makes no
difference: what is that small is rounded to zero, and what is that large to an infinity
(`toFloat_eq_nearest`). So it is the double nearest to the value of a decimal in all cases
(`isNearest_toFloat`). -/

namespace ChartText.Binary64
open Float.Model UnpackedFloat

/-! ### Numbers that are very small or very large -/

section
variable (negative : Bool) {num den : Nat}

theorem nearest_of_small (h : 2 * num < den) : nearest negative num den = nearest negative 0 1 := by
  have hzero : num / den = 0 := Nat.div_eq_of_lt (by omega)
  have hunit : unitFor 0 = 0 := rfl
  have hround : roundHalfEven num den = 0 := by
    rw [roundHalfEven, hzero, Nat.mod_eq_of_lt (by omega)]
    simp [h]
  rw [nearest, hzero, hunit, Nat.pow_eq, Nat.pow_zero, Nat.mul_one, hround]
  rfl

theorem infinity_eq (negative : Bool) : infinity negative = Float.ofBits
    (UInt64.ofNat ((if negative then 2 ^ 63 else 0) + 2047 * 2 ^ 52)) := by
  cases negative <;> decide

theorem nearest_of_large (hden : 0 < den) (h : limit ≤ num / den) :
    nearest negative num den = infinity negative := by
  have hcut := cut_roundHalfEven num hden
  have hlog : 53 + lastUnit ≤ (num / den).log2 := by
    rw [Nat.le_log2 (by have := limit_pos; omega), Nat.pow_add]
    exact h
  have hunit : lastUnit < unitFor (num / den) := by
    unfold unitFor
    omega
  have hfull := (hcut.digits.resolve_right (by omega)).trans hcut.low_le_n
  change compose negative (roundHalfEven num (den * 2 ^ unitFor (num / den))) (unitFor (num / den)) = _
  rw [compose_eq, Nat.min_eq_right (le_wordOf hfull hunit), infinity_eq]

end

end ChartText.Binary64

namespace ChartText.Decimal
open Binary64

/-! ### The value of a decimal -/

def value (d : Decimal) : ℚ :=
  d.coefficient * 10 ^ d.exponent

theorem tenPower_of_nonneg {e : Int} (h : 0 ≤ e) : tenPower e = (10 ^ e.toNat, 1) := if_pos h

theorem tenPower_of_neg {e : Int} (h : e < 0) : tenPower e = (1, 10 ^ (-e).toNat) :=
  if_neg (Int.not_le.mpr h)

theorem tenPower_value (e : Int) : ((tenPower e).1 : ℚ) / (tenPower e).2 = 10 ^ e := by
  rcases Int.lt_or_le e 0 with he | he
  · obtain ⟨k, hk⟩ := Int.eq_ofNat_of_zero_le (by omega : 0 ≤ -e)
    obtain rfl : e = -k := by omega
    simp [tenPower_of_neg he]
  · obtain ⟨k, rfl⟩ := Int.eq_ofNat_of_zero_le he
    simp [tenPower_of_nonneg he]

theorem lt_pow_digitCount (n : Nat) : n < 10 ^ digitCount n :=
  (Nat.length_toDigits_le_iff (by decide) Nat.length_toDigits_pos).mp (le_refl _)

theorem pow_le_of_digitCount {n k : Nat} (hn : n ≠ 0) (h : k < digitCount n) : 10 ^ k ≤ n := by
  cases k with
  | zero => exact Nat.one_le_iff_ne_zero.mpr hn
  | succ k =>
    by_contra hlt
    have := (Nat.length_toDigits_le_iff (by decide) (Nat.succ_pos k)).mpr (Nat.not_le.mp hlt)
    exact absurd h (Nat.not_lt.mpr this)

/-- What is below the range of doubles is less than half of the smallest one. -/
theorem two_mul_lt_of_point_lt {d : Decimal} (h : d.exponent + digitCount d.coefficient < -330) :
    2 * (d.coefficient * (tenPower d.exponent).1 * one) < (tenPower d.exponent).2 := by
  obtain ⟨k, hk, hone⟩ : ∃ k, k = 330 ∧ 2 * one ≤ 10 ^ k := ⟨330, rfl, by decide +kernel⟩
  have hdigits := lt_pow_digitCount d.coefficient
  rw [tenPower_of_neg (by omega)]
  calc 2 * (d.coefficient * 1 * one) = d.coefficient * (2 * one) := by ring
    _ ≤ d.coefficient * 10 ^ k := Nat.mul_le_mul_left _ hone
    _ < 10 ^ digitCount d.coefficient * 10 ^ k :=
        Nat.mul_lt_mul_of_pos_right hdigits (Nat.pow_pos (by decide))
    _ = 10 ^ (digitCount d.coefficient + k) := (Nat.pow_add 10 _ k).symm
    _ ≤ 10 ^ (-d.exponent).toNat := Nat.pow_le_pow_right (by decide) (by omega)

/-- What is above the range of doubles reaches the place of the infinities. -/
theorem limit_le_of_lt_point {d : Decimal} (hd : d.coefficient ≠ 0)
    (h : 310 < d.exponent + digitCount d.coefficient) :
    limit ≤ d.coefficient * (tenPower d.exponent).1 * one / (tenPower d.exponent).2 := by
  obtain ⟨k, hk, hlimit⟩ : ∃ k, k = 310 ∧ limit ≤ 10 ^ k * one := ⟨310, rfl, by decide +kernel⟩
  rcases Int.lt_or_le d.exponent 0 with he | he
  · have hpow : 10 ^ (k + (-d.exponent).toNat) ≤ d.coefficient :=
      pow_le_of_digitCount hd (by omega)
    rw [tenPower_of_neg he, Nat.le_div_iff_mul_le (Nat.pow_pos (by decide)), Nat.mul_one]
    calc limit * 10 ^ (-d.exponent).toNat
        ≤ 10 ^ k * one * 10 ^ (-d.exponent).toNat := Nat.mul_le_mul_right _ hlimit
      _ = 10 ^ (k + (-d.exponent).toNat) * one := by rw [Nat.pow_add 10 k]; ring
      _ ≤ d.coefficient * one := Nat.mul_le_mul_right _ hpow
  · have hpow : 10 ^ (k - d.exponent.toNat) ≤ d.coefficient := by
      refine pow_le_of_digitCount hd ?_
      have : 0 < digitCount d.coefficient := Nat.length_toDigits_pos
      omega
    rw [tenPower_of_nonneg he, Nat.div_one]
    calc limit ≤ 10 ^ k * one := hlimit
      _ ≤ 10 ^ (k - d.exponent.toNat + d.exponent.toNat) * one :=
          Nat.mul_le_mul_right _ (Nat.pow_le_pow_right (by decide) (by omega))
      _ = 10 ^ (k - d.exponent.toNat) * 10 ^ d.exponent.toNat * one := by rw [Nat.pow_add 10]
      _ ≤ d.coefficient * 10 ^ d.exponent.toNat * one :=
          Nat.mul_le_mul_right _ (Nat.mul_le_mul_right _ hpow)

theorem toFloat_eq_nearest (negative : Bool) (d : Decimal) :
    toFloat negative d =
      nearest negative (d.coefficient * (tenPower d.exponent).1 * one) (tenPower d.exponent).2 := by
  have hpos := tenPower_snd_pos d.exponent
  unfold toFloat
  dsimp only
  split
  · next h =>
    rw [Bool.or_eq_true, decide_eq_true_eq, decide_eq_true_eq] at h
    refine (nearest_of_small negative ?_).symm
    rcases h with hzero | hsmall
    · rwa [hzero, Nat.zero_mul, Nat.zero_mul, Nat.mul_zero]
    · exact two_mul_lt_of_point_lt hsmall
  · next h =>
    rw [Bool.or_eq_true, decide_eq_true_eq, decide_eq_true_eq, not_or] at h
    split
    · next hlarge => exact (nearest_of_large negative hpos (limit_le_of_lt_point h.1 hlarge)).symm
    · rfl

/-- A decimal is read as the double nearest to its value. -/
theorem isNearest_toFloat (negative : Bool) (d : Decimal) :
    IsNearest (withSign negative d.value) (toFloat negative d) ∧
      isNegative (toFloat negative d) = negative := by
  have hpos := tenPower_snd_pos d.exponent
  have hvalue : withSign negative ((d.coefficient * (tenPower d.exponent).1 * one : Nat) /
      (tenPower d.exponent).2) / one = withSign negative d.value := by
    have hmagnitude : ((d.coefficient * (tenPower d.exponent).1 * one : Nat) : ℚ) /
        (tenPower d.exponent).2 = d.value * one := by
      rw [value, ← tenPower_value]
      push_cast
      ring
    rw [hmagnitude, withSign_mul, mul_div_cancel_right₀ _ cast_one_pos.ne']
  rw [toFloat_eq_nearest, ← hvalue]
  exact ⟨(isNearest_nearest negative _ hpos).1, (nearest_spec negative _ hpos).2.1⟩

end ChartText.Decimal
