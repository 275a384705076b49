import ChartText.Proofs.Number.Order

/-! # Rounded results

A sum, a difference, a product or a quotient of finite doubles is the exact result, rounded: no
finite double lies strictly between the two (`IsRounding`). The exact result is a rational number
of smallest positive doubles. Rounding cuts it to the significand below it or takes the next one
(`Cut`), and every place with 53 digits is on the same side of both. -/

namespace ChartText.Binary64
open Float.Model UnpackedFloat

/-- The double is the rational number of smallest positive doubles, rounded. -/
structure IsRounding (v : ℚ) (y : Float) : Prop where
  isNaN : y.isNaN = false
  le : ∀ z : Float, z.isFinite = true → (scaled z : ℚ) ≤ v → scaled z ≤ scaled y
  ge : ∀ z : Float, z.isFinite = true → v ≤ scaled z → scaled y ≤ scaled z

/-! ### Significands -/

theorem mantissa_le_roundedMantissa (em : ExtendedMantissa) : em.mantissa ≤ em.roundedMantissa := by
  unfold ExtendedMantissa.roundedMantissa
  rcases em.accuracy with _ | o
  · exact Nat.le_refl _
  · cases o <;> simp only [Accuracy.roundToNearestEven] <;> omega

theorem shiftRight_exact {m : Nat} (k : Nat) (h : 2 ^ k ∣ m) :
    ExtendedMantissa.ofMantissaAndAccuracy m .exact >>> k = ⟨m / 2 ^ k, false, false⟩ := by
  induction k with
  | zero => simp [HShiftRight.hShiftRight, Nat.repeat, ExtendedMantissa.ofMantissaAndAccuracy]
  | succ k ih =>
    have hk : 2 ^ k ∣ m := (pow_dvd_pow 2 (Nat.le_succ k)).trans h
    change (ExtendedMantissa.ofMantissaAndAccuracy m .exact >>> k).shiftRightOne = _
    rw [ih hk, ExtendedMantissa.shiftRightOne, Nat.div_div_eq_div_mul, ← Nat.pow_succ]
    have heven : m / 2 ^ k % 2 = 0 := by
      obtain ⟨c, rfl⟩ := h
      rw [Nat.pow_succ, Nat.mul_assoc, Nat.mul_div_cancel_left _ (Nat.two_pow_pos k)]
      exact Nat.mul_mod_right 2 c
    simp [heven]

/-- How a significand and an accuracy describe a number. -/
def Approximates (q : ℚ) (m : Nat) : Accuracy → Prop
  | .exact => q = m
  | .inexact _ => m < q ∧ q < m + 1

/-- The number `p`, cut to the whole number `low` of its unit, and the result `n` of rounding it.
The unit exponent is `k`, and `low` has 53 digits unless the unit is the smallest one. -/
structure Cut (p : ℚ) (low n k : Nat) : Prop where
  low_le : low ≤ p
  lt_succ : p < low + 1
  low_le_n : low ≤ n
  n_le : n ≤ low + 1
  exact : n = low ∨ low < p
  low_lt : low < 2 ^ 53
  digits : 2 ^ 52 ≤ low ∨ k = 0

theorem Approximates.le {q : ℚ} {m : Nat} {a : Accuracy} (h : Approximates q m a) : m ≤ q := by
  cases a with
  | exact => exact le_of_eq h.symm
  | inexact o => exact h.1.le

theorem Approximates.lt_succ {q : ℚ} {m : Nat} {a : Accuracy} (h : Approximates q m a) :
    q < m + 1 := by
  cases a with
  | exact =>
    rw [h]
    exact lt_add_one _
  | inexact o => exact h.2

theorem Cut.of_shift {q : ℚ} {m j k : Nat} {a : Accuracy} (h : Approximates q m a)
    (hlt : m / 2 ^ j < 2 ^ 53) (hdigits : 2 ^ 52 ≤ m / 2 ^ j ∨ k = 0) :
    Cut (q / 2 ^ j) (m / 2 ^ j)
      (ExtendedMantissa.ofMantissaAndAccuracy m a >>> j).roundedMantissa k := by
  have hmantissa : (ExtendedMantissa.ofMantissaAndAccuracy m a >>> j).mantissa = m / 2 ^ j := by
    rw [mantissa_shiftRight, mantissa_ofMantissaAndAccuracy]
  have hp : (0 : ℚ) < 2 ^ j := by positivity
  have hlow : ((m / 2 ^ j : Nat) : ℚ) * 2 ^ j ≤ m := by
    exact_mod_cast Nat.div_mul_le_self m (2 ^ j)
  have hhigh : (m : ℚ) + 1 ≤ ((m / 2 ^ j : Nat) + 1) * 2 ^ j := by
    have := Nat.lt_div_mul_add (a := m) (Nat.two_pow_pos j)
    exact_mod_cast Nat.succ_le_of_lt (by rwa [Nat.add_mul, Nat.one_mul])
  refine ⟨?_, ?_, ?_, ?_, ?_, hlt, hdigits⟩
  · rw [le_div_iff₀ hp]
    exact hlow.trans h.le
  · rw [div_lt_iff₀ hp]
    exact h.lt_succ.trans_le hhigh
  · rw [← hmantissa]
    exact mantissa_le_roundedMantissa _
  · rw [← hmantissa]
    exact roundedMantissa_le _
  · rw [lt_div_iff₀ hp]
    cases a with
    | inexact o => exact .inr (hlow.trans_lt h.1)
    | exact =>
      by_cases hdvd : 2 ^ j ∣ m
      · left
        rw [shiftRight_exact j hdvd]
        rfl
      · right
        rw [show q = m from h]
        have hne : m / 2 ^ j * 2 ^ j ≠ m := fun he => hdvd ⟨m / 2 ^ j, by rw [Nat.mul_comm, he]⟩
        exact_mod_cast lt_of_le_of_ne (Nat.div_mul_le_self m (2 ^ j)) hne

namespace Cut
variable {p : ℚ} {low n k m j : Nat}

/-- A place is a whole number of units, or it is below the cut. -/
theorem cases (h : Cut p low n k) (hm : m < 2 ^ 53) :
    (∃ c, m * 2 ^ j = c * 2 ^ k) ∨ m * 2 ^ j < low * 2 ^ k := by
  by_cases hkj : k ≤ j
  · left
    refine ⟨m * 2 ^ (j - k), ?_⟩
    rw [Nat.mul_assoc, ← Nat.pow_add, Nat.sub_add_cancel hkj]
  · right
    have hlow : 2 ^ 52 ≤ low := h.digits.resolve_right (by omega)
    calc m * 2 ^ j < 2 ^ 53 * 2 ^ j := Nat.mul_lt_mul_of_pos_right hm (Nat.two_pow_pos j)
      _ = 2 ^ 52 * 2 ^ (j + 1) := by rw [Nat.pow_succ 2 j]; ring
      _ ≤ low * 2 ^ k := Nat.mul_le_mul hlow (Nat.pow_le_pow_right (by decide) (by omega))

theorem le_of_le (h : Cut p low n k) (hm : m < 2 ^ 53)
    (hle : ((m * 2 ^ j : Nat) : ℚ) ≤ p * 2 ^ k) : m * 2 ^ j ≤ n * 2 ^ k := by
  rcases h.cases hm (j := j) with ⟨c, hc⟩ | hbelow
  · rw [hc] at hle ⊢
    push_cast at hle
    have hcp : (c : ℚ) < low + 1 := (le_of_mul_le_mul_right hle (by positivity)).trans_lt h.lt_succ
    have hclow : c ≤ low := Nat.lt_succ_iff.mp (by exact_mod_cast hcp)
    exact Nat.mul_le_mul_right _ (hclow.trans h.low_le_n)
  · exact hbelow.le.trans (Nat.mul_le_mul_right _ h.low_le_n)

theorem ge_of_ge (h : Cut p low n k) (hm : m < 2 ^ 53)
    (hge : p * 2 ^ k ≤ ((m * 2 ^ j : Nat) : ℚ)) : n * 2 ^ k ≤ m * 2 ^ j := by
  rcases h.cases hm (j := j) with ⟨c, hc⟩ | hbelow
  · rw [hc] at hge ⊢
    push_cast at hge
    have hpc : p ≤ c := le_of_mul_le_mul_right hge (by positivity)
    refine Nat.mul_le_mul_right _ ?_
    rcases h.exact with rfl | hlow
    · exact_mod_cast h.low_le.trans hpc
    · have hlowc : low < c := by exact_mod_cast hlow.trans_le hpc
      exact h.n_le.trans hlowc
  · have hlow : ((low * 2 ^ k : Nat) : ℚ) ≤ p * 2 ^ k := by
      push_cast
      exact mul_le_mul_of_nonneg_right h.low_le (by positivity)
    exact absurd (hlow.trans hge) (not_le.mpr (by exact_mod_cast hbelow))

end Cut

/-! ### Unpacked results -/

/-- The unpacked double is the rational number of smallest positive doubles, rounded. Its exponent
may be too large for a finite double. -/
structure Rounds (v : ℚ) (u : UnpackedFloat) : Prop where
  isNaN : u.isNaN = false
  canonical : IsCanonical u
  le : ∀ z : Float, z.isFinite = true → (scaled z : ℚ) ≤ v → scaled z ≤ units u
  ge : ∀ z : Float, z.isFinite = true → v ≤ scaled z → units u ≤ scaled z

theorem Rounds.of_units_eq {v : ℚ} {u : UnpackedFloat} (isNaN : u.isNaN = false)
    (canonical : IsCanonical u) (h : v = units u) : Rounds v u where
  isNaN := isNaN
  canonical := canonical
  le z _ hz := by rwa [h, Int.cast_le] at hz
  ge z _ hz := by rwa [h, Int.cast_le] at hz

theorem Rounds.zero {v : ℚ} (hv : v = 0) (s : Sign) : Rounds v (.zero s) :=
  .of_units_eq rfl trivial (hv.trans Int.cast_zero.symm)

/-- Packing turns what is too large into an infinity, and keeps the rest. -/
theorem Rounds.isRounding {v : ℚ} {u : UnpackedFloat} (h : Rounds v u) :
    IsRounding v (.ofModel (.pack u)) := by
  obtain ⟨hnan, hcanonical, hle, hge⟩ := h
  have hscaled {w : UnpackedFloat} (hw : (Float.ofModel (.pack u)).toModel.unpack = w)
      (hwnan : w.isNaN = false) :
      (Float.ofModel (.pack u)).isNaN = false ∧ scaled (.ofModel (.pack u)) = units w := by
    have hnan : (Float.ofModel (.pack u)).isNaN = false := by
      change (Float.ofModel (.pack u)).toModel.unpack.isNaN = false
      rw [hw, hwnan]
    exact ⟨hnan, by rw [scaled_eq_units hnan, hw]⟩
  have hsame (hu : (Float.ofModel (.pack u)).toModel.unpack = u) :
      IsRounding v (.ofModel (.pack u)) := by
    obtain ⟨hnan', hunits⟩ := hscaled hu hnan
    exact ⟨hnan', fun z hz hv => hunits ▸ hle z hz hv, fun z hz hv => hunits ▸ hge z hz hv⟩
  cases u with
  | notANumber => cases hnan
  | zero s => exact hsame (by cases s <;> rfl)
  | infinity s => exact hsame (by cases s <;> rfl)
  | finite s m e hm =>
    by_cases he : e ≤ 971
    · exact hsame (unpack_pack hcanonical he)
    · -- The place of the infinity is between this one and the finite doubles.
      obtain ⟨hnan', hunits⟩ := hscaled (unpack_pack_of_large hm (Int.not_le.mp he)) rfl
      have hlarge : limit ≤ m * 2 ^ (e + 1074).toNat :=
        limit_le_units (by have := hcanonical.2.2; omega) (by rw [lastUnit_eq]; omega)
      refine ⟨hnan', fun z hz hv => ?_, fun z hz hv => ?_⟩
      · have hz' := (isFinite_iff (isNaN_isInf_of_isFinite hz).1).mp hz
        have := hle z hz hv
        rw [hunits]
        cases s <;> simp only [units, Sign.apply] at this ⊢ <;> omega
      · have hz' := (isFinite_iff (isNaN_isInf_of_isFinite hz).1).mp hz
        have := hge z hz hv
        rw [hunits]
        cases s <;> simp only [units, Sign.apply] at this ⊢ <;> omega

def signed (s : Sign) (v : ℚ) : ℚ :=
  match s with
  | .negative => -v
  | .positive => v

theorem cast_apply (s : Sign) (n : Int) : ((s.apply n : Int) : ℚ) = signed s n := by
  cases s <;> simp [Sign.apply, signed]

theorem Rounds.of_cut {p : ℚ} {low n k : Nat} {u : UnpackedFloat} (s : Sign) (h : Cut p low n k)
    (isNaN : u.isNaN = false) (canonical : IsCanonical u)
    (hunits : units u = s.apply (n * 2 ^ k : Nat)) :
    Rounds (signed s (p * 2 ^ k)) u := by
  have hv : 0 ≤ p * 2 ^ k := mul_nonneg ((Nat.cast_nonneg low).trans h.low_le) (by positivity)
  have hle (z : Float) (hz : z.isFinite = true) (hzv : (((scaled z).natAbs : Nat) : ℚ) ≤ p * 2 ^ k) :
      (scaled z).natAbs ≤ n * 2 ^ k := by
    obtain ⟨m, j, hm, hmj⟩ := exists_digits hz
    rw [hmj] at hzv ⊢
    exact h.le_of_le hm hzv
  have hge (z : Float) (hz : z.isFinite = true) (hzv : p * 2 ^ k ≤ (((scaled z).natAbs : Nat) : ℚ)) :
      n * 2 ^ k ≤ (scaled z).natAbs := by
    obtain ⟨m, j, hm, hmj⟩ := exists_digits hz
    rw [hmj] at hzv ⊢
    exact h.ge_of_ge hm hzv
  have habs {z : Float} : (((scaled z).natAbs : Nat) : ℚ) = |(scaled z : ℚ)| := by
    rw [Nat.cast_natAbs, Int.cast_abs]
  -- On the other side of zero there is nothing to show.
  refine ⟨isNaN, canonical, fun z hz hzv => ?_, fun z hz hzv => ?_⟩ <;> rw [hunits] <;>
    cases s <;> simp only [signed, Sign.apply] at hzv ⊢
  · have h0 : (scaled z : ℚ) ≤ 0 := by linarith
    have := hge z hz (by rw [habs, abs_of_nonpos h0]; linarith)
    have : scaled z ≤ 0 := by exact_mod_cast h0
    omega
  · rcases le_total 0 (scaled z) with h0 | h0
    · have := hle z hz (by rwa [habs, abs_of_nonneg (by exact_mod_cast h0)])
      omega
    · omega
  · rcases le_total 0 (scaled z) with h0 | h0
    · omega
    · have := hle z hz (by rw [habs, abs_of_nonpos (by exact_mod_cast h0)]; linarith)
      omega
  · have h0 : (0 : ℚ) ≤ scaled z := by linarith
    have := hge z hz (by rwa [habs, abs_of_nonneg h0])
    have : 0 ≤ scaled z := by exact_mod_cast h0
    omega

/-! ### Rounding -/

/-- A rounded significand may have one digit too many, and then it is a power of two. -/
theorem shift_rounded {n : Nat} {t : Int} (hn : n ≤ 2 ^ 53) (ht : -1074 ≤ t) :
    ∃ n' t', (shiftToTargetExponent .binary64 n t .exact).1.mantissa = n' ∧
      (shiftToTargetExponent .binary64 n t .exact).2 = t' ∧
      n' * 2 ^ (t' + 1074).toNat = n * 2 ^ (t + 1074).toNat ∧ n' < 2 ^ 53 ∧ t ≤ t' ∧
      (2 ^ 52 ≤ n → 2 ^ 52 ≤ n') ∧ (n < 2 ^ 52 → t' = t) := by
  simp only [shiftToTargetExponent, shiftToExponent, targetExponent_eq, totalExponent]
  rcases Nat.lt_or_eq_of_le hn with hn | rfl
  · have hlog : n.log2 ≤ 52 := log2_le_of_lt hn
    have hshift : (max ((n.log2 : Int) + 1 + t - 53) (-1074) - t).toNat = 0 := by omega
    rw [hshift]
    refine ⟨n, t, mantissa_ofMantissaAndAccuracy _ _, by omega, rfl, hn, le_refl t, id,
      fun _ => rfl⟩
  · have hshift : (max (((2 ^ 53 : Nat).log2 : Int) + 1 + t - 53) (-1074) - t).toNat = 1 := by
      rw [Nat.log2_two_pow]
      omega
    rw [hshift]
    have hexponent : (t + 1 + 1074).toNat = (t + 1074).toNat + 1 := by omega
    refine ⟨2 ^ 52, t + 1, rfl, rfl, ?_, by decide, by omega, fun _ => le_refl _, ?_⟩
    · rw [hexponent, Nat.pow_succ 2 (t + 1074).toNat]
      ring
    · exact fun h => absurd h (by decide)

theorem zpow_eq_div {e : Int} {j k : Nat} (h : e + j = k) : (2 : ℚ) ^ e = 2 ^ k / 2 ^ j := by
  rw [eq_div_iff (by positivity), ← zpow_natCast, ← zpow_natCast, ← zpow_add₀ (by norm_num), h]

theorem two_pow_le_div {m j : Nat} (hm : 52 ≤ m.log2) (hj : j = m.log2 - 52) :
    2 ^ 52 ≤ m / 2 ^ j := by
  have hne : m ≠ 0 := by
    rintro rfl
    simp at hm
  rw [Nat.le_div_iff_mul_le (Nat.two_pow_pos j), ← Nat.pow_add, hj, Nat.add_sub_cancel' hm]
  exact Nat.log2_self_le hne

/-- Rounding is right if there is nothing to shift to the left. -/
theorem rounds_roundWithAccuracy {s : Sign} {m : Nat} {e : Int} {a : Accuracy} {q : ℚ}
    (h : Approximates q m a) (he : e ≤ max ((m.log2 : Int) + 1 + e - 53) (-1074)) :
    Rounds (signed s (q * 2 ^ (e + 1074))) (roundWithAccuracy .binary64 s m e a) := by
  generalize ht : max ((m.log2 : Int) + 1 + e - 53) (-1074) = t at he
  generalize hj : (t - e).toNat = j
  have hcut : Cut (q / 2 ^ j) (m / 2 ^ j)
      (ExtendedMantissa.ofMantissaAndAccuracy m a >>> j).roundedMantissa (t + 1074).toNat :=
    .of_shift h (div_two_pow_lt (by omega)) <| by
      by_cases hleast : t = -1074
      · right
        omega
      · left
        exact two_pow_le_div (by omega) (by omega)
  have hv : q * 2 ^ (e + 1074) = q / 2 ^ j * 2 ^ (t + 1074).toNat := by
    rw [zpow_eq_div (j := j) (k := (t + 1074).toNat) (by omega)]
    ring
  rw [hv]
  have hn := hcut.n_le.trans hcut.low_lt
  obtain ⟨n', t', hmantissa, hexponent, hunits, hn53, htt', hfull, hsame⟩ :=
    shift_rounded hn (show -1074 ≤ t by omega)
  have hround : roundWithAccuracy .binary64 s m e a =
      if h : n' = 0 then .zero s else .finite s n' t' (Nat.pos_of_ne_zero h) := by
    have hfirst : (shiftToTargetExponent .binary64 m e a) =
        (ExtendedMantissa.ofMantissaAndAccuracy m a >>> j, t) := by
      simp only [shiftToTargetExponent, shiftToExponent, targetExponent_eq, totalExponent, ht, hj]
      congr 1
      omega
    unfold roundWithAccuracy
    simp only [hfirst, hmantissa, hexponent]
  have hdigits : 2 ^ 52 ≤ n' ∨ t' = -1074 := by
    have := hcut.low_le_n
    have := hcut.digits
    omega
  rw [hround]
  split
  · next hzero =>
    refine .of_cut s hcut rfl trivial ?_
    rw [← hunits, hzero, Nat.zero_mul]
    cases s <;> rfl
  · exact .of_cut s hcut rfl ⟨hn53, by omega, hdigits⟩ (by rw [units, hunits])

theorem log2_shiftLeft {m : Nat} (hm : m ≠ 0) (j : Nat) : (m <<< j).log2 = m.log2 + j := by
  induction j with
  | zero => rfl
  | succ j ih =>
    have hne : m <<< j ≠ 0 := by
      rw [Nat.shiftLeft_eq]
      exact Nat.mul_ne_zero hm (Nat.ne_of_gt (Nat.two_pow_pos j))
    rw [Nat.shiftLeft_succ, Nat.log2_two_mul hne, ih, Nat.add_assoc]

theorem rounds_round {s : Sign} {m : Nat} (e : Int) (hm : m ≠ 0) :
    Rounds (signed s (m * 2 ^ (e + 1074))) (UnpackedFloat.round .binary64 s m e) := by
  unfold UnpackedFloat.round decreaseExponent
  simp only [targetExponent_eq, totalExponent]
  generalize hj : (e - max ((m.log2 : Int) + 1 + e - 53) (-1074)).toNat = j
  have hlog := log2_shiftLeft hm j
  have hv : (m : ℚ) * 2 ^ (e + 1074) = ((m <<< j : Nat) : ℚ) * 2 ^ (e - j + 1074) := by
    rw [Nat.shiftLeft_eq, Nat.cast_mul, Nat.cast_pow, mul_assoc, Nat.cast_ofNat, ← zpow_natCast,
      ← zpow_add₀ (by norm_num)]
    congr 2
    omega
  rw [hv]
  refine rounds_roundWithAccuracy rfl ?_
  rw [hlog]
  push_cast
  omega

theorem rounds_normalize (M : Int) (e : Int) (s : Sign) :
    Rounds ((M : ℚ) * 2 ^ (e + 1074)) (UnpackedFloat.normalize .binary64 M e s) := by
  unfold UnpackedFloat.normalize
  rcases lt_trichotomy M 0 with h | rfl | h
  · have hM : (M : ℚ) * 2 ^ (e + 1074) = signed .negative (((-M).toNat : ℚ) * 2 ^ (e + 1074)) := by
      rw [signed, ← neg_mul, ← Int.cast_natCast, Int.toNat_of_nonneg (by omega), Int.cast_neg,
        neg_neg]
    rw [compare_lt_iff_lt.mpr h, hM]
    exact rounds_round e (by omega)
  · exact .zero (by simp) s
  · have hM : (M : ℚ) * 2 ^ (e + 1074) = signed .positive ((M.toNat : ℚ) * 2 ^ (e + 1074)) := by
      rw [signed, ← Int.cast_natCast, Int.toNat_of_nonneg (by omega)]
    rw [compare_gt_iff_gt.mpr h, hM]
    exact rounds_round e (by omega)

/-! ### Operations on unpacked doubles -/

theorem units_neg (u : UnpackedFloat) : units u.neg = -units u := by
  cases u with
  | notANumber | zero s => rfl
  | infinity s | finite s m e hm => cases s <;> simp [UnpackedFloat.neg, units, Sign.apply]

theorem cast_units {s : Sign} {m : Nat} {e : Int} {hm : 0 < m} (he : -1074 ≤ e) :
    (units (.finite s m e hm) : ℚ) = signed s (m * 2 ^ (e + 1074)) := by
  have hexponent : ((e + 1074).toNat : Int) = e + 1074 := Int.toNat_of_nonneg (by omega)
  rw [units, cast_apply, ← hexponent, zpow_natCast]
  push_cast
  rfl

theorem signed_mul (s : Sign) (v w : ℚ) : signed s (v * w) = signed s v * w := by
  cases s <;> simp [signed]

theorem signed_mul_signed (s t : Sign) (v w : ℚ) :
    signed s v * signed t w = signed (s * t) (v * w) := by
  cases s <;> cases t
  · exact neg_mul_neg v w
  · exact neg_mul v w
  · exact mul_neg v w
  · rfl

theorem signed_div_signed (s t : Sign) (v w : ℚ) :
    signed s v / signed t w = signed (s / t) (v / w) := by
  cases s <;> cases t
  · exact neg_div_neg_eq v w
  · exact neg_div w v
  · exact div_neg v
  · rfl

theorem cast_units_eq_apply {s : Sign} {m : Nat} {e d : Int} {hm : 0 < m} (hd : -1074 ≤ d)
    (hde : d ≤ e) :
    (units (.finite s m e hm) : ℚ) =
      (s.apply ((m <<< (e - d).toNat : Nat) : Int) : Int) * 2 ^ (d + 1074) := by
  have hexponent : e + 1074 = ((e - d).toNat : Int) + (d + 1074) := by omega
  rw [cast_units (hd.trans hde), cast_apply, ← signed_mul, Nat.shiftLeft_eq, hexponent,
    zpow_add₀ (by norm_num), zpow_natCast]
  push_cast
  rw [mul_assoc]

theorem rounds_add {u v : UnpackedFloat} (hu : IsCanonical u) (hv : IsCanonical v)
    (hfu : u.isFinite = true) (hfv : v.isFinite = true) :
    Rounds (units u + units v) (u.add .binary64 v) := by
  cases u with
  | notANumber | infinity s => cases hfu
  | zero s =>
    cases v with
    | notANumber | infinity t => cases hfv
    | zero t => cases s <;> cases t <;> exact .zero (by simp [units]) _
    | finite t n d hn =>
      rw [show units (.zero s) = 0 from rfl, Int.cast_zero, zero_add]
      exact .of_units_eq rfl hv rfl
  | finite s m e hm =>
    cases v with
    | notANumber | infinity t => cases hfv
    | zero t =>
      rw [show units (.zero t) = 0 from rfl, Int.cast_zero, add_zero]
      exact .of_units_eq rfl hu rfl
    | finite t n d hn =>
      have he := hu.2.1
      have hd := hv.2.1
      rw [cast_units_eq_apply (d := min e d) (by omega) (by omega),
        cast_units_eq_apply (d := min e d) (by omega) (by omega), ← add_mul, ← Int.cast_add]
      exact rounds_normalize _ _ _

theorem unpacked_sub_eq (u v : UnpackedFloat) : u.sub .binary64 v = u.add .binary64 v.neg := by
  cases u with
  | finite s m e hm =>
    cases v with
    | finite t n d hn =>
      have happly (k : Int) : -t.apply k = (-t).apply k := by cases t <;> simp [Sign.apply]
      simp only [UnpackedFloat.sub, UnpackedFloat.add, UnpackedFloat.neg, sub_eq_add_neg, happly]
    | notANumber | infinity | zero => rfl
  | notANumber => rfl
  | infinity s | zero s => cases v <;> rfl

theorem isCanonical_neg {u : UnpackedFloat} (h : IsCanonical u) : IsCanonical u.neg := by
  cases u <;> exact h

theorem isFinite_unpacked_neg (u : UnpackedFloat) : u.neg.isFinite = u.isFinite := by
  cases u <;> rfl

theorem cast_two_pow (k : Nat) : ((Nat.pow 2 k : Nat) : ℚ) = 2 ^ (k : Int) := by
  rw [Nat.pow_eq, zpow_natCast]
  push_cast
  rfl

theorem cast_one : (one : ℚ) = 2 ^ ((1074 : Nat) : Int) := by
  have h (k : Nat) (hk : k = 1074) : (one : ℚ) = 2 ^ (k : Int) := by
    rw [one_eq_two_pow hk, cast_two_pow]
  exact h 1074 rfl

theorem mul_zpow_mul_zpow_div (v w : ℚ) (a b c : Int) :
    v * 2 ^ a * (w * 2 ^ b) / 2 ^ c = v * w * 2 ^ (a + b - c) := by
  rw [zpow_sub₀ two_ne_zero, zpow_add₀ two_ne_zero]
  ring

theorem mul_zpow_mul_div_zpow (v w : ℚ) (a b c : Int) :
    v * 2 ^ a * 2 ^ b / (w * 2 ^ c) = v / w * 2 ^ (a + b - c) := by
  rw [zpow_sub₀ two_ne_zero, zpow_add₀ two_ne_zero]
  ring

/-- Two significands have 53 digits together, unless both exponents are the least one. -/
theorem le_log2_mul {m n : Nat} (hm : 0 < m) (hn : 0 < n) (h : 2 ^ 52 ≤ m ∨ 2 ^ 52 ≤ n) :
    52 ≤ (m * n).log2 := by
  rw [Nat.le_log2 (Nat.ne_of_gt (Nat.mul_pos hm hn))]
  rcases h with h | h
  · exact h.trans (Nat.le_mul_of_pos_right m hn)
  · exact h.trans (Nat.le_mul_of_pos_left n hm)

theorem rounds_mul {u v : UnpackedFloat} (hu : IsCanonical u) (hv : IsCanonical v)
    (hfu : u.isFinite = true) (hfv : v.isFinite = true) :
    Rounds (units u * units v / one) (u.mul .binary64 v) := by
  cases u with
  | notANumber | infinity s => cases hfu
  | zero s =>
    rw [show units (.zero s) = 0 from rfl, Int.cast_zero, zero_mul, zero_div]
    cases v with
    | notANumber | infinity t => cases hfv
    | zero t | finite t n d hn => exact .zero rfl _
  | finite s m e hm =>
    cases v with
    | notANumber | infinity t => cases hfv
    | zero t =>
      rw [show units (.zero t) = 0 from rfl, Int.cast_zero, mul_zero, zero_div]
      exact .zero rfl _
    | finite t n d hn =>
      obtain ⟨-, he, hm52⟩ := hu
      obtain ⟨-, hd, hn52⟩ := hv
      have hvalue : signed s (m * 2 ^ (e + 1074)) * signed t (n * 2 ^ (d + 1074)) / one =
          signed (s * t) ((m * n : Nat) * 2 ^ (e + d + 1074)) := by
        rw [signed_mul_signed, cast_one, div_eq_mul_inv, ← signed_mul, ← div_eq_mul_inv,
          mul_zpow_mul_zpow_div, Nat.cast_mul]
        congr 3
        omega
      rw [cast_units he, cast_units hd, hvalue]
      refine rounds_roundWithAccuracy rfl ?_
      have := le_log2_mul hm hn
      omega

/-- The quotient and the remainder of two significands describe their ratio. -/
theorem approximates_div (m : Nat) {n : Nat} (hn : 0 < n) :
    Approximates ((m : ℚ) / n) (m / n) (accuracyOfFraction (m % n) n) := by
  have hn' : (0 : ℚ) < n := by exact_mod_cast hn
  have hdiv := Nat.div_add_mod' m n
  unfold accuracyOfFraction
  split
  · next hzero =>
    rw [hzero, Nat.add_zero] at hdiv
    change (m : ℚ) / n = (m / n : Nat)
    rw [div_eq_iff hn'.ne']
    exact_mod_cast hdiv.symm
  · next hne =>
    constructor
    · rw [lt_div_iff₀ hn']
      exact_mod_cast (show m / n * n < m by omega)
    · have hmod := Nat.mod_lt m hn
      rw [div_lt_iff₀ hn']
      exact_mod_cast (show m < (m / n + 1) * n by rw [Nat.add_mul]; omega)

/-- The quotient of two significands is shifted far enough to the left to have 53 digits, or up to
the least exponent. -/
theorem le_log2_div {m n j : Nat} (hm : 0 < m) (hn : 0 < n) (h : n.log2 + 53 ≤ m.log2 + j) :
    52 ≤ ((m <<< j) / n).log2 := by
  have hlarge : 2 ^ 52 ≤ (m <<< j) / n := by
    rw [Nat.le_div_iff_mul_le hn, Nat.shiftLeft_eq]
    calc 2 ^ 52 * n ≤ 2 ^ 52 * 2 ^ (n.log2 + 1) := Nat.mul_le_mul_left _ Nat.lt_log2_self.le
      _ = 2 ^ (n.log2 + 53) := by rw [← Nat.pow_add]; congr 1; omega
      _ ≤ 2 ^ (m.log2 + j) := Nat.pow_le_pow_right (by decide) h
      _ = 2 ^ m.log2 * 2 ^ j := Nat.pow_add 2 _ _
      _ ≤ m * 2 ^ j := Nat.mul_le_mul_right _ (Nat.log2_self_le (Nat.ne_of_gt hm))
  rwa [Nat.le_log2 (by positivity)]

theorem rounds_div {u v : UnpackedFloat} (hu : IsCanonical u) (hv : IsCanonical v)
    (hfu : u.isFinite = true) (hfv : v.isFinite = true) (hne : units v ≠ 0) :
    Rounds (units u * one / units v) (u.div .binary64 v) := by
  cases v with
  | notANumber | infinity t => cases hfv
  | zero t => exact absurd rfl hne
  | finite t n d hn =>
    cases u with
    | notANumber | infinity s => cases hfu
    | zero s =>
      rw [show units (.zero s) = 0 from rfl, Int.cast_zero, zero_mul, zero_div]
      exact .zero rfl _
    | finite s m e hm =>
      have he := hu.2.1
      have hd := hv.2.1
      rw [cast_units he, cast_units hd]
      simp only [UnpackedFloat.div, divCore, targetExponent_eq, totalExponent]
      generalize ht : min (e - d)
        (max ((m.log2 : Int) + 1 + e - (n.log2 + 1 + d) - 53) (-1074)) = t'
      generalize hj : (e - d - t').toNat = j
      have hvalue : signed s (m * 2 ^ (e + 1074)) * one / signed t (n * 2 ^ (d + 1074)) =
          signed (s / t) (((m <<< j : Nat) : ℚ) / n * 2 ^ (t' + 1074)) := by
        have hexponent : e + 1074 + (1074 : Nat) - (d + 1074) = j + (t' + 1074) := by omega
        rw [← signed_mul, signed_div_signed, cast_one, mul_zpow_mul_div_zpow, hexponent,
          zpow_add₀ two_ne_zero, zpow_natCast, Nat.shiftLeft_eq]
        push_cast
        congr 1
        ring
      rw [hvalue]
      refine rounds_roundWithAccuracy (approximates_div _ hn) ?_
      by_cases hleast : t' ≤ -1074
      · omega
      · have := le_log2_div (j := j) hm hn (by omega)
        omega

/-! ### Operations on doubles -/

section
variable {x y : Float} (hx : x.isFinite = true) (hy : y.isFinite = true)
include hx hy

theorem isRounding_add : IsRounding (scaled x + scaled y) (x + y) := by
  rw [scaled_eq_units (isNaN_isInf_of_isFinite hx).1, scaled_eq_units (isNaN_isInf_of_isFinite hy).1]
  exact (rounds_add (isCanonical_unpack _) (isCanonical_unpack _) hx hy).isRounding

theorem isRounding_sub : IsRounding (scaled x - scaled y) (x - y) := by
  have hround := rounds_add (isCanonical_unpack _) (isCanonical_neg (isCanonical_unpack _)) hx
    ((isFinite_unpacked_neg _).trans hy)
  rw [← unpacked_sub_eq, units_neg, Int.cast_neg, ← sub_eq_add_neg] at hround
  rw [scaled_eq_units (isNaN_isInf_of_isFinite hx).1, scaled_eq_units (isNaN_isInf_of_isFinite hy).1]
  exact hround.isRounding

omit hy in
theorem isRounding_neg : IsRounding (-scaled x) (-x) := by
  have hnan : x.toModel.unpack.neg.isNaN = false := by
    rcases unpack_of_isFinite hx with ⟨s, h⟩ | ⟨s, m, e, hm, h⟩ <;> rw [h] <;> rfl
  have h : Rounds (units x.toModel.unpack.neg) x.toModel.unpack.neg :=
    .of_units_eq hnan (isCanonical_neg (isCanonical_unpack _)) rfl
  rw [units_neg, Int.cast_neg] at h
  rw [scaled_eq_units (isNaN_isInf_of_isFinite hx).1]
  exact h.isRounding

theorem isRounding_mul : IsRounding (scaled x * scaled y / one) (x * y) := by
  rw [scaled_eq_units (isNaN_isInf_of_isFinite hx).1, scaled_eq_units (isNaN_isInf_of_isFinite hy).1]
  exact (rounds_mul (isCanonical_unpack _) (isCanonical_unpack _) hx hy).isRounding

theorem isRounding_div (hne : scaled y ≠ 0) :
    IsRounding (scaled x * one / scaled y) (x / y) := by
  rw [scaled_eq_units (isNaN_isInf_of_isFinite hx).1]
  rw [scaled_eq_units (isNaN_isInf_of_isFinite hy).1] at hne ⊢
  exact (rounds_div (isCanonical_unpack _) (isCanonical_unpack _) hx hy hne).isRounding

end

/-! ### What is known of a rounded result -/

namespace IsRounding
variable {v : ℚ} {x y z : Float}

/-- An exact result that is a double is not rounded at all. -/
theorem scaled_eq (h : IsRounding v y) (hz : z.isFinite = true) (hv : (scaled z : ℚ) = v) :
    scaled y = scaled z :=
  le_antisymm (h.ge z hz hv.ge) (h.le z hz hv.le)

theorem isFinite (h : IsRounding v y) (hx : x.isFinite = true) (hz : z.isFinite = true)
    (hle : (scaled x : ℚ) ≤ v) (hge : v ≤ scaled z) : y.isFinite = true := by
  have hx' := (isFinite_iff (isNaN_isInf_of_isFinite hx).1).mp hx
  have hz' := (isFinite_iff (isNaN_isInf_of_isFinite hz).1).mp hz
  have := h.le x hx hle
  have := h.ge z hz hge
  rw [isFinite_iff h.isNaN]
  omega

theorem between (h : IsRounding v y) (hx : x.isFinite = true) (hz : z.isFinite = true)
    (hle : (scaled x : ℚ) ≤ v) (hge : v ≤ scaled z) :
    y.isFinite = true ∧ scaled x ≤ scaled y ∧ scaled y ≤ scaled z :=
  ⟨h.isFinite hx hz hle hge, h.le x hx hle, h.ge z hz hge⟩

theorem eq_of_scaled (h : IsRounding v y) (hz : z.isFinite = true) (hv : (scaled z : ℚ) = v) :
    y.isFinite = true ∧ scaled y = scaled z :=
  ⟨h.isFinite hz hz hv.le hv.ge, h.scaled_eq hz hv⟩

end IsRounding

section
variable {x y : Float}

/-- The difference of finite doubles that are not negative is finite. -/
theorem isFinite_sub (hx : x.isFinite = true) (hy : y.isFinite = true) (hx0 : 0 ≤ scaled x)
    (hy0 : 0 ≤ scaled y) : (x - y).isFinite = true := by
  obtain ⟨z, hz, hscaled⟩ := exists_scaled_neg hy
  refine (isRounding_sub hx hy).isFinite hz hx ?_ ?_
  · rw [hscaled]
    push_cast
    have : (0 : ℚ) ≤ scaled x := by exact_mod_cast hx0
    linarith
  · have : (0 : ℚ) ≤ scaled y := by exact_mod_cast hy0
    linarith

/-- Different doubles have a difference: no difference is rounded to zero. -/
theorem scaled_sub_pos_iff (hx : x.isFinite = true) (hy : y.isFinite = true) :
    0 < scaled (x - y) ↔ scaled y < scaled x := by
  have hround := isRounding_sub hx hy
  constructor
  · intro h
    by_contra hle
    have := hround.ge 0.0 isFinite_zero (by
      rw [scaled_zero, Int.cast_zero, sub_nonpos]
      exact_mod_cast not_lt.mp hle)
    rw [scaled_zero] at this
    omega
  · intro h
    obtain ⟨z, hz, hscaled⟩ := exists_scaled_nat (n := 1) (by decide)
    have := hround.le z hz (by
      rw [hscaled, le_sub_iff_add_le]
      exact_mod_cast (show 1 + scaled y ≤ scaled x by omega))
    omega

theorem le_scaled_sub {m : Nat} (hx : x.isFinite = true) (hy : y.isFinite = true)
    (hm : m < 2 ^ 53) (h : m * one + scaled y ≤ scaled x) : (m : Int) * one ≤ scaled (x - y) := by
  obtain ⟨z, hz, hscaled⟩ := exists_scaled_ones hm
  rw [← hscaled]
  refine (isRounding_sub hx hy).le z hz ?_
  rw [le_sub_iff_add_le, hscaled]
  exact_mod_cast h

theorem scaled_sub_le {m : Nat} (hx : x.isFinite = true) (hy : y.isFinite = true)
    (hm : m < 2 ^ 53) (h : scaled x ≤ m * one + scaled y) : scaled (x - y) ≤ (m : Int) * one := by
  obtain ⟨z, hz, hscaled⟩ := exists_scaled_ones hm
  rw [← hscaled]
  refine (isRounding_sub hx hy).ge z hz ?_
  rw [sub_le_iff_le_add, hscaled]
  exact_mod_cast h

end

/-! ### Differences with infinities -/

section
variable {x y : Float}

theorem scaled_of_infinity {s : Sign} (h : x.toModel.unpack = .infinity s) :
    x.isNaN = false ∧ scaled x = s.apply limit := by
  have hnan : x.isNaN = false := by
    change x.toModel.unpack.isNaN = false
    rw [h]
    rfl
  rw [scaled_eq_units hnan, h]
  exact ⟨hnan, rfl⟩

theorem exists_infinity (hx : x.isNaN = false) (hfinite : x.isFinite = false) :
    ∃ s, x.toModel.unpack = .infinity s := by
  have hinf : x.toModel.unpack.isInf = true := (isInf_iff hx).mpr hfinite
  rcases unpack_cases hx with h | ⟨s, h⟩ | ⟨s, m, e, hm, h⟩
  · exact h
  · rw [h] at hinf
    cases hinf
  · rw [h] at hinf
    cases hinf

theorem unpack_sub_of_infinity {s : Sign}
    (h : x.toModel.unpack.sub .binary64 y.toModel.unpack = .infinity s) :
    (x - y).toModel.unpack = .infinity s := by
  change UnpackedFloat.unpack .binary64 (UnpackedFloat.pack .binary64
    (x.toModel.unpack.sub .binary64 y.toModel.unpack)) = _
  rw [h]
  cases s <;> rfl

theorem unpack_infinity_sub {s : Sign} (hx : x.toModel.unpack = .infinity s)
    (hy : y.isFinite = true) : (x - y).toModel.unpack = .infinity s := by
  refine unpack_sub_of_infinity ?_
  rw [hx]
  rcases unpack_of_isFinite hy with ⟨t, h⟩ | ⟨t, n, d, hn, h⟩ <;> rw [h] <;> rfl

theorem unpack_sub_infinity {s : Sign} (hx : x.isFinite = true)
    (hy : y.toModel.unpack = .infinity s) : (x - y).toModel.unpack = .infinity (-s) := by
  refine unpack_sub_of_infinity ?_
  rw [hy]
  rcases unpack_of_isFinite hx with ⟨t, h⟩ | ⟨t, n, d, hn, h⟩ <;> rw [h] <;> rfl

/-- Taking off something as large, be it an infinity, leaves nothing. -/
theorem sub_nonpos_of_le (hx : x.isFinite = true) (hy : y.isNaN = false)
    (h : scaled x ≤ scaled y) : (x - y).isNaN = false ∧ scaled (x - y) ≤ 0 := by
  cases hfinite : y.isFinite with
  | true =>
    refine ⟨(isRounding_sub hx hfinite).isNaN, ?_⟩
    rw [← not_lt, scaled_sub_pos_iff hx hfinite]
    exact not_lt.mpr h
  | false =>
    have hlt := (isFinite_iff (isNaN_isInf_of_isFinite hx).1).mp hx
    obtain ⟨s, hs⟩ := exists_infinity hy hfinite
    obtain ⟨hnan, hscaled⟩ := scaled_of_infinity (unpack_sub_infinity hx hs)
    rw [(scaled_of_infinity hs).2] at h
    refine ⟨hnan, hscaled ▸ ?_⟩
    cases s with
    | negative =>
      simp only [Sign.apply] at h
      omega
    | positive =>
      change -(limit : Int) ≤ 0
      omega

theorem not_pos_sub (hx : x.isFinite = true) (hy : y.isNaN = false) (h : scaled x ≤ scaled y) :
    ¬ 0.0 < x - y := by
  obtain ⟨hnan, hle⟩ := sub_nonpos_of_le hx hy h
  rw [pos_iff hnan]
  exact not_lt.mpr hle

theorem sub_nonpos_of_nonpos (hx : x.isNaN = false) (hx0 : scaled x ≤ 0) (hy : y.isFinite = true)
    (hy0 : 0 ≤ scaled y) : (x - y).isNaN = false ∧ scaled (x - y) ≤ 0 := by
  cases hfinite : x.isFinite with
  | true => exact sub_nonpos_of_le hfinite (isNaN_isInf_of_isFinite hy).1 (hx0.trans hy0)
  | false =>
    obtain ⟨s, hs⟩ := exists_infinity hx hfinite
    obtain ⟨hnan, hscaled⟩ := scaled_of_infinity (unpack_infinity_sub hs hy)
    rw [hscaled, ← (scaled_of_infinity hs).2]
    exact ⟨hnan, hx0⟩

theorem le_sub_of_nonpos (hx : x.isFinite = true) (hy : y.isNaN = false) (hy0 : scaled y ≤ 0) :
    (x - y).isNaN = false ∧ scaled x ≤ scaled (x - y) := by
  cases hfinite : y.isFinite with
  | true =>
    have hround := isRounding_sub hx hfinite
    refine ⟨hround.isNaN, hround.le x hx ?_⟩
    rw [le_sub_self_iff]
    exact_mod_cast hy0
  | false =>
    have hlt := (isFinite_iff (isNaN_isInf_of_isFinite hx).1).mp hx
    obtain ⟨s, hs⟩ := exists_infinity hy hfinite
    obtain ⟨hnan, hscaled⟩ := scaled_of_infinity (unpack_sub_infinity hx hs)
    rw [(scaled_of_infinity hs).2] at hy0
    refine ⟨hnan, hscaled ▸ ?_⟩
    cases s with
    | negative =>
      change scaled x ≤ limit
      omega
    | positive =>
      have hpos := limit_pos
      simp only [Sign.apply] at hy0
      omega

end

end ChartText.Binary64
