import Mathlib
import ChartText.Number.Literal

/-! # Finite doubles

A double is finite if its exponent field is not full, and then its exponent is at most 971. So the
rounded result of an operation is finite if its exponent is that small (`isFinite_pack`). -/

namespace ChartText.Binary64
open Float.Model UnpackedFloat

-- The exponent is a variable, so that no term below holds a power that would be evaluated.
theorem one_eq_two_pow {k : Nat} (hk : k = 1074) : one = Nat.pow 2 k := by
  subst hk
  decide +kernel

theorem isFinite_zero : (0.0 : Float).isFinite = true := by
  decide

/-! ### The fields of a double -/

theorem exponentBias_eq : Format.binary64.exponentBias = 1023 := rfl

theorem toNat_unpackExponent (x : Float) :
    (@unpackExponent .binary64 x.toBits.toBitVec).toNat = exponentField x := by
  simp [unpackExponent, exponentField, Nat.shiftRight_eq_div_pow]

theorem toNat_unpackMantissa (x : Float) :
    (@unpackMantissa .binary64 x.toBits.toBitVec).toNat = fractionField x := by
  simp [unpackMantissa, fractionField]

theorem unpack_eq_zero {x : Float} (hx : significand x = 0) : ∃ s, x.toModel.unpack = .zero s := by
  unfold significand at hx
  split at hx
  · next he =>
    have hexp : @unpackExponent .binary64 x.toBits.toBitVec = 0#_ :=
      BitVec.eq_of_toNat_eq (by simpa [toNat_unpackExponent] using he)
    have hman : @unpackMantissa .binary64 x.toBits.toBitVec = 0#_ :=
      BitVec.eq_of_toNat_eq (by simpa [toNat_unpackMantissa] using hx)
    change ∃ s, UnpackedFloat.unpack .binary64 x.toBits.toBitVec = .zero s
    simp [UnpackedFloat.unpack, hexp, hman]
  · have : 0 < Nat.pow 2 52 := Nat.two_pow_pos 52
    omega

/-- Only the zeros have no significand. -/
theorem significand_pos {x : Float} (hx : (x == 0.0) = false) : 0 < significand x := by
  rw [Nat.pos_iff_ne_zero]
  intro hs
  obtain ⟨s, hzero⟩ := unpack_eq_zero hs
  obtain ⟨t, h0⟩ := unpack_eq_zero (x := 0.0) (by decide)
  change x.toModel.unpack.beq (0.0 : Float).toModel.unpack = false at hx
  rw [hzero, h0] at hx
  simp [UnpackedFloat.beq, UnpackedFloat.compare] at hx

theorem bounds_of_unpack {bits : BitVec Format.binary64.numBits} {s : Sign} {m : Nat} {e : Int}
    {hm : 0 < m} (h : UnpackedFloat.unpack .binary64 bits = .finite s m e hm) :
    m < 2 ^ 53 ∧ e ≤ 971 := by
  have hman : (@unpackMantissa .binary64 bits).toNat < 2 ^ 52 := BitVec.isLt _
  have hexp : (@unpackExponent .binary64 bits).toNat < 2 ^ 11 := BitVec.isLt _
  unfold UnpackedFloat.unpack at h
  dsimp only at h
  split at h
  · split at h <;> cases h
  · next hfull =>
    have hexp' : (@unpackExponent .binary64 bits).toNat ≠ 2047 := by
      intro h
      exact hfull (BitVec.eq_of_toNat_eq (by simpa using h))
    split at h
    · next hzero =>
      rw [hzero] at h
      split at h
      · cases h
      · cases h
        exact ⟨by omega, by simp [exponentBias_eq]⟩
    · cases h
      have : (1#1 ++ @unpackMantissa .binary64 bits).toNat < 2 ^ 53 := BitVec.isLt _
      rw [exponentBias_eq]
      exact ⟨by omega, by omega⟩

/-! ### Results that are finite -/

theorem isFinite_unpack {bits : BitVec Format.binary64.numBits} (h : unpackExponent bits ≠ -1#_) :
    (UnpackedFloat.unpack .binary64 bits).isFinite = true := by
  unfold UnpackedFloat.unpack
  dsimp only
  rw [if_neg h]
  split
  · split <;> rfl
  · rfl

theorem isFinite_pack {s : Sign} {m : Nat} {e : Int} (hm : 0 < m) (he : e ≤ 971) :
    (Float.ofModel (.pack (.finite s m e hm))).isFinite = true := by
  change (UnpackedFloat.unpack .binary64 (UnpackedFloat.pack .binary64 (.finite s m e hm))).isFinite
    = true
  have hfits : ¬ 2 ^ 11 ≤ (e + (1023 : Nat) + (52 : Nat)).toNat + 1 := by omega
  apply isFinite_unpack
  unfold UnpackedFloat.pack
  dsimp only
  rw [exponentBias_eq, if_neg hfits]
  split
  · rw [unpackExponent_packComponents]
    intro h
    have := congrArg BitVec.toNat h
    simp at this
    omega
  · rw [unpackExponent_packComponents]
    decide

/-- A result is finite, or it is too large. -/
theorem isFinite_or_isInf_pack (s : Sign) (m : Nat) (e : Int) (hm : 0 < m) :
    (Float.ofModel (.pack (.finite s m e hm))).isFinite = true ∨
      (Float.ofModel (.pack (.finite s m e hm))).isInf = true := by
  by_cases he : e ≤ 971
  · exact .inl (isFinite_pack hm he)
  · right
    have hfull : 2 ^ 11 ≤ (e + (1023 : Nat) + (52 : Nat)).toNat + 1 := by omega
    have hpack : UnpackedFloat.pack .binary64 (.finite s m e hm) = packedInfinity .binary64 s := by
      unfold UnpackedFloat.pack
      dsimp only
      rw [exponentBias_eq, if_pos hfull]
    change (UnpackedFloat.unpack .binary64 (UnpackedFloat.pack .binary64 (.finite s m e hm))).isInf
      = true
    rw [hpack]
    cases s <;> rfl

theorem isFinite_pack_zero (s : Sign) : (Float.ofModel (.pack (.zero s))).isFinite = true := by
  cases s <;> rfl

/-! ### Rounding -/

theorem roundWithAccuracy_cases (s : Sign) (m : Nat) (e : Int) (a : Accuracy) :
    roundWithAccuracy .binary64 s m e a = .zero s ∨
      ∃ m' e' hm, roundWithAccuracy .binary64 s m e a = .finite s m' e' hm := by
  unfold roundWithAccuracy
  dsimp only
  split
  · exact .inl rfl
  · next h => exact .inr ⟨_, _, Nat.pos_of_ne_zero h, rfl⟩

theorem targetExponent_eq (t : Int) : Format.binary64.targetExponent t = max (t - 53) (-1074) := by
  rfl

theorem log2_le_of_lt {n k : Nat} (h : n < 2 ^ (k + 1)) : n.log2 ≤ k := by
  by_cases hn : n = 0
  · simp [hn]
  · rwa [← Nat.lt_succ_iff, Nat.log2_lt hn]

theorem log2_mul_two_pow_le (n k : Nat) : (n * 2 ^ k).log2 ≤ n.log2 + k := by
  refine log2_le_of_lt ?_
  rw [Nat.add_right_comm, Nat.pow_add]
  exact Nat.mul_lt_mul_of_pos_right Nat.lt_log2_self (Nat.two_pow_pos k)

theorem mantissa_shiftRight (em : ExtendedMantissa) (k : Nat) :
    (em >>> k).mantissa = em.mantissa / 2 ^ k := by
  induction k with
  | zero => simp [HShiftRight.hShiftRight, Nat.repeat]
  | succ k ih =>
    change (em >>> k).mantissa / 2 = _
    rw [ih, Nat.div_div_eq_div_mul, Nat.pow_succ]

theorem mantissa_ofMantissaAndAccuracy (m : Nat) (a : Accuracy) :
    (ExtendedMantissa.ofMantissaAndAccuracy m a).mantissa = m := by
  rcases a with _ | o
  · rfl
  · cases o <;> rfl

theorem roundedMantissa_le (em : ExtendedMantissa) : em.roundedMantissa ≤ em.mantissa + 1 := by
  unfold ExtendedMantissa.roundedMantissa
  rcases em.accuracy with _ | o
  · exact Nat.le_succ _
  · cases o <;> simp only [Accuracy.roundToNearestEven] <;> omega

theorem div_two_pow_lt {m k : Nat} (hk : m.log2 + 1 ≤ 53 + k) : m / 2 ^ k < 2 ^ 53 := by
  rw [Nat.div_lt_iff_lt_mul (Nat.two_pow_pos k), ← Nat.pow_add]
  exact Nat.lt_of_lt_of_le Nat.lt_log2_self (Nat.pow_le_pow_right (by decide) hk)

/-- Rounding adds at most one digit, which the bounds leave room for. -/
theorem exponent_roundWithAccuracy {s s' : Sign} {m m' : Nat} {e e' : Int} {a : Accuracy}
    {hm : 0 < m'} (h : roundWithAccuracy .binary64 s m e a = .finite s' m' e' hm) (he : e ≤ 970)
    (ht : totalExponent m e ≤ 1023) : e' ≤ 971 := by
  unfold roundWithAccuracy shiftToTargetExponent shiftToExponent at h
  simp only [targetExponent_eq, totalExponent] at h ht
  split at h
  · cases h
  · simp only [finite.injEq] at h
    obtain ⟨-, -, rfl⟩ := h
    -- The first shift leaves 53 digits, rounding makes them `2 ^ 53` at most, and the second shift
    -- takes the one digit that this may be too long.
    have hround := roundedMantissa_le
      (ExtendedMantissa.ofMantissaAndAccuracy m a >>> (max (↑m.log2 + 1 + e - 53) (-1074) - e).toNat)
    rw [mantissa_shiftRight, mantissa_ofMantissaAndAccuracy] at hround
    have hshift := div_two_pow_lt (m := m)
      (k := (max ((m.log2 : Int) + 1 + e - 53) (-1074) - e).toNat) (by omega)
    have hlog := log2_le_of_lt (k := 53) (Nat.lt_of_le_of_lt (Nat.le_trans hround hshift) (by decide))
    omega

/-! ### Operations -/

theorem unpack_of_isFinite {x : Float} (hx : x.isFinite = true) :
    (∃ s, x.toModel.unpack = .zero s) ∨ ∃ s m e hm, x.toModel.unpack = .finite s m e hm := by
  change x.toModel.unpack.isFinite = true at hx
  cases h : x.toModel.unpack with
  | infinity s | notANumber =>
    rw [h] at hx
    cases hx
  | zero s => exact .inl ⟨s, rfl⟩
  | finite s m e hm => exact .inr ⟨s, m, e, hm, rfl⟩

theorem isNaN_isInf_of_isFinite {x : Float} (hx : x.isFinite = true) :
    x.isNaN = false ∧ x.isInf = false := by
  change x.toModel.unpack.isFinite = true at hx
  change x.toModel.unpack.isNaN = false ∧ x.toModel.unpack.isInf = false
  cases h : x.toModel.unpack <;> simp_all [UnpackedFloat.isFinite,
    UnpackedFloat.isNaN, UnpackedFloat.isInf]

theorem isFinite_neg {x : Float} (hx : x.isFinite = true) : (-x).isFinite = true := by
  change (Float.ofModel (.pack x.toModel.unpack.neg)).isFinite = true
  rcases unpack_of_isFinite hx with ⟨s, h⟩ | ⟨s, m, e, hm, h⟩
  · rw [h]
    exact isFinite_pack_zero (-s)
  · rw [h]
    exact isFinite_pack hm (bounds_of_unpack h).2

/-- A product of finite doubles is finite unless it is too large. -/
theorem isFinite_mul {x y : Float} (hx : x.isFinite = true) (hy : y.isFinite = true)
    (hxy : (x * y).isInf = false) : (x * y).isFinite = true := by
  change (Float.ofModel (.pack (x.toModel.unpack.mul .binary64 y.toModel.unpack))).isInf = false at hxy
  change (Float.ofModel (.pack (x.toModel.unpack.mul .binary64 y.toModel.unpack))).isFinite = true
  rcases unpack_of_isFinite hx with ⟨s, h⟩ | ⟨s, m, e, hm, h⟩
  · rcases unpack_of_isFinite hy with ⟨s', h'⟩ | ⟨s', m', e', hm', h'⟩
    · rw [h, h']
      exact isFinite_pack_zero (s * s')
    · rw [h, h']
      exact isFinite_pack_zero (s * s')
  · rcases unpack_of_isFinite hy with ⟨s', h'⟩ | ⟨s', m', e', hm', h'⟩
    · rw [h, h']
      exact isFinite_pack_zero (s * s')
    · rw [h, h', UnpackedFloat.mul] at hxy ⊢
      rcases roundWithAccuracy_cases (s * s') (m * m') (e + e') .exact with hr | ⟨n, f, hn, hr⟩
      · rw [hr]
        exact isFinite_pack_zero (s * s')
      · rw [hr] at hxy ⊢
        refine (isFinite_or_isInf_pack (s * s') n f hn).resolve_right ?_
        rw [hxy]
        decide

theorem log2_div_add_le {m n : Nat} (hn : 0 < n) (hq : m / n ≠ 0) :
    (m / n).log2 + n.log2 ≤ m.log2 := by
  have hm : m ≠ 0 := by
    rintro rfl
    simp at hq
  rw [Nat.le_log2 hm, Nat.pow_add]
  calc 2 ^ (m / n).log2 * 2 ^ n.log2 ≤ m / n * n :=
        Nat.mul_le_mul (Nat.log2_self_le hq) (Nat.log2_self_le (Nat.ne_of_gt hn))
    _ ≤ m := Nat.div_mul_le_self m n

theorem divCore_bounds {m n : Nat} {e f : Int} (hn : 0 < n) (hm : m < 2 ^ 53) (he : e ≤ 971)
    (hlarge : 2 ≤ totalExponent n f) :
    (divCore .binary64 m e n f).2.1 ≤ 970 ∧
      totalExponent (divCore .binary64 m e n f).1 (divCore .binary64 m e n f).2.1 ≤ 1023 := by
  have hlog : m.log2 ≤ 52 := log2_le_of_lt hm
  simp only [divCore, targetExponent_eq, totalExponent] at hlarge ⊢
  refine ⟨by omega, ?_⟩
  generalize hk : (e - f - min (e - f) (max (↑m.log2 + 1 + e - (↑n.log2 + 1 + f) - 53) (-1074))).toNat = k
  rw [Nat.shiftLeft_eq]
  by_cases hq : m * 2 ^ k / n = 0
  · rw [hq, Nat.log2_zero]
    omega
  · have hdiv := log2_div_add_le hn hq
    have hshift := log2_mul_two_pow_le m k
    omega

/-- The double is finite and its absolute value is at least two. -/
def reachesTwo (y : Float) : Bool :=
  match y.toModel.unpack with
  | .finite _ m e _ => 2 ≤ totalExponent m e
  | _ => false

theorem isFinite_div {x y : Float} (hx : x.isFinite = true) (hy : reachesTwo y = true) :
    (x / y).isFinite = true := by
  change (Float.ofModel (.pack (x.toModel.unpack.div .binary64 y.toModel.unpack))).isFinite = true
  unfold reachesTwo at hy
  split at hy
  · next s m e hm h =>
    rcases unpack_of_isFinite hx with ⟨s', h'⟩ | ⟨s', m', e', hm', h'⟩
    · rw [h, h']
      exact isFinite_pack_zero (s' / s)
    · rw [h, h', UnpackedFloat.div]
      dsimp only
      have hb := bounds_of_unpack h'
      obtain ⟨he, ht⟩ := divCore_bounds hm hb.1 hb.2 (by simpa using hy)
      rcases roundWithAccuracy_cases (s' / s) (divCore .binary64 m' e' m e).1
          (divCore .binary64 m' e' m e).2.1 (divCore .binary64 m' e' m e).2.2 with
        hr | ⟨n, f, hn, hr⟩
      · rw [hr]
        exact isFinite_pack_zero (s' / s)
      · rw [hr]
        exact isFinite_pack hn (exponent_roundWithAccuracy hr he ht)
  · cases hy

/-! ### Whole numbers -/

theorem isFinite_ofBits {w : UInt64} (h : w.toNat / 2 ^ 52 % 2 ^ 11 ≠ 2047) :
    (Float.ofBits w).isFinite = true := by
  have hfull : @unpackExponent .binary64 w.toBitVec ≠ -1#_ := by
    intro hf
    have := congrArg BitVec.toNat hf
    simp [unpackExponent, Nat.shiftRight_eq_div_pow] at this
    exact h this
  have hfinite := isFinite_unpack hfull
  change (Float.ofModel (.pack (UnpackedFloat.unpack .binary64 w.toBitVec))).isFinite = true
  cases hu : UnpackedFloat.unpack .binary64 w.toBitVec with
  | infinity s | notANumber =>
    rw [hu] at hfinite
    cases hfinite
  | zero s => exact isFinite_pack_zero s
  | finite s m e hm => exact isFinite_pack hm (bounds_of_unpack hu).2

theorem isFinite_compose (significand : Nat) {unit : Nat} (h : unit ≤ 2044) :
    (compose false significand unit).isFinite = true := by
  refine isFinite_ofBits ?_
  have h52 : Nat.pow 2 52 = 4503599627370496 := rfl
  have h53 : Nat.pow 2 53 = 9007199254740992 := rfl
  have h63 : Nat.pow 2 63 = 9223372036854775808 := rfl
  rw [h52, h53]
  simp
  split
  · omega
  · split <;> omega

theorem isFinite_ofNat {n : Nat} (hn : n < Nat.pow 2 64) : (ofNat n).isFinite = true := by
  refine isFinite_compose _ ?_
  have hlog : n.log2 ≤ 63 := log2_le_of_lt hn
  have hone (k : Nat) (hk : one = Nat.pow 2 k) : (n * one).log2 ≤ n.log2 + k :=
    hk ▸ log2_mul_two_pow_le n k
  have := hone _ (one_eq_two_pow rfl)
  rw [Nat.div_one, unitFor]
  omega

end ChartText.Binary64
