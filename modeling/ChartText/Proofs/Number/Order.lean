import ChartText.Proofs.Number.Finite

/-! # The order of doubles

A double that is not the undefined one stands at `scaled x` on a line of smallest positive doubles,
the infinities just past the last finite ones. Doubles compare as their places do (`lt_iff`,
`le_iff`). The places are read off the unpacked double (`units`), whose significand has 53 digits
unless the exponent is the least one (`IsCanonical`). -/

namespace ChartText.Binary64
open Float.Model UnpackedFloat

/-! ### Places on the line -/

/-- The unit exponent of the largest finite doubles. -/
@[irreducible] def lastUnit : Nat := 2045

theorem lastUnit_eq : lastUnit = 2045 := by
  unfold lastUnit
  rfl

/-- Where the infinities stand. -/
def limit : Nat := 2 ^ 53 * 2 ^ lastUnit

/-- The place of an unpacked double, counted in smallest positive doubles. -/
def units : UnpackedFloat → Int
  | .notANumber | .zero _ => 0
  | .infinity s => s.apply limit
  | .finite s m e _ => s.apply (m * 2 ^ (e + 1074).toNat : Nat)

/-- The significand of a finite double has 53 digits, or fewer at the least exponent. -/
def IsCanonical : UnpackedFloat → Prop
  | .finite _ m e _ => m < 2 ^ 53 ∧ -1074 ≤ e ∧ (2 ^ 52 ≤ m ∨ e = -1074)
  | _ => True

theorem toNat_unpackSign (x : Float) :
    (@unpackSign .binary64 x.toBits.toBitVec).toNat = x.toBits.toNat / 2 ^ 63 := by
  have := x.toBits.toNat_lt
  simp [unpackSign, Nat.shiftRight_eq_div_pow]
  omega

theorem apply_unpackSign (x : Float) (n : Int) :
    (Sign.ofBitVec (@unpackSign .binary64 x.toBits.toBitVec)).apply n =
      if isNegative x then -n else n := by
  have h63 : Nat.pow 2 63 = 2 ^ 63 := rfl
  have hlt := x.toBits.toNat_lt
  have hsign := toNat_unpackSign x
  have hzero : @unpackSign .binary64 x.toBits.toBitVec = 0#1 ↔ ¬ 2 ^ 63 ≤ x.toBits.toNat := by
    rw [← BitVec.toNat_inj, hsign, BitVec.toNat_ofNat]
    omega
  simp only [Sign.ofBitVec, hzero, isNegative, h63, decide_eq_true_eq]
  by_cases h : 2 ^ 63 ≤ x.toBits.toNat
  · rw [if_neg (not_not_intro h), if_pos h]
    rfl
  · rw [if_pos h, if_neg h]
    rfl

theorem toNat_leading_append (mantissa : BitVec 52) :
    (1#1 ++ mantissa).toNat = 2 ^ 52 + mantissa.toNat := by
  have h := Nat.two_pow_add_eq_or_of_lt mantissa.isLt 1
  rw [Nat.mul_one] at h
  rw [BitVec.toNat_append, Nat.shiftLeft_eq, h]
  simp

theorem isCanonical_unpack (bits : BitVec Format.binary64.numBits) :
    IsCanonical (UnpackedFloat.unpack .binary64 bits) := by
  have hman : (@unpackMantissa .binary64 bits).toNat < 2 ^ 52 := BitVec.isLt _
  unfold UnpackedFloat.unpack
  dsimp only
  split
  · split <;> trivial
  · split
    · next hzero =>
      split
      · trivial
      · rw [IsCanonical, hzero]
        simp [exponentBias_eq]
        omega
    · next hne =>
      have hexp : (@unpackExponent .binary64 bits).toNat ≠ 0 := by
        intro h
        exact hne (BitVec.eq_of_toNat_eq (by simpa using h))
      rw [IsCanonical, toNat_leading_append, exponentBias_eq]
      omega

theorem magnitude_of_exponentField {x : Float} {k : Nat} (h : exponentField x = k + 1) :
    magnitude x = (2 ^ 52 + fractionField x) * 2 ^ k := by
  rw [magnitude, significand, unitExponent, h, if_neg (Nat.succ_ne_zero k), Nat.add_sub_cancel]
  rfl

theorem magnitude_of_exponentField_zero {x : Float} (h : exponentField x = 0) :
    magnitude x = fractionField x := by
  rw [magnitude, significand, unitExponent, h, if_pos rfl]
  exact Nat.mul_one _

theorem scaled_eq_units {x : Float} (hx : x.isNaN = false) : scaled x = units x.toModel.unpack := by
  have hexp := toNat_unpackExponent x
  have hman := toNat_unpackMantissa x
  have hscaled : scaled x =
      (Sign.ofBitVec (@unpackSign .binary64 x.toBits.toBitVec)).apply (magnitude x) := by
    rw [apply_unpackSign]
    rfl
  change (UnpackedFloat.unpack .binary64 x.toBits.toBitVec).isNaN = false at hx
  change _ = units (UnpackedFloat.unpack .binary64 x.toBits.toBitVec)
  rw [hscaled]
  unfold UnpackedFloat.unpack at hx ⊢
  dsimp only at hx ⊢
  split at hx
  · next hfull =>
    split at hx
    · next hzero =>
      have hmagnitude : magnitude x = (2 ^ 52 + fractionField x) * 2 ^ (lastUnit + 1) :=
        magnitude_of_exponentField (by rw [← hexp, hfull, lastUnit_eq]; rfl)
      have hlimit : (2 ^ 52 + (0#52).toNat) * 2 ^ (lastUnit + 1) = limit := by
        rw [limit, Nat.pow_succ 2 lastUnit, BitVec.toNat_ofNat, Nat.mul_comm _ 2, ← Nat.mul_assoc]
        congr 1
      rw [if_pos hfull, if_pos hzero, units, hmagnitude, ← hman, hzero, hlimit]
    · cases hx
  · next hfull =>
    rw [if_neg hfull]
    split
    · next hzero =>
      have hmagnitude := magnitude_of_exponentField_zero (x := x) (by rw [← hexp, hzero]; rfl)
      rw [hmagnitude, ← hman]
      split
      · next hnone =>
        rw [units, hnone]
        cases Sign.ofBitVec (@unpackSign .binary64 x.toBits.toBitVec) <;> rfl
      · rw [units, hzero]
        simp [exponentBias_eq]
    · next hne =>
      obtain ⟨k, hk⟩ := Nat.exists_eq_succ_of_ne_zero
        (n := (@unpackExponent .binary64 x.toBits.toBitVec).toNat)
        fun h => hne (BitVec.eq_of_toNat_eq (by simpa using h))
      have hmagnitude := magnitude_of_exponentField (x := x) (k := k) (by rw [← hexp, hk])
      have hshift : ((k.succ : Int) - ((1023 : Nat) + (52 : Nat)) + 1074).toNat = k := by omega
      rw [units, toNat_leading_append, hmagnitude, ← hman, hk, exponentBias_eq, hshift]

/-! ### The order -/

theorem limit_pos : 0 < limit :=
  Nat.mul_pos (Nat.two_pow_pos 53) (Nat.two_pow_pos lastUnit)

theorem units_lt_of_exponent_lt {m n : Nat} {d e : Int} (hm : m < 2 ^ 53) (hd : -1074 ≤ d)
    (hn : 2 ^ 52 ≤ n ∨ e = -1074) (hde : d < e) :
    m * 2 ^ (d + 1074).toNat < n * 2 ^ (e + 1074).toNat := by
  have hn' : 2 ^ 52 ≤ n := by omega
  obtain ⟨k, hk⟩ : ∃ k, (e + 1074).toNat = (d + 1074).toNat + 1 + k :=
    ⟨(e + 1074).toNat - (d + 1074).toNat - 1, by omega⟩
  calc m * 2 ^ (d + 1074).toNat < 2 ^ 53 * 2 ^ (d + 1074).toNat :=
        Nat.mul_lt_mul_of_pos_right hm (Nat.two_pow_pos _)
    _ = 2 ^ 52 * 2 ^ ((d + 1074).toNat + 1) := by rw [Nat.pow_succ 2 (d + 1074).toNat]; ring
    _ ≤ n * 2 ^ (e + 1074).toNat :=
        Nat.mul_le_mul hn' (Nat.pow_le_pow_right (by decide) (by omega))

theorem units_lt_limit {m : Nat} {e : Int} (hm : m < 2 ^ 53) (he : e ≤ 971) :
    m * 2 ^ (e + 1074).toNat < limit := by
  have hunit : (e + 1074).toNat ≤ lastUnit := by
    rw [lastUnit_eq]
    omega
  calc m * 2 ^ (e + 1074).toNat < 2 ^ 53 * 2 ^ (e + 1074).toNat :=
        Nat.mul_lt_mul_of_pos_right hm (Nat.two_pow_pos _)
    _ ≤ limit := Nat.mul_le_mul_left _ (Nat.pow_le_pow_right (by decide) hunit)

theorem limit_le_units {m k : Nat} (hm : 2 ^ 52 ≤ m) (hk : lastUnit < k) : limit ≤ m * 2 ^ k := by
  calc limit = 2 ^ 52 * 2 ^ (lastUnit + 1) := by rw [limit, Nat.pow_succ 2 lastUnit]; ring
    _ ≤ m * 2 ^ k := Nat.mul_le_mul hm (Nat.pow_le_pow_right (by decide) hk)

theorem then_compare_eq {m n : Nat} {d e : Int}
    (hm : m < 2 ^ 53 ∧ -1074 ≤ d ∧ (2 ^ 52 ≤ m ∨ d = -1074))
    (hn : n < 2 ^ 53 ∧ -1074 ≤ e ∧ (2 ^ 52 ≤ n ∨ e = -1074)) :
    (compare d e).then (compare m n) =
      compare ((m * 2 ^ (d + 1074).toNat : Nat) : Int) (n * 2 ^ (e + 1074).toNat : Nat) := by
  rcases lt_trichotomy d e with h | rfl | h
  · rw [compare_lt_iff_lt.mpr h,
      compare_lt_iff_lt.mpr (Int.ofNat_lt.mpr (units_lt_of_exponent_lt hm.1 hm.2.1 hn.2.2 h))]
    rfl
  · have hp := Nat.two_pow_pos (d + 1074).toNat
    rw [compare_eq_iff_eq.mpr rfl, Ordering.eq_then]
    rcases lt_trichotomy m n with h | rfl | h
    · rw [compare_lt_iff_lt.mpr h,
        compare_lt_iff_lt.mpr (Int.ofNat_lt.mpr (Nat.mul_lt_mul_of_pos_right h hp))]
    · rw [compare_eq_iff_eq.mpr rfl, compare_eq_iff_eq.mpr rfl]
    · rw [compare_gt_iff_gt.mpr h,
        compare_gt_iff_gt.mpr (Int.ofNat_lt.mpr (Nat.mul_lt_mul_of_pos_right h hp))]
  · rw [compare_gt_iff_gt.mpr h,
      compare_gt_iff_gt.mpr (Int.ofNat_lt.mpr (units_lt_of_exponent_lt hn.1 hn.2.1 hm.2.2 h))]
    rfl

theorem swap_compare (a b : Int) : (compare a b).swap = compare (-a) (-b) := by
  rcases lt_trichotomy a b with h | rfl | h
  · rw [compare_lt_iff_lt.mpr h, compare_gt_iff_gt.mpr (Int.neg_lt_neg h)]
    rfl
  · rw [compare_eq_iff_eq.mpr rfl, compare_eq_iff_eq.mpr rfl]
    rfl
  · rw [compare_gt_iff_gt.mpr h, compare_lt_iff_lt.mpr (Int.neg_lt_neg h)]
    rfl

theorem units_finite {x : Float} {s : Sign} {m : Nat} {e : Int} {hm : 0 < m}
    (h : x.toModel.unpack = .finite s m e hm) :
    ∃ n : Nat, 0 < n ∧ n < limit ∧ units (.finite s m e hm) = s.apply n := by
  obtain ⟨hm53, he⟩ := bounds_of_unpack h
  exact ⟨_, Nat.mul_pos hm (Nat.two_pow_pos _), units_lt_limit hm53 he, rfl⟩

theorem unpack_cases {x : Float} (hx : x.isNaN = false) :
    (∃ s, x.toModel.unpack = .infinity s) ∨ (∃ s, x.toModel.unpack = .zero s) ∨
      ∃ s m e hm, x.toModel.unpack = .finite s m e hm := by
  change x.toModel.unpack.isNaN = false at hx
  cases hu : x.toModel.unpack with
  | notANumber =>
    rw [hu] at hx
    cases hx
  | infinity s => exact .inl ⟨s, rfl⟩
  | zero s => exact .inr (.inl ⟨s, rfl⟩)
  | finite s m e hm => exact .inr (.inr ⟨s, m, e, hm, rfl⟩)

theorem compare_finite {s t : Sign} {m n : Nat} {d e : Int} {hm : 0 < m} {hn : 0 < n}
    (hx : IsCanonical (.finite s m d hm)) (hy : IsCanonical (.finite t n e hn)) :
    UnpackedFloat.compare (.finite s m d hm) (.finite t n e hn) =
      some (compare (units (.finite s m d hm)) (units (.finite t n e hn))) := by
  have hcompare := then_compare_eq hx hy
  have hm0 : 0 < m * 2 ^ (d + 1074).toNat := Nat.mul_pos hm (Nat.two_pow_pos _)
  have hn0 : 0 < n * 2 ^ (e + 1074).toNat := Nat.mul_pos hn (Nat.two_pow_pos _)
  cases s <;> cases t
  · exact congrArg some ((congrArg Ordering.swap hcompare).trans (swap_compare _ _))
  · rw [compare_lt_iff_lt.mpr (by simp only [units, Sign.apply]; omega)]
    rfl
  · rw [compare_gt_iff_gt.mpr (by simp only [units, Sign.apply]; omega)]
    rfl
  · exact congrArg some hcompare

theorem compare_unpack {x y : Float} (hx : x.isNaN = false) (hy : y.isNaN = false) :
    x.toModel.unpack.compare y.toModel.unpack = some (compare (scaled x) (scaled y)) := by
  have hlimit := limit_pos
  have hcx : IsCanonical x.toModel.unpack := isCanonical_unpack _
  have hcy : IsCanonical y.toModel.unpack := isCanonical_unpack _
  have lt {a b : Int} (h : a < b) : some Ordering.lt = some (compare a b) := by
    rw [compare_lt_iff_lt.mpr h]
  have gt {a b : Int} (h : b < a) : some Ordering.gt = some (compare a b) := by
    rw [compare_gt_iff_gt.mpr h]
  have eq {a b : Int} (h : a = b) : some Ordering.eq = some (compare a b) := by
    rw [compare_eq_iff_eq.mpr h]
  rw [scaled_eq_units hx, scaled_eq_units hy]
  -- But for two finite doubles the signs decide.
  rcases unpack_cases hx with ⟨s, hu⟩ | ⟨s, hu⟩ | ⟨s, m, d, hm, hu⟩ <;>
    rcases unpack_cases hy with ⟨t, hv⟩ | ⟨t, hv⟩ | ⟨t, n, e, hn, hv⟩
  · rw [hu, hv]
    cases s <;> cases t <;> simp only [units, Sign.apply] <;>
      first | exact eq rfl | exact lt (by omega) | exact gt (by omega)
  · rw [hu, hv]
    cases s <;> simp only [units, Sign.apply] <;>
      first | exact lt (by omega) | exact gt (by omega)
  · obtain ⟨k, hk, hklimit, hunits⟩ := units_finite hv
    rw [hu, hv, hunits]
    cases s <;> cases t <;> simp only [units, Sign.apply] <;>
      first | exact lt (by omega) | exact gt (by omega)
  · rw [hu, hv]
    cases t <;> simp only [units, Sign.apply] <;>
      first | exact lt (by omega) | exact gt (by omega)
  · rw [hu, hv]
    exact eq rfl
  · obtain ⟨k, hk, hklimit, hunits⟩ := units_finite hv
    rw [hu, hv, hunits]
    cases t <;> simp only [units, Sign.apply] <;>
      first | exact lt (by omega) | exact gt (by omega)
  · obtain ⟨j, hj, hjlimit, hunits⟩ := units_finite hu
    rw [hu, hv, hunits]
    cases s <;> cases t <;> simp only [units, Sign.apply] <;>
      first | exact lt (by omega) | exact gt (by omega)
  · obtain ⟨j, hj, hjlimit, hunits⟩ := units_finite hu
    rw [hu, hv, hunits]
    cases s <;> simp only [units, Sign.apply] <;>
      first | exact lt (by omega) | exact gt (by omega)
  · rw [hu] at hcx ⊢
    rw [hv] at hcy ⊢
    exact compare_finite hcx hcy

/-- Doubles are in the order of their places. -/
theorem lt_iff {x y : Float} (hx : x.isNaN = false) (hy : y.isNaN = false) :
    x < y ↔ scaled x < scaled y := by
  change decide ((x.toModel.unpack.compare y.toModel.unpack == some .lt) = true) = true ↔ _
  rw [compare_unpack hx hy, ← compare_lt_iff_lt]
  simp

theorem le_iff {x y : Float} (hx : x.isNaN = false) (hy : y.isNaN = false) :
    x ≤ y ↔ scaled x ≤ scaled y := by
  change decide ((x.toModel.unpack.compare y.toModel.unpack).any (·.isLE) = true) = true ↔ _
  rw [compare_unpack hx hy, ← compare_le_iff_le]
  cases compare (scaled x) (scaled y) <;> simp

theorem scaled_zero : scaled 0.0 = 0 := by
  decide

theorem isNaN_zero : (0.0 : Float).isNaN = false :=
  (isNaN_isInf_of_isFinite isFinite_zero).1

theorem pos_iff {x : Float} (hx : x.isNaN = false) : 0.0 < x ↔ 0 < scaled x := by
  rw [lt_iff isNaN_zero hx, scaled_zero]

theorem neg_iff {x : Float} (hx : x.isNaN = false) : x < 0.0 ↔ scaled x < 0 := by
  rw [lt_iff hx isNaN_zero, scaled_zero]

/-! ### Finite doubles -/

/-- The finite doubles are the ones between the infinities. -/
theorem isFinite_iff {x : Float} (hx : x.isNaN = false) :
    x.isFinite = true ↔ (scaled x).natAbs < limit := by
  have hlimit := limit_pos
  rw [scaled_eq_units hx]
  change x.toModel.unpack.isFinite = true ↔ _
  rcases unpack_cases hx with ⟨s, hu⟩ | ⟨s, hu⟩ | ⟨s, m, e, hm, hu⟩
  · rw [hu]
    cases s <;> simp [UnpackedFloat.isFinite, units, Sign.apply]
  · simpa [hu, UnpackedFloat.isFinite, units] using hlimit
  · obtain ⟨n, -, hn, hunits⟩ := units_finite hu
    rw [hu, hunits]
    cases s <;> simpa [UnpackedFloat.isFinite, Sign.apply] using hn

theorem isInf_iff {x : Float} (hx : x.isNaN = false) : x.isInf = true ↔ x.isFinite = false := by
  change x.toModel.unpack.isInf = true ↔ x.toModel.unpack.isFinite = false
  rcases unpack_cases hx with ⟨s, hu⟩ | ⟨s, hu⟩ | ⟨s, m, e, hm, hu⟩ <;>
    simp [hu, UnpackedFloat.isInf, UnpackedFloat.isFinite]

theorem natAbs_apply (s : Sign) (n : Nat) : (s.apply n).natAbs = n := by
  cases s <;> simp [Sign.apply]

/-- The place of a finite double has at most 53 digits before its zeros. -/
theorem exists_digits {x : Float} (hx : x.isFinite = true) :
    ∃ m k : Nat, m < 2 ^ 53 ∧ (scaled x).natAbs = m * 2 ^ k := by
  rw [scaled_eq_units (isNaN_isInf_of_isFinite hx).1]
  rcases unpack_of_isFinite hx with ⟨s, h⟩ | ⟨s, m, e, hm, h⟩
  · exact ⟨0, 0, by decide, by rw [h]; rfl⟩
  · refine ⟨m, (e + 1074).toNat, (bounds_of_unpack h).1, ?_⟩
    rw [h]
    exact natAbs_apply s _

/-! ### Packing -/

theorem unpack_normal (s : Sign) {exponent : BitVec 11} (mantissa : BitVec 52)
    (hfull : exponent ≠ -1#_) (hzero : exponent ≠ 0#_) :
    ∃ hm, UnpackedFloat.unpack .binary64 (packComponents .binary64 s exponent mantissa) =
      .finite s (2 ^ 52 + mantissa.toNat) (exponent.toNat - 1075) hm := by
  refine ⟨by positivity, ?_⟩
  unfold UnpackedFloat.unpack
  dsimp only
  rw [unpackExponent_packComponents, if_neg hfull, if_neg hzero]
  simp [exponentBias_eq, toNat_leading_append]

theorem unpack_subnormal (s : Sign) {mantissa : BitVec 52} (hzero : mantissa ≠ 0#_) :
    ∃ hm, UnpackedFloat.unpack .binary64 (packComponents .binary64 s 0#_ mantissa) =
      .finite s mantissa.toNat (-1074) hm := by
  have hpos : 0 < mantissa.toNat :=
    Nat.pos_of_ne_zero fun h => hzero (BitVec.eq_of_toNat_eq (by simpa using h))
  refine ⟨hpos, ?_⟩
  unfold UnpackedFloat.unpack
  dsimp only
  simp [exponentBias_eq, hzero]

theorem unpack_pack {s : Sign} {m : Nat} {e : Int} {hm : 0 < m}
    (h : IsCanonical (.finite s m e hm)) (he : e ≤ 971) :
    UnpackedFloat.unpack .binary64 (UnpackedFloat.pack .binary64 (.finite s m e hm)) =
      .finite s m e hm := by
  obtain ⟨hm53, hleast, hdigits⟩ := h
  have hfits : ¬ 2 ^ 11 ≤ (e + (1023 : Nat) + (52 : Nat)).toNat + 1 := by omega
  unfold UnpackedFloat.pack
  dsimp only
  rw [exponentBias_eq, if_neg hfits]
  split
  · next hlog =>
    -- The leading digit is left out of the bits.
    have h52 : 2 ^ 52 ≤ m := by
      have := Nat.log2_self_le (Nat.ne_of_gt hm)
      rwa [Nat.add_right_cancel (hlog.trans (Nat.add_comm 1 52))] at this
    have hmantissa : 2 ^ 52 + m % 2 ^ 52 = m := by omega
    have hexponent : (e + (1023 : Nat) + (52 : Nat)).toNat % 2 ^ 11 = (e + 1075).toNat := by omega
    have hfull : BitVec.ofNat 11 (e + (1023 : Nat) + (52 : Nat)).toNat ≠ -1#_ := fun h => by
      have := congrArg BitVec.toNat h
      simp at this
      omega
    have hzero : BitVec.ofNat 11 (e + (1023 : Nat) + (52 : Nat)).toNat ≠ 0#_ := fun h => by
      have := congrArg BitVec.toNat h
      simp at this
      omega
    obtain ⟨hm', hunpack⟩ := unpack_normal s (BitVec.ofNat 52 m) hfull hzero
    rw [hunpack, finite.injEq, BitVec.toNat_ofNat, BitVec.toNat_ofNat, hmantissa, hexponent]
    exact ⟨rfl, rfl, by omega⟩
  · next hlog =>
    have hm52 : m < 2 ^ 52 := by
      by_contra hlarge
      exact hlog (congrArg (· + 1) ((Nat.log2_eq_iff (Nat.ne_of_gt hm)).mpr ⟨by omega, hm53⟩))
    have hzero : BitVec.ofNat 52 m ≠ 0#_ := fun h => by
      have := congrArg BitVec.toNat h
      simp at this
      omega
    obtain ⟨hm', hunpack⟩ := unpack_subnormal s hzero
    rw [hunpack, finite.injEq, BitVec.toNat_ofNat, Nat.mod_eq_of_lt hm52]
    exact ⟨rfl, rfl, by omega⟩

theorem unpack_pack_of_large {s : Sign} {m : Nat} {e : Int} (hm : 0 < m) (he : 971 < e) :
    UnpackedFloat.unpack .binary64 (UnpackedFloat.pack .binary64 (.finite s m e hm)) =
      .infinity s := by
  have hfull : 2 ^ 11 ≤ (e + (1023 : Nat) + (52 : Nat)).toNat + 1 := by omega
  unfold UnpackedFloat.pack
  dsimp only
  rw [exponentBias_eq, if_pos hfull]
  cases s <;> rfl

/-! ### Every place with few digits is the place of a double -/

/-- Zeros are moved to the significand until it is full. -/
theorem exists_canonical {m : Nat} (k : Nat) (hm : 0 < m) (hm53 : m < 2 ^ 53) :
    ∃ n j, n < 2 ^ 53 ∧ n * 2 ^ j = m * 2 ^ k ∧ (2 ^ 52 ≤ n ∨ j = 0) := by
  have hlog : m.log2 ≤ 52 := log2_le_of_lt hm53
  refine ⟨m * 2 ^ min (52 - m.log2) k, k - min (52 - m.log2) k, ?_, ?_, ?_⟩
  · calc m * 2 ^ min (52 - m.log2) k < 2 ^ (m.log2 + 1) * 2 ^ min (52 - m.log2) k :=
          Nat.mul_lt_mul_of_pos_right Nat.lt_log2_self (Nat.two_pow_pos _)
      _ = 2 ^ (m.log2 + 1 + min (52 - m.log2) k) := (Nat.pow_add 2 _ _).symm
      _ ≤ 2 ^ 53 := Nat.pow_le_pow_right (by decide) (by omega)
  · rw [Nat.mul_assoc, ← Nat.pow_add]
    congr 2
    omega
  · by_cases hk : 52 - m.log2 ≤ k
    · left
      calc 2 ^ 52 = 2 ^ (m.log2 + (52 - m.log2)) := by congr 1; omega
        _ = 2 ^ m.log2 * 2 ^ (52 - m.log2) := Nat.pow_add 2 _ _
        _ ≤ m * 2 ^ min (52 - m.log2) k := by
          rw [Nat.min_eq_left hk]
          exact Nat.mul_le_mul_right _ (Nat.log2_self_le (Nat.ne_of_gt hm))
    · right
      omega

theorem exists_scaled (s : Sign) {m k : Nat} (hm : m < 2 ^ 53) (h : m * 2 ^ k < limit) :
    ∃ x : Float, x.isFinite = true ∧ scaled x = s.apply (m * 2 ^ k : Nat) := by
  rcases Nat.eq_zero_or_pos m with rfl | hpos
  · refine ⟨0.0, isFinite_zero, ?_⟩
    rw [Nat.zero_mul, scaled_zero]
    cases s <;> rfl
  · obtain ⟨n, j, hn, hnm, hdigits⟩ := exists_canonical k hpos hm
    have hn0 : 0 < n := by
      rcases Nat.eq_zero_or_pos n with rfl | hn0
      · rw [Nat.zero_mul] at hnm
        exact absurd hnm.symm (Nat.ne_of_gt (Nat.mul_pos hpos (Nat.two_pow_pos k)))
      · exact hn0
    have hj : j ≤ lastUnit := by
      by_contra hlarge
      exact absurd (hnm ▸ limit_le_units (by omega) (by omega)) (Nat.not_le.mpr h)
    have he : (j : Int) - 1074 ≤ 971 := by
      rw [lastUnit_eq] at hj
      omega
    have hcanonical : IsCanonical (.finite s n (j - 1074) hn0) := ⟨hn, by omega, by omega⟩
    have hunpack : (Float.ofModel (.pack (.finite s n (j - 1074) hn0))).toModel.unpack =
        .finite s n (j - 1074) hn0 := unpack_pack hcanonical he
    have hfinite := isFinite_pack (s := s) hn0 he
    refine ⟨_, hfinite, ?_⟩
    rw [scaled_eq_units (isNaN_isInf_of_isFinite hfinite).1, hunpack, units, Int.sub_add_cancel,
      Int.toNat_natCast, hnm]

theorem exists_scaled_nat {n : Nat} (hn : n < 2 ^ 53) :
    ∃ x : Float, x.isFinite = true ∧ scaled x = n := by
  have hlimit : n * 2 ^ 0 < limit :=
    Nat.mul_lt_mul_of_lt_of_le hn (Nat.pow_le_pow_right (by decide) (Nat.zero_le lastUnit))
      (Nat.two_pow_pos lastUnit)
  obtain ⟨x, hx, hscaled⟩ := exists_scaled .positive hn hlimit
  exact ⟨x, hx, by rw [hscaled, Nat.pow_zero, Nat.mul_one]; rfl⟩

theorem exists_scaled_neg {x : Float} (hx : x.isFinite = true) :
    ∃ y : Float, y.isFinite = true ∧ scaled y = -scaled x := by
  have hlt := (isFinite_iff (isNaN_isInf_of_isFinite hx).1).mp hx
  obtain ⟨m, k, hm, hmk⟩ := exists_digits hx
  rw [hmk] at hlt
  rcases le_total 0 (scaled x) with h | h
  · obtain ⟨y, hy, hscaled⟩ := exists_scaled .negative hm hlt
    exact ⟨y, hy, by rw [hscaled, Sign.apply, ← hmk]; omega⟩
  · obtain ⟨y, hy, hscaled⟩ := exists_scaled .positive hm hlt
    exact ⟨y, hy, by rw [hscaled, Sign.apply, ← hmk]; omega⟩

theorem exists_scaled_ones {n : Nat} (hn : n < 2 ^ 53) :
    ∃ x : Float, x.isFinite = true ∧ scaled x = n * one := by
  have h (k : Nat) (hk : one = Nat.pow 2 k) (hlast : k < lastUnit) :
      ∃ x : Float, x.isFinite = true ∧ scaled x = n * one := by
    have hlt : n * 2 ^ k < limit :=
      Nat.mul_lt_mul_of_lt_of_le hn (Nat.pow_le_pow_right (by decide) hlast.le)
        (Nat.two_pow_pos lastUnit)
    obtain ⟨x, hx, hscaled⟩ := exists_scaled .positive hn hlt
    exact ⟨x, hx, by rw [hscaled, hk]; simp [Sign.apply]⟩
  exact h _ (one_eq_two_pow rfl) (by rw [lastUnit_eq]; decide)

/-! ### Doubles next to others -/

section
variable {x : Float}

theorem exists_half (hx : x.isFinite = true) (h : 2 ^ 53 ≤ scaled x) :
    ∃ z : Float, z.isFinite = true ∧ 2 * scaled z = scaled x := by
  have hlimit := (isFinite_iff (isNaN_isInf_of_isFinite hx).1).mp hx
  obtain ⟨m, k, hm, hmk⟩ := exists_digits hx
  cases k with
  | zero => omega
  | succ k =>
    rw [Nat.pow_succ, ← Nat.mul_assoc] at hmk
    obtain ⟨z, hz, hscaled⟩ := exists_scaled .positive hm (k := k) (by omega)
    refine ⟨z, hz, ?_⟩
    rw [hscaled, Sign.apply]
    omega

theorem exists_double (hx : x.isFinite = true) (h0 : 0 ≤ scaled x) (h : 2 * scaled x < limit) :
    ∃ z : Float, z.isFinite = true ∧ scaled z = 2 * scaled x := by
  obtain ⟨m, k, hm, hmk⟩ := exists_digits hx
  have hdouble : m * 2 ^ (k + 1) = 2 * (scaled x).natAbs := by
    rw [Nat.pow_succ, ← Nat.mul_assoc, ← hmk, Nat.mul_comm]
  obtain ⟨z, hz, hscaled⟩ := exists_scaled .positive hm (k := k + 1) (by omega)
  refine ⟨z, hz, ?_⟩
  rw [hscaled, Sign.apply, hdouble]
  omega

/-- Below a double that is not too large there is another one that is at most one less. -/
theorem exists_just_below (hx : x.isFinite = true) (hpos : 0 < scaled x)
    (h : scaled x ≤ 2 ^ 53 * one) :
    ∃ z : Float, z.isFinite = true ∧ scaled x - one ≤ scaled z ∧ scaled z < scaled x := by
  have hlimit := (isFinite_iff (isNaN_isInf_of_isFinite hx).1).mp hx
  obtain ⟨m, k, hm, hmk⟩ := exists_digits hx
  have hone (i : Nat) (hi : one = Nat.pow 2 i) :
      ∃ z : Float, z.isFinite = true ∧ scaled x - one ≤ scaled z ∧ scaled z < scaled x := by
    change one = 2 ^ i at hi
    have hm0 : m ≠ 0 := by
      rintro rfl
      omega
    obtain ⟨m, rfl⟩ := Nat.exists_eq_succ_of_ne_zero hm0
    by_cases hki : k ≤ i
    · -- One unit of its last digit less.
      have hunit : 2 ^ k ≤ one := hi ▸ Nat.pow_le_pow_right (by decide) hki
      have hunit0 := Nat.two_pow_pos k
      rw [Nat.succ_mul] at hmk
      obtain ⟨z, hz, hscaled⟩ := exists_scaled .positive (m := m) (k := k) (by omega) (by omega)
      refine ⟨z, hz, ?_⟩
      rw [hscaled, Sign.apply]
      omega
    · -- It is a whole number of ones.
      obtain ⟨j, rfl⟩ : ∃ j, k = j + i := ⟨k - i, by omega⟩
      have hones : (scaled x).natAbs = (m.succ * 2 ^ j) * one := by
        rw [hmk, Nat.pow_add, hi, Nat.mul_assoc]
      have hj : m.succ * 2 ^ j ≤ 2 ^ 53 := by
        have h' : (m.succ * 2 ^ j) * one ≤ 2 ^ 53 * one := by
          rw [← hones]
          have : ((2 ^ 53 * one : Nat) : Int) = 2 ^ 53 * one := by push_cast; rfl
          omega
        exact Nat.le_of_mul_le_mul_right h' (hi ▸ Nat.two_pow_pos i)
      have hj0 : 0 < m.succ * 2 ^ j := Nat.mul_pos (Nat.succ_pos m) (Nat.two_pow_pos j)
      obtain ⟨z, hz, hscaled⟩ := exists_scaled_ones (n := m.succ * 2 ^ j - 1) (by omega)
      have hprev : (scaled x).natAbs = (m.succ * 2 ^ j - 1) * one + one := by
        rw [hones, Nat.sub_mul, Nat.one_mul, Nat.sub_add_cancel]
        exact Nat.le_mul_of_pos_left _ hj0
      have hpos1 : 0 < one := hi ▸ Nat.two_pow_pos i
      refine ⟨z, hz, ?_⟩
      rw [hscaled, ← Int.natCast_mul]
      omega
  exact hone _ (one_eq_two_pow rfl)

end

end ChartText.Binary64
