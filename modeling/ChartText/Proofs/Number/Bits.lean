import ChartText.Proofs.Number.Order

/-! # Doubles from their bits

The bits of a double hold its sign, its significand and its unit. A place on the line has one
significand and one unit (`canonical_unique`), so a double is known by its sign and its place
(`eq_of_magnitude`). `compose` puts a double together from a significand and a unit, and it is the
one at their place, or an infinity if that is too far out (`compose_spec`). -/

namespace ChartText.Binary64
open Float.Model UnpackedFloat

/-! ### Significands and units -/

section
variable {m n j k : Nat}

theorem place_lt_of_unit_lt (hm : m < 2 ^ 53) (hn : 2 ^ 52 ≤ n ∨ k = 0) (hjk : j < k) :
    m * 2 ^ j < n * 2 ^ k := by
  have hn' : 2 ^ 52 ≤ n := hn.resolve_right (by omega)
  calc m * 2 ^ j < 2 ^ 53 * 2 ^ j := Nat.mul_lt_mul_of_pos_right hm (Nat.two_pow_pos j)
    _ = 2 ^ 52 * 2 ^ (j + 1) := by rw [Nat.pow_succ 2 j]; ring
    _ ≤ n * 2 ^ k := Nat.mul_le_mul hn' (Nat.pow_le_pow_right (by decide) hjk)

theorem canonical_unique (hm : m < 2 ^ 53) (hn : n < 2 ^ 53) (hmj : 2 ^ 52 ≤ m ∨ j = 0)
    (hnk : 2 ^ 52 ≤ n ∨ k = 0) (h : m * 2 ^ j = n * 2 ^ k) : m = n ∧ j = k := by
  rcases lt_trichotomy j k with hjk | rfl | hjk
  · exact absurd h (Nat.ne_of_lt (place_lt_of_unit_lt hm hnk hjk))
  · exact ⟨Nat.eq_of_mul_eq_mul_right (Nat.two_pow_pos j) h, rfl⟩
  · exact absurd h.symm (Nat.ne_of_lt (place_lt_of_unit_lt hn hmj hjk))

end

section
variable (x : Float)

theorem fractionField_lt : fractionField x < 2 ^ 52 :=
  Nat.mod_lt _ (Nat.two_pow_pos 52)

theorem significand_lt : significand x < 2 ^ 53 := by
  have := fractionField_lt x
  have h52 : Nat.pow 2 52 = 2 ^ 52 := rfl
  unfold significand
  split <;> omega

theorem significand_full : 2 ^ 52 ≤ significand x ∨ unitExponent x = 0 := by
  unfold significand unitExponent
  split
  · next h => exact .inr (by rw [h])
  · exact .inl (Nat.le_add_right _ _)

theorem magnitude_eq : magnitude x = significand x * 2 ^ unitExponent x := rfl

theorem toNat_toBits :
    x.toBits.toNat = (if isNegative x then 2 ^ 63 else 0) + exponentField x * 2 ^ 52 +
      fractionField x := by
  have hlt := x.toBits.toNat_lt
  have h63 : Nat.pow 2 63 = 2 ^ 63 := rfl
  have h52 : Nat.pow 2 52 = 2 ^ 52 := rfl
  have h11 : Nat.pow 2 11 = 2 ^ 11 := rfl
  simp only [isNegative, exponentField, fractionField, h63, h52, h11, decide_eq_true_eq]
  split <;> omega

theorem natAbs_scaled : (scaled x).natAbs = magnitude x := by
  unfold scaled
  split
  · rw [Int.natAbs_neg, Int.natAbs_natCast]
  · rw [Int.natAbs_natCast]

end

section
variable {x y : Float}

theorem fields_eq (h : magnitude x = magnitude y) :
    significand x = significand y ∧ unitExponent x = unitExponent y :=
  canonical_unique (significand_lt x) (significand_lt y) (significand_full x) (significand_full y) h

/-- A double is known by its sign and its place. -/
theorem eq_of_magnitude (hsign : isNegative x = isNegative y) (h : magnitude x = magnitude y) :
    x = y := by
  obtain ⟨hsignificand, hunit⟩ := fields_eq h
  have hx := fractionField_lt x
  have hy := fractionField_lt y
  have h52 : Nat.pow 2 52 = 2 ^ 52 := rfl
  have hfields : exponentField x = exponentField y ∧ fractionField x = fractionField y := by
    simp only [significand, unitExponent, h52] at hsignificand hunit
    split at hsignificand <;> split at hsignificand <;> omega
  rw [← Float.toBits_inj, ← UInt64.toNat_inj, toNat_toBits, toNat_toBits, hsign, hfields.1, hfields.2]

/-- No double is past the infinities. -/
theorem magnitude_le_limit (hx : x.isNaN = false) : magnitude x ≤ limit := by
  rw [← natAbs_scaled, scaled_eq_units hx]
  rcases unpack_cases hx with ⟨s, h⟩ | ⟨s, h⟩ | ⟨s, m, e, hm, h⟩
  · rw [h]
    exact (natAbs_apply s limit).le
  · rw [h]
    exact Nat.zero_le _
  · obtain ⟨n, -, hn, hunits⟩ := units_finite h
    rw [h, hunits, natAbs_apply]
    exact hn.le

end

/-! ### Bits that were put together -/

theorem unpackMantissa_eq_zero {w : UInt64} (hw : w.toNat % 2 ^ 63 ≤ 2047 * 2 ^ 52)
    (hfull : @unpackExponent .binary64 w.toBitVec = -1#_) :
    @unpackMantissa .binary64 w.toBitVec = 0#_ := by
  have hexponent := congrArg BitVec.toNat hfull
  simp [unpackExponent, Nat.shiftRight_eq_div_pow] at hexponent
  refine BitVec.eq_of_toNat_eq ?_
  simp [unpackMantissa]
  omega

theorem toBits_ofBits {w : UInt64} (hw : w.toNat % 2 ^ 63 ≤ 2047 * 2 ^ 52) :
    (Float.ofBits w).toBits = w := by
  have hnan : @isNaNBits .binary64 w.toBitVec = false :=
    decide_eq_false fun h => h.2 (unpackMantissa_eq_zero hw h.1)
  have hpack := @pack_unpack .binary64 w.toBitVec
  rw [hnan] at hpack
  exact congrArg UInt64.ofBitVec (hpack (by decide))

theorem isNaN_ofBits {w : UInt64} (hw : w.toNat % 2 ^ 63 ≤ 2047 * 2 ^ 52) :
    (Float.ofBits w).isNaN = false := by
  change (UnpackedFloat.unpack .binary64 (Float.ofBits w).toBits.toBitVec).isNaN = false
  rw [toBits_ofBits hw]
  unfold UnpackedFloat.unpack
  dsimp only
  split
  · next hfull =>
    rw [if_pos (unpackMantissa_eq_zero hw hfull)]
    rfl
  · split
    · split <;> rfl
    · rfl

/-- What the bits of a double stand for, up to those of the infinities. -/
def placeOf (word : Nat) : Nat :=
  if word < 2 ^ 52 then word else (2 ^ 52 + word % 2 ^ 52) * 2 ^ (word / 2 ^ 52 - 1)

theorem magnitude_ofBits {sign : Bool} {word : Nat} (hword : word ≤ 2047 * 2 ^ 52) {w : UInt64}
    (hw : w.toNat = (if sign then 2 ^ 63 else 0) + word) :
    isNegative (Float.ofBits w) = sign ∧ magnitude (Float.ofBits w) = placeOf word := by
  have hbits : (Float.ofBits w).toBits = w := toBits_ofBits (by rw [hw]; split <;> omega)
  have h63 : Nat.pow 2 63 = 2 ^ 63 := rfl
  have h52 : Nat.pow 2 52 = 2 ^ 52 := rfl
  have h11 : Nat.pow 2 11 = 2 ^ 11 := rfl
  constructor
  · rw [isNegative, hbits, hw, h63]
    cases sign
    · simp
      omega
    · simp
  · have hexponent : exponentField (Float.ofBits w) = word / 2 ^ 52 := by
      rw [exponentField, hbits, hw, h52, h11]
      split <;> omega
    have hfraction : fractionField (Float.ofBits w) = word % 2 ^ 52 := by
      rw [fractionField, hbits, hw, h52]
      split <;> omega
    rw [magnitude_eq, significand, unitExponent, hexponent, hfraction, placeOf, h52]
    by_cases hsmall : word < 2 ^ 52
    · have hdiv : word / 2 ^ 52 = 0 := Nat.div_eq_of_lt hsmall
      rw [if_pos hsmall, hdiv, if_pos rfl, Nat.mod_eq_of_lt hsmall, Nat.zero_sub, Nat.pow_zero,
        Nat.mul_one]
    · rw [if_neg hsmall, if_neg (by omega)]

theorem placeOf_add {u f : Nat} (hf : f < 2 ^ 52) :
    placeOf ((u + 1) * 2 ^ 52 + f) = (2 ^ 52 + f) * 2 ^ u := by
  have hdiv : ((u + 1) * 2 ^ 52 + f) / 2 ^ 52 = u + 1 := by omega
  have hmod : ((u + 1) * 2 ^ 52 + f) % 2 ^ 52 = f := by omega
  rw [placeOf, if_neg (by omega), hdiv, hmod, Nat.add_sub_cancel]

theorem limit_eq_succ : limit = 2 ^ 52 * 2 ^ (lastUnit + 1) := by
  rw [limit, Nat.pow_succ 2 lastUnit]
  ring

theorem placeOf_infinity : placeOf (2047 * 2 ^ 52) = limit := by
  have hword : 2047 * 2 ^ 52 = (lastUnit + 1 + 1) * 2 ^ 52 + 0 := by
    have := lastUnit_eq
    omega
  rw [hword, placeOf_add (Nat.two_pow_pos 52), Nat.add_zero, limit_eq_succ]

section
variable {n u : Nat}

/-- A significand and a unit side by side. -/
def wordOf (n u : Nat) : Nat :=
  if n < 2 ^ 52 then n else if n < 2 ^ 53 then (u + 1) * 2 ^ 52 + (n - 2 ^ 52) else (u + 2) * 2 ^ 52

theorem compose_eq (negative : Bool) (n u : Nat) :
    compose negative n u = Float.ofBits
      (UInt64.ofNat ((if negative then 2 ^ 63 else 0) + min (wordOf n u) (2047 * 2 ^ 52))) := rfl

theorem placeOf_wordOf (hn : n ≤ 2 ^ 53) (hu : 2 ^ 52 ≤ n ∨ u = 0) :
    placeOf (wordOf n u) = n * 2 ^ u := by
  unfold wordOf
  split
  · next hsmall =>
    obtain rfl : u = 0 := hu.resolve_left (by omega)
    rw [placeOf, if_pos hsmall, Nat.pow_zero, Nat.mul_one]
  · next hsmall =>
    split
    · next hfull =>
      rw [placeOf_add (by omega), Nat.add_sub_cancel' (Nat.not_lt.mp hsmall)]
    · next hfull =>
      -- one digit more is a zero of the next unit
      obtain rfl : n = 2 ^ 53 := by omega
      rw [← Nat.add_zero ((u + 2) * 2 ^ 52), placeOf_add (Nat.two_pow_pos 52), Nat.pow_succ 2 u]
      ring

theorem le_wordOf (hfull : 2 ^ 52 ≤ n) (hu : lastUnit < u) : 2047 * 2 ^ 52 ≤ wordOf n u := by
  have hlast := lastUnit_eq
  unfold wordOf
  rw [if_neg (Nat.not_lt.mpr hfull)]
  split <;> omega

theorem placeOf_min_wordOf (hn : n ≤ 2 ^ 53) (hu : 2 ^ 52 ≤ n ∨ u = 0) :
    placeOf (min (wordOf n u) (2047 * 2 ^ 52)) = min (n * 2 ^ u) limit := by
  have hlast := lastUnit_eq
  by_cases hlarge : u ≤ lastUnit
  · have hword : wordOf n u ≤ 2047 * 2 ^ 52 := by
      unfold wordOf
      split
      · omega
      · split <;> omega
    have hplace : n * 2 ^ u ≤ limit := Nat.mul_le_mul hn (Nat.pow_le_pow_right (by decide) hlarge)
    rw [Nat.min_eq_left hword, placeOf_wordOf hn hu, Nat.min_eq_left hplace]
  · have hfull : 2 ^ 52 ≤ n := hu.resolve_right (by omega)
    have hplace : limit ≤ n * 2 ^ u := limit_le_units hfull (by omega)
    rw [Nat.min_eq_right (le_wordOf hfull (by omega)), placeOf_infinity, Nat.min_eq_right hplace]

theorem compose_spec (negative : Bool) (hn : n ≤ 2 ^ 53) (hu : 2 ^ 52 ≤ n ∨ u = 0) :
    (compose negative n u).isNaN = false ∧ isNegative (compose negative n u) = negative ∧
      magnitude (compose negative n u) = min (n * 2 ^ u) limit := by
  have hword : min (wordOf n u) (2047 * 2 ^ 52) ≤ 2047 * 2 ^ 52 := Nat.min_le_right _ _
  rw [compose_eq, ← placeOf_min_wordOf hn hu]
  generalize min (wordOf n u) (2047 * 2 ^ 52) = word at hword ⊢
  have hw : (UInt64.ofNat ((if negative then 2 ^ 63 else 0) + word)).toNat =
      (if negative then 2 ^ 63 else 0) + word := by
    refine UInt64.toNat_ofNat_of_lt ?_
    rw [UInt64.size]
    split <;> omega
  obtain ⟨hsign, hplace⟩ := magnitude_ofBits hword hw
  exact ⟨isNaN_ofBits (by rw [hw]; split <;> omega), hsign, hplace⟩

end

end ChartText.Binary64
