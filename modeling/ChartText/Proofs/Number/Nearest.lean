import ChartText.Proofs.Number.Bits
import ChartText.Proofs.Number.Exact

/-! # The nearest double

`IsNearest v x` is rounding to the nearest double as IEEE 754 has it: no double is nearer to `v` than
`x`, and if another one is as near, the significand of `x` is even. The infinities take part in this
at the place where the next finite double would be. `nearest` finds that double
(`isNearest_nearest`), and there is only one with a given sign (`IsNearest.eq_of_isNegative`). -/

namespace ChartText.Binary64
open Float.Model UnpackedFloat

/-- The double is the rational number, rounded to nearest with ties to even. -/
structure IsNearest (v : ℚ) (x : Float) : Prop where
  isNaN : x.isNaN = false
  nearest : ∀ y : Float, y.isNaN = false → |toRat x - v| ≤ |toRat y - v|
  even : ∀ y : Float, y.isNaN = false → |toRat y - v| = |toRat x - v| → toRat y ≠ toRat x →
    significand x % 2 = 0

/-! ### Rounding to whole numbers -/

/-- The whole number is the rational number, rounded with halves to even. -/
structure IsHalfEven (p : ℚ) (n : Nat) : Prop where
  near : |(n : ℚ) - p| ≤ 1 / 2
  even : |(n : ℚ) - p| = 1 / 2 → n % 2 = 0

theorem isHalfEven_roundHalfEven (num : Nat) {den : Nat} (hden : 0 < den) :
    IsHalfEven (num / den) (roundHalfEven num den) := by
  have hden' : (0 : ℚ) < den := by exact_mod_cast hden
  unfold roundHalfEven
  dsimp only
  have hdiv := Nat.div_add_mod' num den
  have hlt := Nat.mod_lt num hden
  generalize num / den = q at hdiv ⊢
  generalize num % den = r at hdiv hlt ⊢
  have hp : (num : ℚ) / den = q + r / den := by
    rw [div_eq_iff hden'.ne', add_mul, div_mul_cancel₀ _ hden'.ne']
    exact_mod_cast hdiv.symm
  rw [hp]
  split
  · next h =>
    simp only [Bool.or_eq_true, decide_eq_true_eq, Bool.and_eq_true, beq_iff_eq] at h
    have hle : (r : ℚ) / den ≤ 1 / 2 := by
      rw [div_le_div_iff₀ hden' two_pos]
      exact_mod_cast (show r * 2 ≤ 1 * den by omega)
    have habs : |(q : ℚ) - (q + r / den)| = r / den := by
      rw [sub_add_cancel_left, abs_neg, abs_of_nonneg (by positivity)]
    refine ⟨habs.le.trans hle, fun htie => ?_⟩
    rw [habs, div_eq_div_iff hden'.ne' two_ne_zero] at htie
    have : r * 2 = 1 * den := by exact_mod_cast htie
    omega
  · next h =>
    simp only [Bool.or_eq_true, decide_eq_true_eq, Bool.and_eq_true, beq_iff_eq] at h
    have hge : 1 / 2 ≤ (r : ℚ) / den := by
      rw [div_le_div_iff₀ two_pos hden']
      exact_mod_cast (show 1 * den ≤ r * 2 by omega)
    have hle : (r : ℚ) / den ≤ 1 := by
      rw [div_le_one hden']
      exact_mod_cast hlt.le
    have habs : |((q + 1 : Nat) : ℚ) - (q + r / den)| = 1 - r / den := by
      rw [Nat.cast_add, Nat.cast_one, add_sub_add_left_eq_sub, abs_of_nonneg (by linarith)]
    refine ⟨by rw [habs]; linarith, fun htie => ?_⟩
    rw [habs] at htie
    have hhalf : (r : ℚ) / den = 1 / 2 := by linarith
    rw [div_eq_div_iff hden'.ne' two_ne_zero] at hhalf
    have : r * 2 = 1 * den := by exact_mod_cast hhalf
    omega

namespace IsHalfEven
variable {p : ℚ} {n c : Nat}

theorem one_le_abs_sub (hne : c ≠ n) : (1 : ℚ) ≤ |(c : ℚ) - n| := by
  have h : (1 : ℤ) ≤ |(c : ℤ) - n| := Int.one_le_abs (by omega)
  exact_mod_cast h

theorem abs_le_abs (h : IsHalfEven p n) (c : Nat) : |(n : ℚ) - p| ≤ |(c : ℚ) - p| := by
  by_cases hne : c = n
  · rw [hne]
  · have hone := one_le_abs_sub hne
    have htriangle := abs_sub_le (c : ℚ) p n
    rw [abs_sub_comm p n] at htriangle
    linarith [h.near]

/-- If another whole number is as near, it is a neighbour, and of the two the even one was taken. -/
theorem of_tie (h : IsHalfEven p n) (hc : |(c : ℚ) - p| = |(n : ℚ) - p|) (hne : c ≠ n) :
    n % 2 = 0 ∧ c % 2 = 1 ∧ |(c : ℚ) - p| = 1 / 2 := by
  have hone := one_le_abs_sub hne
  have htriangle := abs_sub_le (c : ℚ) p n
  rw [abs_sub_comm p n, hc] at htriangle
  have hhalf : |(n : ℚ) - p| = 1 / 2 := le_antisymm h.near (by linarith)
  have heven := h.even hhalf
  have hnext : |(c : ℤ) - n| = 1 := by
    have hle : |(c : ℚ) - n| ≤ 1 := by linarith
    have : |(c : ℤ) - n| ≤ 1 := by exact_mod_cast hle
    have : 1 ≤ |(c : ℤ) - n| := Int.one_le_abs (by omega)
    omega
  refine ⟨heven, ?_, hc.trans hhalf⟩
  rcases abs_cases ((c : ℤ) - n) with ⟨heq, -⟩ | ⟨heq, -⟩ <;> omega

end IsHalfEven

theorem roundHalfEven_cases (num den : Nat) :
    roundHalfEven num den = num / den ∨
      roundHalfEven num den = num / den + 1 ∧ num % den ≠ 0 ∨ den = 0 := by
  unfold roundHalfEven
  dsimp only
  split
  · exact .inl rfl
  · next h =>
    simp only [Bool.or_eq_true, decide_eq_true_eq, Bool.and_eq_true, beq_iff_eq] at h
    omega

/-- The unit is the one in which the whole part has 53 digits, or the least one. -/
theorem cut_roundHalfEven (num : Nat) {den : Nat} (hden : 0 < den) :
    let u := unitFor (num / den)
    Cut (num / (den * 2 ^ u : Nat)) (num / (den * 2 ^ u)) (roundHalfEven num (den * 2 ^ u)) u := by
  intro u
  have hd : 0 < den * 2 ^ u := Nat.mul_pos hden (Nat.two_pow_pos u)
  have hd' : (0 : ℚ) < (den * 2 ^ u : Nat) := by exact_mod_cast hd
  have hdiv := Nat.div_add_mod' num (den * 2 ^ u)
  have hlt := Nat.mod_lt num hd
  have hlow : num / (den * 2 ^ u) = num / den / 2 ^ u := (Nat.div_div_eq_div_mul _ _ _).symm
  have hcases := roundHalfEven_cases num (den * 2 ^ u)
  refine ⟨?_, ?_, by omega, by omega, ?_, ?_, ?_⟩
  · rw [le_div_iff₀ hd']
    exact_mod_cast Nat.div_mul_le_self num (den * 2 ^ u)
  · rw [div_lt_iff₀ hd']
    exact_mod_cast (show num < (num / (den * 2 ^ u) + 1) * (den * 2 ^ u) by
      rw [Nat.add_mul]
      omega)
  · rcases hcases with h | ⟨-, h⟩ | h
    · exact .inl h
    · right
      rw [lt_div_iff₀ hd']
      exact_mod_cast (show num / (den * 2 ^ u) * (den * 2 ^ u) < num by omega)
    · omega
  · rw [hlow]
    exact div_two_pow_lt (by simp only [u, unitFor]; omega)
  · rw [hlow]
    by_cases hlog : 52 ≤ (num / den).log2
    · exact .inl (two_pow_le_div hlog rfl)
    · exact .inr (by simp only [u, unitFor]; omega)

/-! ### Places -/

section
variable {p : ℚ} {low n u m j : Nat}

theorem abs_place_sub (n u : Nat) (p : ℚ) :
    |((n * 2 ^ u : Nat) : ℚ) - p * 2 ^ u| = |(n : ℚ) - p| * 2 ^ u := by
  push_cast
  rw [← sub_mul, abs_mul, abs_of_pos (by positivity : (0 : ℚ) < 2 ^ u)]

/-- The rounded place is as near as any other one. One that is as near is odd, where the rounded one
is even. -/
theorem Cut.place_near (hcut : Cut p low n u) (hhalf : IsHalfEven p n)
    (hm : m < 2 ^ 53) (hfull : 2 ^ 52 ≤ m ∨ j = 0) :
    |((n * 2 ^ u : Nat) : ℚ) - p * 2 ^ u| ≤ |((m * 2 ^ j : Nat) : ℚ) - p * 2 ^ u| ∧
      (|((m * 2 ^ j : Nat) : ℚ) - p * 2 ^ u| = |((n * 2 ^ u : Nat) : ℚ) - p * 2 ^ u| →
        m * 2 ^ j ≠ n * 2 ^ u → m % 2 = 1 ∧ n % 2 = 0) := by
  have hpos : (0 : ℚ) < 2 ^ u := by positivity
  rcases hcut.cases hm (j := j) with ⟨c, hc⟩ | hbelow
  · rw [hc, abs_place_sub, abs_place_sub]
    refine ⟨mul_le_mul_of_nonneg_right (hhalf.abs_le_abs c) hpos.le, fun htie hne => ?_⟩
    obtain ⟨heven, hodd, hnear⟩ :=
      hhalf.of_tie (mul_right_cancel₀ hpos.ne' htie) fun h => hne (h ▸ rfl)
    -- the odd neighbour has 53 digits too
    obtain ⟨hbelow, habove⟩ := abs_le.mp hnear.le
    have hlow : low < c + 1 := by
      have : (low : ℚ) < c + 1 := by linarith [hcut.low_le]
      exact_mod_cast this
    have hhigh : c < low + 2 := by
      have : (c : ℚ) < low + 2 := by linarith [hcut.lt_succ]
      exact_mod_cast this
    have hlt := hcut.low_lt
    have hdigits := hcut.digits
    obtain ⟨rfl, -⟩ := canonical_unique hm (by omega : c < 2 ^ 53) hfull (by omega) hc
    exact ⟨hodd, heven⟩
  · have hlow : ((m * 2 ^ j : Nat) : ℚ) < low * 2 ^ u := by exact_mod_cast hbelow
    have hle : (low : ℚ) * 2 ^ u ≤ p * 2 ^ u := mul_le_mul_of_nonneg_right hcut.low_le hpos.le
    have hnear : |((n * 2 ^ u : Nat) : ℚ) - p * 2 ^ u| ≤ p * 2 ^ u - low * 2 ^ u := by
      have h := mul_le_mul_of_nonneg_right (hhalf.abs_le_abs low) hpos.le
      rwa [← abs_place_sub, ← abs_place_sub, abs_sub_comm ((low * 2 ^ u : Nat) : ℚ), Nat.cast_mul low,
        Nat.cast_pow, Nat.cast_two, abs_of_nonneg (sub_nonneg.mpr hle)] at h
    have hfar : |((m * 2 ^ j : Nat) : ℚ) - p * 2 ^ u| = p * 2 ^ u - (m * 2 ^ j : Nat) := by
      rw [abs_sub_comm, abs_of_pos (by linarith)]
    rw [hfar]
    exact ⟨by linarith, fun htie => absurd htie (by linarith)⟩

theorem Cut.limited_near (hcut : Cut p low n u) (hhalf : IsHalfEven p n) (hm : m < 2 ^ 53)
    (hfull : 2 ^ 52 ≤ m ∨ j = 0) (hlimit : m * 2 ^ j ≤ limit) :
    |((min (n * 2 ^ u) limit : Nat) : ℚ) - p * 2 ^ u| ≤ |((m * 2 ^ j : Nat) : ℚ) - p * 2 ^ u| ∧
      (|((m * 2 ^ j : Nat) : ℚ) - p * 2 ^ u| =
          |((min (n * 2 ^ u) limit : Nat) : ℚ) - p * 2 ^ u| →
        m * 2 ^ j ≠ min (n * 2 ^ u) limit →
          m % 2 = 1 ∧ n % 2 = 0 ∧ min (n * 2 ^ u) limit = n * 2 ^ u) := by
  by_cases hu : u ≤ lastUnit
  · have hplace : min (n * 2 ^ u) limit = n * 2 ^ u := Nat.min_eq_left <|
      Nat.mul_le_mul (hcut.n_le.trans hcut.low_lt) (Nat.pow_le_pow_right (by decide) hu)
    rw [hplace]
    obtain ⟨hle, htie⟩ := hcut.place_near hhalf hm hfull
    exact ⟨hle, fun h hne => ⟨(htie h hne).1, (htie h hne).2, rfl⟩⟩
  · -- the number is past the limit, which is then the nearest place
    have hlow : limit ≤ low * 2 ^ u :=
      limit_le_units (hcut.digits.resolve_right (by omega)) (Nat.not_le.mp hu)
    have hplace : min (n * 2 ^ u) limit = limit := Nat.min_eq_right <|
      hlow.trans (Nat.mul_le_mul_right _ hcut.low_le_n)
    have hp : (limit : ℚ) ≤ p * 2 ^ u := by
      have h := mul_le_mul_of_nonneg_right hcut.low_le (by positivity : (0 : ℚ) ≤ 2 ^ u)
      have : (limit : ℚ) ≤ low * 2 ^ u := by exact_mod_cast hlow
      linarith
    have hm' : ((m * 2 ^ j : Nat) : ℚ) ≤ limit := by exact_mod_cast hlimit
    rw [hplace, abs_of_nonpos (by linarith), abs_of_nonpos (by linarith)]
    refine ⟨by linarith, fun h hne => absurd ?_ hne⟩
    have : ((m * 2 ^ j : Nat) : ℚ) = limit := by linarith
    exact_mod_cast this

end

/-! ### Doubles -/

/-- The rational number with a sign in front of it. -/
def withSign (negative : Bool) (v : ℚ) : ℚ :=
  if negative then -v else v

theorem abs_withSign_sub (negative : Bool) (v w : ℚ) :
    |withSign negative v - withSign negative w| = |v - w| := by
  cases negative with
  | false => rfl
  | true =>
    rw [withSign, withSign, if_pos rfl, if_pos rfl, ← abs_neg (v - w)]
    congr 1
    ring

theorem withSign_mul (negative : Bool) (v w : ℚ) :
    withSign negative (v * w) = withSign negative v * w := by
  cases negative with
  | false => rfl
  | true => exact (neg_mul v w).symm

theorem scaled_eq_withSign (x : Float) : (scaled x : ℚ) = withSign (isNegative x) (magnitude x) := by
  unfold scaled withSign
  split <;> push_cast <;> rfl

theorem abs_toRat_sub (x : Float) (v : ℚ) : |toRat x - v / one| = |(scaled x : ℚ) - v| / one := by
  rw [toRat, ← sub_div, abs_div, abs_of_pos cast_one_pos]

theorem toRat_eq_toRat_iff {x y : Float} : toRat x = toRat y ↔ scaled x = scaled y := by
  rw [toRat, toRat, div_left_inj' cast_one_pos.ne', Int.cast_inj]

theorem lt_abs_withSign {negative : Bool} {v : ℚ} (hv : 0 ≤ v) {y : Float}
    (hsign : isNegative y ≠ negative) (hy : 0 < magnitude y) :
    v < |(scaled y : ℚ) - withSign negative v| := by
  have hy' : (0 : ℚ) < magnitude y := by exact_mod_cast hy
  rw [scaled_eq_withSign]
  cases negative with
  | false =>
    rw [ne_eq, Bool.not_eq_false] at hsign
    rw [hsign, withSign, withSign, if_pos rfl, if_neg Bool.false_ne_true, abs_of_neg (by linarith)]
    linarith
  | true =>
    rw [ne_eq, Bool.not_eq_true] at hsign
    rw [hsign, withSign, withSign, if_pos rfl, if_neg Bool.false_ne_true, abs_of_pos (by linarith)]
    linarith

theorem even_significand {x : Float} {n u : Nat} (h : magnitude x = n * 2 ^ u) (hn : n ≤ 2 ^ 53)
    (hfull : 2 ^ 52 ≤ n ∨ u = 0) (heven : n % 2 = 0) : significand x % 2 = 0 := by
  rcases Nat.lt_or_eq_of_le hn with hlt | rfl
  · obtain ⟨hsignificand, -⟩ := canonical_unique (significand_lt x) hlt (significand_full x) hfull h
    rw [hsignificand, heven]
  · have h' : magnitude x = 2 ^ 52 * 2 ^ (u + 1) := by
      rw [h, Nat.pow_succ 2 u]
      ring
    obtain ⟨hsignificand, -⟩ := canonical_unique (significand_lt x) (by decide)
      (significand_full x) (.inl (le_refl _)) h'
    omega

/-- The double at the rounded place is as near as any other one. One that is as near has an odd
significand, and its own is even. -/
theorem Cut.double_near {p : ℚ} {low n u : Nat} {x y : Float} (hcut : Cut p low n u)
    (hhalf : IsHalfEven p n) (hx : magnitude x = min (n * 2 ^ u) limit) (hy : y.isNaN = false) :
    |(scaled x : ℚ) - withSign (isNegative x) (p * 2 ^ u)| ≤
        |(scaled y : ℚ) - withSign (isNegative x) (p * 2 ^ u)| ∧
      (|(scaled y : ℚ) - withSign (isNegative x) (p * 2 ^ u)| =
          |(scaled x : ℚ) - withSign (isNegative x) (p * 2 ^ u)| →
        scaled y ≠ scaled x → significand x % 2 = 0 ∧ significand y % 2 = 1) := by
  have hv : 0 ≤ p * 2 ^ u := mul_nonneg ((Nat.cast_nonneg low).trans hcut.low_le) (by positivity)
  have hxv : |(scaled x : ℚ) - withSign (isNegative x) (p * 2 ^ u)| =
      |((min (n * 2 ^ u) limit : Nat) : ℚ) - p * 2 ^ u| := by
    rw [scaled_eq_withSign, abs_withSign_sub, hx]
  rw [hxv]
  by_cases hsame : (scaled y : ℚ) = withSign (isNegative x) (magnitude y)
  · rw [hsame, abs_withSign_sub, magnitude_eq]
    obtain ⟨hle, htie⟩ := hcut.limited_near hhalf (significand_lt y) (significand_full y)
      (magnitude_le_limit hy)
    refine ⟨hle, fun h hne => ?_⟩
    have hplace : significand y * 2 ^ unitExponent y ≠ min (n * 2 ^ u) limit := by
      intro hplace
      apply hne
      have hxs := scaled_eq_withSign x
      rw [hx, ← hplace, ← magnitude_eq, ← hsame] at hxs
      exact_mod_cast hxs.symm
    obtain ⟨hodd, heven, hmin⟩ := htie h hplace
    have hfull : 2 ^ 52 ≤ n ∨ u = 0 := by
      have := hcut.low_le_n
      have := hcut.digits
      omega
    exact ⟨even_significand (hx.trans hmin) (hcut.n_le.trans hcut.low_lt) hfull heven, hodd⟩
  · have hsign : isNegative y ≠ isNegative x := fun h => hsame (h ▸ scaled_eq_withSign y)
    have hpos : 0 < magnitude y := by
      refine Nat.pos_of_ne_zero fun hzero => hsame ?_
      rw [scaled_eq_withSign, hzero]
      simp [withSign]
    have hfar := lt_abs_withSign hv hsign hpos
    have hzero := (hcut.limited_near hhalf (m := 0) (j := 0) (by decide) (.inr rfl)
      (Nat.zero_le _)).1
    rw [Nat.zero_mul, Nat.cast_zero, zero_sub, abs_neg, abs_of_nonneg hv] at hzero
    exact ⟨by linarith, fun h => absurd h (by linarith)⟩

/-- In ones instead of smallest positive doubles, the double at the rounded place is the nearest one,
and every nearest one stands there. -/
theorem Cut.isNearest {p : ℚ} {low n u : Nat} {x : Float} (hcut : Cut p low n u)
    (hhalf : IsHalfEven p n) (hx : magnitude x = min (n * 2 ^ u) limit) (hnan : x.isNaN = false) :
    IsNearest (withSign (isNegative x) (p * 2 ^ u) / one) x ∧
      ∀ y, IsNearest (withSign (isNegative x) (p * 2 ^ u) / one) y → toRat y = toRat x := by
  have hle (y : Float) (hy : y.isNaN = false) :
      |toRat x - withSign (isNegative x) (p * 2 ^ u) / one| ≤
        |toRat y - withSign (isNegative x) (p * 2 ^ u) / one| := by
    rw [abs_toRat_sub, abs_toRat_sub, div_le_div_iff_of_pos_right cast_one_pos]
    exact (hcut.double_near hhalf hx hy).1
  have htie (y : Float) (hy : y.isNaN = false)
      (h : |toRat y - withSign (isNegative x) (p * 2 ^ u) / one| =
        |toRat x - withSign (isNegative x) (p * 2 ^ u) / one|) (hne : toRat y ≠ toRat x) :
      significand x % 2 = 0 ∧ significand y % 2 = 1 := by
    rw [abs_toRat_sub, abs_toRat_sub, div_left_inj' cast_one_pos.ne'] at h
    exact (hcut.double_near hhalf hx hy).2 h fun hs => hne (toRat_eq_toRat_iff.mpr hs)
  refine ⟨⟨hnan, hle, fun y hy h hne => (htie y hy h hne).1⟩, fun y hy => ?_⟩
  by_contra hne
  have hsame := le_antisymm (hy.nearest x hnan) (hle y hy.isNaN)
  have hodd := (htie y hy.isNaN hsame hne).2
  have heven := hy.even x hnan hsame.symm fun h => hne h.symm
  omega

section
variable (negative : Bool) (num : Nat) {den : Nat} (hden : 0 < den)
include hden

theorem nearest_spec :
    (nearest negative num den).isNaN = false ∧ isNegative (nearest negative num den) = negative ∧
      ∃ p low n u, Cut p low n u ∧ IsHalfEven p n ∧ (num : ℚ) / den = p * 2 ^ u ∧
        magnitude (nearest negative num den) = min (n * 2 ^ u) limit := by
  have hcut := cut_roundHalfEven num hden
  have hhalf := isHalfEven_roundHalfEven num
    (Nat.mul_pos hden (Nat.two_pow_pos (unitFor (num / den))))
  have hfull : 2 ^ 52 ≤ roundHalfEven num (den * 2 ^ unitFor (num / den)) ∨
      unitFor (num / den) = 0 := by
    have := hcut.low_le_n
    have := hcut.digits
    omega
  obtain ⟨hnan, hsign, hplace⟩ :=
    compose_spec negative (hcut.n_le.trans hcut.low_lt) hfull
  refine ⟨hnan, hsign, _, _, _, _, hcut, hhalf, ?_, hplace⟩
  have hden' : (den : ℚ) ≠ 0 := by exact_mod_cast hden.ne'
  push_cast
  field_simp

theorem isNearest_nearest :
    IsNearest (withSign negative (num / den) / one) (nearest negative num den) ∧
      ∀ y, IsNearest (withSign negative (num / den) / one) y →
        toRat y = toRat (nearest negative num den) := by
  obtain ⟨hnan, hsign, p, low, n, u, hcut, hhalf, hvalue, hplace⟩ := nearest_spec negative num hden
  have h := hcut.isNearest hhalf hplace hnan
  rwa [hsign, ← hvalue] at h

end

/-- Every rational number is counted in smallest positive doubles. -/
theorem exists_ratio (v : ℚ) :
    ∃ (negative : Bool) (num den : Nat), 0 < den ∧ v = withSign negative (num / den) / one := by
  have habs : ((v.num.natAbs * one : Nat) : ℚ) / v.den = |v| * one := by
    rw [Nat.cast_mul, Nat.cast_natAbs, Int.cast_abs, mul_div_right_comm]
    conv => rhs; rw [← Rat.num_div_den v, abs_div, Nat.abs_cast]
  refine ⟨decide (v < 0), v.num.natAbs * one, v.den, v.den_pos, ?_⟩
  rw [habs, withSign]
  split
  · next h =>
    rw [abs_of_neg (of_decide_eq_true h), neg_mul, neg_neg, mul_div_cancel_right₀ _ cast_one_pos.ne']
  · next h =>
    rw [abs_of_nonneg (not_lt.mp fun hlt => h (decide_eq_true hlt)),
      mul_div_cancel_right₀ _ cast_one_pos.ne']

namespace IsNearest
variable {v : ℚ} {x y : Float}

theorem toRat_eq (hx : IsNearest v x) (hy : IsNearest v y) : toRat x = toRat y := by
  obtain ⟨negative, num, den, hden, rfl⟩ := exists_ratio v
  obtain ⟨-, hunique⟩ := isNearest_nearest negative num hden
  rw [hunique x hx, hunique y hy]

/-- Zeros apart there is one nearest double, and of the zeros there is one with each sign. -/
theorem eq_of_isNegative (hx : IsNearest v x) (hy : IsNearest v y)
    (hsign : isNegative x = isNegative y) : x = y := by
  refine eq_of_magnitude hsign ?_
  rw [← natAbs_scaled, ← natAbs_scaled, toRat_eq_toRat_iff.mp (hx.toRat_eq hy)]

end IsNearest

end ChartText.Binary64
