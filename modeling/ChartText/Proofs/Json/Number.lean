import ChartText.Json.Number
import ChartText.Proofs.Number.Finite

/-! # Numbers that were read are finite

A significand below `2 ^ 64` is finite, a product that is too large is refused, and a division makes
no number larger. -/

namespace ChartText.Json
open Binary64

theorem absorb_lt {n : Nat} (hn : n < Nat.pow 2 64) (digits : List Char) :
    (absorb n digits).1 < Nat.pow 2 64 := by
  induction digits generalizing n with
  | nil => exact hn
  | cons d rest ih =>
    rw [absorb]
    split
    · next h => exact ih h
    · exact hn

/-! ### Powers of ten -/

/-- The unit of `10 ^ n`, by the ratio of the logarithms of ten and two. -/
def tenPowerUnit (n : Nat) : Nat :=
  1022 + n * 3321928 / 1000000

theorem tenPowerUnit_spec : (List.range (maxPower + 1)).all (fun n =>
    2 ^ (tenPowerUnit n + 52) ≤ 10 ^ n * one && 10 ^ n * one < 2 ^ (tenPowerUnit n + 53)) = true := by
  decide +kernel

theorem compose_tenPowerUnit_spec : (List.range (maxPower + 1)).all (fun n =>
    let x := compose false (roundHalfEven (10 ^ n * one) (2 ^ tenPowerUnit n)) (tenPowerUnit n)
    x.isFinite && (n == 0 || reachesTwo x)) = true := by
  decide +kernel

theorem unitFor_eq {n u : Nat} (hl : 2 ^ (u + 52) ≤ n) (hu : n < 2 ^ (u + 53)) :
    unitFor n = u := by
  have hn : n ≠ 0 := Nat.ne_of_gt (Nat.lt_of_lt_of_le (Nat.two_pow_pos _) hl)
  rw [unitFor, (Nat.log2_eq_iff hn).mpr ⟨hl, hu⟩, Nat.add_sub_cancel]

theorem tenPower_eq {n : Nat} (hn : n ≤ maxPower) :
    tenPower n =
      compose false (roundHalfEven (10 ^ n * one) (2 ^ tenPowerUnit n)) (tenPowerUnit n) := by
  have hunit := List.all_eq_true.mp tenPowerUnit_spec n (List.mem_range.mpr (Nat.lt_succ_of_le hn))
  simp only [Bool.and_eq_true, decide_eq_true_eq] at hunit
  have hcount : Decimal.digitCount 1 = 1 := by decide
  unfold maxPower at hn
  unfold tenPower Decimal.toFloat
  dsimp only
  rw [hcount, if_neg (by simp; omega), if_neg (by omega), Decimal.tenPower,
    if_pos (Int.natCast_nonneg n)]
  have hunit' : unitFor (1 * 10 ^ n * one / 1) = tenPowerUnit n := by
    rw [Nat.one_mul, Nat.div_one, unitFor_eq hunit.1 hunit.2]
  change compose false (roundHalfEven (1 * 10 ^ n * one) (1 * 2 ^ unitFor (1 * 10 ^ n * one / 1)))
    (unitFor (1 * 10 ^ n * one / 1)) = _
  rw [hunit', Nat.one_mul, Nat.one_mul]

theorem tenPower_spec {n : Nat} (hn : n ≤ maxPower) :
    (tenPower n).isFinite = true ∧ (0 < n → reachesTwo (tenPower n) = true) := by
  have h := List.all_eq_true.mp compose_tenPowerUnit_spec n
    (List.mem_range.mpr (Nat.lt_succ_of_le hn))
  rw [tenPower_eq hn]
  simp only [Bool.and_eq_true, Bool.or_eq_true, beq_iff_eq] at h
  exact ⟨h.1, fun hpos => h.2.resolve_left (Nat.ne_of_gt hpos)⟩

/-! ### Scaling -/

theorem isFinite_of_scale? {x y : Float} {e : Int} (hx : x.isFinite = true)
    (h : scale? x e = some y) : y.isFinite = true := by
  fun_induction scale? x e with
  | case1 x e he hmax z hinf => cases h
  | case2 x e he hmax z hinf =>
    obtain rfl := Option.some.inj h
    exact isFinite_mul hx (tenPower_spec (by omega)).1 (by simpa using hinf)
  | case3 x e he hmax hzero =>
    cases h
    exact hx
  | case4 x e he hmax hzero => cases h
  | case5 x e he hmin =>
    cases h
    exact isFinite_div hx ((tenPower_spec (by omega)).2 (by omega))
  | case6 x e he hmin hzero =>
    cases h
    exact hx
  | case7 x e he hmin hzero ih =>
    exact ih (isFinite_div hx ((tenPower_spec (Nat.le_refl _)).2 (by decide))) h

theorem isFinite_of_floatOfLiteral? {literal : List Char} {x : Float}
    (h : floatOfLiteral? literal = some x) : x.isFinite = true := by
  simp only [floatOfLiteral?, Option.bind_eq_bind, Option.bind_eq_some_iff, Option.pure_def,
    Option.some.injEq] at h
  obtain ⟨e, -, y, hy, rfl⟩ := h
  have hn := absorb_lt (absorb_lt (Nat.two_pow_pos 64)
    ((Literal.splitSign literal).2.takeWhile Char.isDigit))
    (Literal.splitFraction ((Literal.splitSign literal).2.dropWhile Char.isDigit)).1
  have hfinite := isFinite_of_scale? (isFinite_ofNat hn) hy
  split
  · exact isFinite_neg hfinite
  · exact hfinite

end ChartText.Json
