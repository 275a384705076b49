import ChartText.Number.Shortest

/-! # Coefficients of shortest decimals

The reals that round to a double other than zero are positive, and so is every decimal among them. So
the shortest decimal of such a double does not begin with a zero. -/

namespace ChartText.Decimal
open Binary64

theorem coefficient_dropZeros_pos {d : Decimal} (hd : 0 < d.coefficient) (fuel : Nat) :
    0 < (dropZeros fuel d).coefficient := by
  induction fuel generalizing d with
  | zero => exact hd
  | succ fuel ih =>
    rw [dropZeros]
    split
    · exact ih (by change 0 < d.coefficient / 10; omega)
    · exact hd

theorem Interval.lower_pos {x : Float} (hx : 0 < significand x) :
    0 < (Interval.ofFloat x).lower := by
  have hunit : 0 < Nat.pow 2 (unitExponent x) := Nat.two_pow_pos _
  have hvalue : 4 * Nat.pow 2 (unitExponent x) ≤ 4 * significand x * Nat.pow 2 (unitExponent x) :=
    Nat.mul_le_mul_right _ (by omega)
  simp only [Interval.ofFloat]
  split <;> omega

theorem Interval.contains_pos {i : Interval} {num den : Nat} (hi : 0 < i.lower) (hden : 0 < den)
    (h : i.contains num den = true) : 0 < num := by
  have hlower : 0 < i.lower * den := Nat.mul_pos hi hden
  rw [Nat.pos_iff_ne_zero]
  rintro rfl
  unfold contains at h
  split at h
  · simp at h
    omega
  · simp at h

theorem tenPower_snd_pos (e : Int) : 0 < (tenPower e).2 := by
  unfold tenPower
  split
  · exact Nat.one_pos
  · exact Nat.pow_pos (by decide)

theorem coefficient_candidate?_pos {tie : Tie} {i : Interval} {e : Int} {d : Decimal}
    (hi : 0 < i.lower) (h : candidate? tie i e = some d) : 0 < d.coefficient := by
  unfold candidate? at h
  dsimp only at h
  split at h
  · next hin =>
    obtain rfl := Option.some.inj h
    simp only [Bool.and_eq_true] at hin
    have hlow := (Interval.contains_pos hi (tenPower_snd_pos e) hin.1)
    exact Nat.pos_of_mul_pos_right hlow
  · split at h
    · obtain rfl := Option.some.inj h
      exact Nat.succ_pos _
    · cases h

theorem coefficient_shortest {x : Float} (hx : 0 < significand x) (tie : Tie) :
    0 < (shortest tie x).coefficient ∨ shortest tie x = ⟨0, 18⟩ := by
  unfold shortest
  dsimp only
  cases hfound : (List.range maxDigits).findSome? fun n =>
      candidate? tie (Interval.ofFloat x) ((Interval.ofFloat x).point - (n + 1 : Nat)) with
  | none => exact .inr (by decide)
  | some d =>
    obtain ⟨n, -, hn⟩ := List.exists_of_findSome?_eq_some hfound
    exact .inl (coefficient_dropZeros_pos (coefficient_candidate?_pos (Interval.lower_pos hx) hn) _)

end ChartText.Decimal
