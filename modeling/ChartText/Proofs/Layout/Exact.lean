import Mathlib.Algebra.Order.Field.Basic
import Mathlib.Data.Rat.Cast.Order
import Mathlib.Tactic.NormNum
import ChartText.Layout.Slices

/-! # Layout over exact numbers

The numbers of an ordered field are a `Scalar` whose operations do not round. So the layout that is
computed with doubles can be read over the rationals, and what is proved of this reading is true of
the layout up to rounding. -/

namespace ChartText

variable {K : Type} [Field K] [LinearOrder K]

instance exactScalar : Scalar K where
  ofNat := Nat.cast
  mulAdd x y z := x * y + z
  isFinite _ := true
  decLt := inferInstance
  decLe := inferInstance

namespace Scalar

@[simp] theorem ofNat_eq_cast (n : Nat) : (Scalar.ofNat n : K) = n := rfl

@[simp] theorem mulAdd_eq (x y z : K) : Scalar.mulAdd x y z = x * y + z := rfl

@[simp] theorem isFinite_eq_true (x : K) : Scalar.isFinite x = true := rfl

theorem largest?_eq_max? (values : List K) : largest? values = values.max? := by
  cases values with
  | nil => rfl
  | cons v rest =>
    rw [largest?, List.foldl_cons, if_pos le_rfl, List.max?_cons']
    refine List.foldl_hom some fun b w => ?_
    rw [if_pos le_rfl]
    dsimp only
    split
    · next h => rw [max_eq_right h.le]
    · next h => rw [max_eq_left (not_lt.mp h)]

theorem largest?_eq_some_iff {values : List K} {m : K} :
    largest? values = some m ↔ m ∈ values ∧ ∀ v ∈ values, v ≤ m := by
  rw [largest?_eq_max?, List.max?_eq_some_iff]

variable [IsStrictOrderedRing K]

@[simp] theorem zero_literal : (0.0 : K) = 0 := by
  norm_num

theorem positivePart_eq_max (x : K) : positivePart x = max x 0 := by
  rw [positivePart, zero_literal]
  split
  · next h => exact (max_eq_left h.le).symm
  · next h => exact (max_eq_right (not_lt.mp h)).symm

theorem abs_eq (x : K) : abs x = |x| := by
  rw [abs, zero_literal]
  split
  · next h => exact (abs_of_neg h).symm
  · next h => exact (abs_of_nonneg (not_lt.mp h)).symm

theorem sum_eq (values : List K) : sum values = values.sum := by
  rw [sum, zero_literal, neg_zero, List.sum_eq_foldl]

end Scalar
end ChartText
