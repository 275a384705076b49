import ChartText.Proofs.Number.Totals

/-! # The number that a double stands for

`toRat` reads a finite double as a rational number. -/

namespace ChartText.Binary64
open Float.Model UnpackedFloat

def toRat (x : Float) : ℚ :=
  scaled x / one

theorem cast_one_pos : (0 : ℚ) < one := by
  rw [cast_one]
  positivity

theorem toRat_zero : toRat 0.0 = 0 := by
  rw [toRat, scaled_zero, Int.cast_zero, zero_div]

section
variable {x y : Float}

theorem toRat_lt_toRat_iff : toRat x < toRat y ↔ scaled x < scaled y := by
  rw [toRat, toRat, div_lt_div_iff_of_pos_right cast_one_pos, Int.cast_lt]

theorem toRat_le_toRat_iff : toRat x ≤ toRat y ↔ scaled x ≤ scaled y := by
  rw [toRat, toRat, div_le_div_iff_of_pos_right cast_one_pos, Int.cast_le]

theorem toRat_pos_iff : 0 < toRat x ↔ 0 < scaled x := by
  rw [← toRat_zero, toRat_lt_toRat_iff, scaled_zero]

theorem toRat_nonneg_iff : 0 ≤ toRat x ↔ 0 ≤ scaled x := by
  rw [← toRat_zero, toRat_le_toRat_iff, scaled_zero]

end

end ChartText.Binary64
