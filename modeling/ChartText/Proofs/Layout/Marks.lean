import Mathlib.Tactic.Linarith
import Mathlib.Tactic.Ring
import ChartText.Proofs.Layout.Exact

/-! # Bars and points over exact numbers

A bar is as high as its share of the plot area, slots follow each other without overlapping, and the
bars of a group share out what is filled of their slot. -/

namespace ChartText

variable {K : Type} [Field K] [LinearOrder K] [IsStrictOrderedRing K]

/-! ### Heights -/

namespace PlotArea

section
variable {plot : PlotArea K} {max value : K} (hmax : 0 < max) (hplot : plot.top ≤ plot.bottom)

theorem barHeight_nonneg : 0 ≤ plot.barHeight value max := by
  rw [barHeight, Scalar.positivePart_eq_max]
  exact le_max_right _ 0

include hmax hplot

theorem barHeight_of_nonpos (hvalue : value ≤ 0) : plot.barHeight value max = 0 := by
  rw [barHeight, Scalar.positivePart_eq_max, max_eq_right]
  exact mul_nonpos_of_nonpos_of_nonneg (div_nonpos_of_nonpos_of_nonneg hvalue hmax.le)
    (sub_nonneg.mpr hplot)

theorem barHeight_le (hvalue : value ≤ max) : plot.barHeight value max ≤ plot.height := by
  have hheight : 0 ≤ plot.height := sub_nonneg.mpr hplot
  rw [barHeight, Scalar.positivePart_eq_max]
  exact max_le (mul_le_of_le_one_left hheight ((div_le_one hmax).mpr hvalue)) hheight

theorem top_le_yFor (hvalue : value ≤ max) : plot.top ≤ plot.yFor value max := by
  have hle := barHeight_le hmax hplot hvalue
  rw [PlotArea.height] at hle
  rw [yFor]
  linarith

theorem yFor_max : plot.yFor max max = plot.top := by
  have hheight : 0 ≤ plot.height := sub_nonneg.mpr hplot
  rw [yFor, barHeight, Scalar.positivePart_eq_max, div_self hmax.ne', one_mul, max_eq_left hheight,
    height, sub_sub_cancel]

end

/-! ### Points -/

section
variable {plot : PlotArea K} {count i j : Nat} (hplot : plot.left < plot.right)
include hplot

theorem spacing_pos : 0 < if 1 < count then plot.width / ((count - 1 : Nat) : K) else plot.width := by
  have hwidth : 0 < plot.width := sub_pos.mpr hplot
  split
  · next h => exact div_pos hwidth (Nat.cast_pos.mpr (Nat.sub_pos_of_lt h))
  · exact hwidth

theorem left_le_pointX : plot.left ≤ plot.pointX i count :=
  le_add_of_nonneg_left (mul_nonneg (Nat.cast_nonneg i) (spacing_pos hplot).le)

theorem pointX_lt_pointX (h : i < j) : plot.pointX i count < plot.pointX j count :=
  add_lt_add_left (mul_lt_mul_of_pos_right (Nat.cast_lt.mpr h) (spacing_pos hplot)) _

theorem pointX_le_right (h : i < count) : plot.pointX i count ≤ plot.right := by
  have hwidth : plot.width + plot.left = plot.right := sub_add_cancel _ _
  rw [← hwidth]
  refine add_le_add_left ?_ plot.left
  split
  · next hcount =>
    -- The last point is on the right edge.
    have hlast : (0 : K) < (count - 1 : Nat) := Nat.cast_pos.mpr (Nat.sub_pos_of_lt hcount)
    have hi : (i : K) ≤ (count - 1 : Nat) := Nat.cast_le.mpr (Nat.le_sub_one_of_lt h)
    calc (i : K) * (plot.width / (count - 1 : Nat))
        ≤ (count - 1 : Nat) * (plot.width / (count - 1 : Nat)) :=
          mul_le_mul_of_nonneg_right hi (div_pos (sub_pos.mpr hplot) hlast).le
      _ = plot.width := mul_div_cancel₀ _ hlast.ne'
  · next hcount =>
    obtain rfl : i = 0 := by omega
    rw [Scalar.ofNat_eq_cast, Nat.cast_zero, zero_mul]
    exact (sub_pos.mpr hplot).le

end

end PlotArea

/-! ### Slots -/

/-- The rectangle stands between two positions. -/
structure Rectangle.IsBetween (r : Rectangle K) (left right : K) : Prop where
  left_le : left ≤ r.x
  width_nonneg : 0 ≤ r.width
  le_right : r.x + r.width ≤ right

namespace Slots

section
variable {plot : PlotArea K} {max value : K} {count n i j : Nat}

theorem filled_eq : (Slots.of plot count).filled = 7 / 10 * (plot.width / count) := by
  norm_num [Slots.of, fill, mul_comm]

theorem left_eq : (Slots.of plot count).left i = plot.left + (i + 3 / 20) * (plot.width / count) := by
  norm_num [Slots.of, Slots.left, fill]
  ring

variable (hplot : plot.left < plot.right) (hcount : 0 < count)
include hplot hcount

theorem step_pos : 0 < plot.width / (count : K) :=
  div_pos (sub_pos.mpr hplot) (Nat.cast_pos.mpr hcount)

theorem filled_pos : 0 < (Slots.of plot count).filled := by
  rw [filled_eq]
  exact mul_pos (by norm_num) (step_pos hplot hcount)

theorem share_pos (hn : 0 < n) : 0 < (Slots.of plot count).filled / (n : K) :=
  div_pos (filled_pos hplot hcount) (Nat.cast_pos.mpr hn)

theorem plot_left_le_left : plot.left ≤ (Slots.of plot count).left i := by
  have hi : (0 : K) ≤ i := Nat.cast_nonneg i
  rw [left_eq, le_add_iff_nonneg_right]
  exact mul_nonneg (by linarith) (step_pos hplot hcount).le

/-- A slot is filled up to less than the next one. -/
theorem left_add_filled_le_left (h : i < j) :
    (Slots.of plot count).left i + (Slots.of plot count).filled ≤ (Slots.of plot count).left j := by
  have hij : (i : K) + 1 ≤ j := by exact_mod_cast h
  rw [left_eq, left_eq, filled_eq, add_assoc, ← add_mul, add_le_add_iff_left]
  exact mul_le_mul_of_nonneg_right (by linarith) (step_pos hplot hcount).le

theorem left_add_filled_le_right (h : i < count) :
    (Slots.of plot count).left i + (Slots.of plot count).filled ≤ plot.right := by
  have hi : (i : K) + 1 ≤ count := by exact_mod_cast h
  have hwidth : (count : K) * (plot.width / count) = plot.right - plot.left :=
    mul_div_cancel₀ _ (Nat.cast_ne_zero.mpr hcount.ne')
  have hle : ((i : K) + 3 / 20 + 7 / 10) * (plot.width / count) ≤ count * (plot.width / count) :=
    mul_le_mul_of_nonneg_right (by linarith) (step_pos hplot hcount).le
  rw [left_eq, filled_eq, add_assoc, ← add_mul]
  linarith

theorem bar_isBetween :
    ((Slots.of plot count).bar plot max i value).IsBetween ((Slots.of plot count).left i)
      ((Slots.of plot count).left i + (Slots.of plot count).filled) :=
  ⟨le_rfl, (filled_pos hplot hcount).le, le_rfl⟩

/-- What a bar of a group takes up of its slot, the gap included. -/
theorem groupedBar_isBetween_share (hn : 0 < n) :
    ((Slots.of plot count).groupedBar plot max n i j value).IsBetween
      (j * ((Slots.of plot count).filled / n) + (Slots.of plot count).left i)
      ((j + 1) * ((Slots.of plot count).filled / n) + (Slots.of plot count).left i) := by
  have hshare : 0 < (Slots.of plot count).filled / (n : K) := share_pos hplot hcount hn
  have hwidth : ((Slots.of plot count).groupedBar plot max n i j value).width =
      Max.max ((Slots.of plot count).filled / (n : K) - 2) 0 := by
    norm_num [groupedBar, Scalar.positivePart_eq_max, gap]
  refine ⟨le_rfl, ?_, ?_⟩
  · rw [hwidth]
    exact le_max_right _ _
  · have hle : Max.max ((Slots.of plot count).filled / (n : K) - 2) 0 ≤
        (Slots.of plot count).filled / (n : K) :=
      max_le (by linarith) hshare.le
    rw [hwidth]
    change j * ((Slots.of plot count).filled / (n : K)) + (Slots.of plot count).left i + _ ≤ _
    linarith

theorem groupedBar_isBetween (hj : j < n) :
    ((Slots.of plot count).groupedBar plot max n i j value).IsBetween
      ((Slots.of plot count).left i)
      ((Slots.of plot count).left i + (Slots.of plot count).filled) := by
  have hn : 0 < n := Nat.zero_lt_of_lt hj
  have hshare : 0 < (Slots.of plot count).filled / (n : K) := share_pos hplot hcount hn
  have hle : ((j : K) + 1) * ((Slots.of plot count).filled / (n : K)) ≤
      n * ((Slots.of plot count).filled / (n : K)) :=
    mul_le_mul_of_nonneg_right (by exact_mod_cast hj) hshare.le
  rw [mul_div_cancel₀ _ (Nat.cast_ne_zero.mpr hn.ne')] at hle
  have hbetween : ((Slots.of plot count).groupedBar plot max n i j value).IsBetween _ _ :=
    groupedBar_isBetween_share hplot hcount hn
  refine ⟨le_trans ?_ hbetween.left_le, hbetween.width_nonneg, hbetween.le_right.trans ?_⟩
  · exact le_add_of_nonneg_left (mul_nonneg (Nat.cast_nonneg j) hshare.le)
  · linarith

theorem groupedBar_separated {k : Nat} {value' : K} (hn : 0 < n) (hjk : j < k) :
    ((Slots.of plot count).groupedBar plot max n i j value).x +
        ((Slots.of plot count).groupedBar plot max n i j value).width ≤
      ((Slots.of plot count).groupedBar plot max n i k value').x := by
  have hshare : 0 < (Slots.of plot count).filled / (n : K) := share_pos hplot hcount hn
  have hle : ((j : K) + 1) * ((Slots.of plot count).filled / (n : K)) ≤
      k * ((Slots.of plot count).filled / (n : K)) :=
    mul_le_mul_of_nonneg_right (by exact_mod_cast hjk) hshare.le
  exact (groupedBar_isBetween_share hplot hcount hn).le_right.trans (add_le_add_left hle _)

end

end Slots

end ChartText
