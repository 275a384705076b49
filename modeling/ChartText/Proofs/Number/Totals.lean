import ChartText.Layout.Scalar
import ChartText.Proofs.Number.Rounding

/-! # The largest value and the sum

The largest of some doubles is one of them, and none of them is above it (`largest?_cases`). No term
of a sum is above the sum either if none of the terms is negative, even where the sum is infinite,
and it is zero only if they all are (`isTotal_sum`). Zeros do not change a sum at all. -/

namespace ChartText.Binary64
open Float.Model UnpackedFloat

/-! ### The largest value -/

theorem largest?_append_singleton {α : Type} [Scalar α] (values : List α) (v : α) :
    Scalar.largest? (values ++ [v]) =
      if v ≤ v then
        match Scalar.largest? values with
        | none => some v
        | some b => if b < v then some v else some b
      else Scalar.largest? values := by
  rw [Scalar.largest?, List.foldl_append]
  rfl

/-- Only what is no number does not compare with itself. -/
theorem le_self_iff {x : Float} : x ≤ x ↔ x.isNaN = false := by
  refine ⟨fun h => ?_, fun h => (le_iff h h).mpr le_rfl⟩
  change decide ((x.toModel.unpack.compare x.toModel.unpack).any (·.isLE) = true) = true at h
  change x.toModel.unpack.isNaN = false
  cases hx : x.toModel.unpack with
  | notANumber =>
    rw [hx] at h
    cases h
  | zero | infinity | finite => rfl

/-- The largest of those doubles that are numbers. -/
structure IsLargest (values : List Float) (m : Float) : Prop where
  mem : m ∈ values
  isNaN : m.isNaN = false
  le : ∀ v ∈ values, v.isNaN = false → scaled v ≤ scaled m

namespace IsLargest
variable {values : List Float} {m v : Float}

theorem append_number (h : IsLargest values m) (hv : v.isNaN = false) :
    IsLargest (values ++ [v]) (if m < v then v else m) := by
  have hlt_iff := lt_iff h.isNaN hv
  split
  · next hlt =>
    refine ⟨List.mem_append_right _ List.mem_cons_self, hv, List.forall_mem_append.mpr ⟨?_, ?_⟩⟩
    · exact fun w hw hwnan => (h.le w hw hwnan).trans (hlt_iff.mp hlt).le
    · exact List.forall_mem_singleton.mpr fun _ => le_rfl
  · next hlt =>
    refine ⟨List.mem_append_left _ h.mem, h.isNaN, List.forall_mem_append.mpr ⟨h.le, ?_⟩⟩
    exact List.forall_mem_singleton.mpr fun _ => not_lt.mp fun hlt' => hlt (hlt_iff.mpr hlt')

theorem append_nan (h : IsLargest values m) (hv : v.isNaN = true) :
    IsLargest (values ++ [v]) m := by
  refine ⟨List.mem_append_left _ h.mem, h.isNaN, List.forall_mem_append.mpr ⟨h.le, ?_⟩⟩
  exact List.forall_mem_singleton.mpr fun hnot => absurd (hv.symm.trans hnot) (by decide)

/-- The only number is the largest one. -/
theorem of_nan (h : ∀ w ∈ values, w.isNaN = true) (hv : v.isNaN = false) :
    IsLargest (values ++ [v]) v := by
  refine ⟨List.mem_append_right _ List.mem_cons_self, hv, List.forall_mem_append.mpr ⟨?_, ?_⟩⟩
  · exact fun w hw hnot => absurd ((h w hw).symm.trans hnot) (by decide)
  · exact List.forall_mem_singleton.mpr fun _ => le_rfl

end IsLargest

theorem largest?_cases (values : List Float) :
    (Scalar.largest? values = none ∧ ∀ v ∈ values, v.isNaN = true) ∨
      ∃ m, Scalar.largest? values = some m ∧ IsLargest values m := by
  induction values using List.reverseRecOn with
  | nil => exact .inl ⟨rfl, by simp⟩
  | append_singleton values v ih =>
    rw [largest?_append_singleton]
    simp only [le_self_iff]
    cases hv : v.isNaN with
    | false =>
      right
      rw [if_pos rfl]
      rcases ih with ⟨hlargest, hnone⟩ | ⟨m, hlargest, hm⟩
      · rw [hlargest]
        exact ⟨v, rfl, .of_nan hnone hv⟩
      · rw [hlargest]
        exact ⟨_, (apply_ite some _ _ _).symm, hm.append_number hv⟩
    | true =>
      rw [if_neg (by decide)]
      rcases ih with ⟨hlargest, hnone⟩ | ⟨m, hlargest, hm⟩
      · exact .inl ⟨hlargest, List.forall_mem_append.mpr ⟨hnone, List.forall_mem_singleton.mpr hv⟩⟩
      · exact .inr ⟨m, hlargest, hm.append_nan hv⟩

theorem isLargest_of_largest? {values : List Float} {m : Float}
    (h : Scalar.largest? values = some m) : IsLargest values m := by
  rcases largest?_cases values with ⟨hnone, -⟩ | ⟨m', hsome, hm⟩
  · cases h.symm.trans hnone
  · exact Option.some.inj (hsome.symm.trans h) ▸ hm

theorem largest?_eq {values : List Float} (h : ∀ v ∈ values, v.isFinite = true)
    (hne : values ≠ []) :
    ∃ m ∈ values, Scalar.largest? values = some m ∧ ∀ v ∈ values, scaled v ≤ scaled m := by
  have hnumber (v : Float) (hv : v ∈ values) : v.isNaN = false :=
    (isNaN_isInf_of_isFinite (h v hv)).1
  rcases largest?_cases values with ⟨-, hnone⟩ | ⟨m, hlargest, hm⟩
  · obtain ⟨v, hv⟩ := List.exists_mem_of_ne_nil values hne
    cases (hnumber v hv).symm.trans (hnone v hv)
  · exact ⟨m, hm.mem, hlargest, fun v hv => hm.le v hv (hnumber v hv)⟩

/-! ### Sums -/

theorem unpack_add_of_isInf {x y : Float} (hx : x.isInf = true) (hy : y.isFinite = true) :
    (x + y).toModel.unpack = x.toModel.unpack := by
  change x.toModel.unpack.isInf = true at hx
  change UnpackedFloat.unpack .binary64 (UnpackedFloat.pack .binary64
    (x.toModel.unpack.add .binary64 y.toModel.unpack)) = _
  cases h : x.toModel.unpack with
  | infinity s =>
    have hadd : (UnpackedFloat.infinity s).add .binary64 y.toModel.unpack = .infinity s := by
      rcases unpack_of_isFinite hy with ⟨t, h'⟩ | ⟨t, n, d, hn, h'⟩ <;> rw [h'] <;> rfl
    rw [hadd]
    cases s <;> rfl
  | notANumber | zero | finite =>
    rw [h] at hx
    cases hx

theorem unpacked_add_cases {u v : UnpackedFloat} (h : u.isFinite = false ∨ v.isFinite = false) :
    u.add .binary64 v = .notANumber ∨ ∃ s, u.add .binary64 v = .infinity s := by
  cases u with
  | notANumber => exact .inl rfl
  | infinity s =>
    cases v with
    | notANumber => exact .inl rfl
    | infinity t => cases s <;> cases t <;> first | exact .inl rfl | exact .inr ⟨_, rfl⟩
    | zero | finite => exact .inr ⟨s, rfl⟩
  | zero | finite =>
    cases v with
    | notANumber => exact .inl rfl
    | infinity t => exact .inr ⟨t, rfl⟩
    | zero | finite => rcases h with h | h <;> cases h

theorem isFinite_of_add {x y : Float} (h : (x + y).isFinite = true) :
    x.isFinite = true ∧ y.isFinite = true := by
  change (UnpackedFloat.unpack .binary64 (UnpackedFloat.pack .binary64
    (x.toModel.unpack.add .binary64 y.toModel.unpack))).isFinite = true at h
  change x.toModel.unpack.isFinite = true ∧ y.toModel.unpack.isFinite = true
  by_contra hnot
  rw [not_and_or, Bool.not_eq_true, Bool.not_eq_true] at hnot
  rcases unpacked_add_cases hnot with hadd | ⟨s, hadd⟩
  · rw [hadd] at h
    revert h
    decide
  · rw [hadd] at h
    clear hadd
    revert s h
    decide

theorem isFinite_of_sum {values : List Float} (h : (Scalar.sum values).isFinite = true) :
    ∀ v ∈ values, v.isFinite = true := by
  induction values using List.reverseRecOn with
  | nil => simp
  | append_singleton values v ih =>
    rw [Scalar.sum, List.foldl_append] at h
    obtain ⟨hsum, hv⟩ := isFinite_of_add h
    exact List.forall_mem_append.mpr ⟨ih hsum, List.forall_mem_singleton.mpr hv⟩

/-- The double is a zero of either sign. -/
def IsZero (x : Float) : Prop :=
  x.isFinite = true ∧ scaled x = 0

theorem isZero_sum_nil : IsZero (Scalar.sum ([] : List Float)) := by
  rw [IsZero]
  decide

/-- What the sum of finite doubles that are not negative is like. -/
structure IsTotal (values : List Float) (total : Float) : Prop where
  isNaN : total.isNaN = false
  nonneg : 0 ≤ scaled total
  le : ∀ v ∈ values, scaled v ≤ scaled total
  eq_zero : (∀ v ∈ values, scaled v = 0) → scaled total = 0

theorem IsTotal.add {values : List Float} {total v : Float} (h : IsTotal values total)
    (hv : v.isFinite = true) (h0 : 0 ≤ scaled v) : IsTotal (values ++ [v]) (total + v) := by
  cases hfinite : total.isFinite with
  | true =>
    have hround := isRounding_add hfinite hv
    have hle : scaled total ≤ scaled (total + v) :=
      hround.le total hfinite (by
        have : (0 : ℚ) ≤ scaled v := by exact_mod_cast h0
        linarith)
    refine ⟨hround.isNaN, h.nonneg.trans hle, fun w hw => ?_, fun hzero => ?_⟩
    · rcases List.mem_append.mp hw with hw | hw
      · exact (h.le w hw).trans hle
      · rw [List.mem_singleton.mp hw]
        refine hround.le v hv ?_
        have : (0 : ℚ) ≤ scaled total := by exact_mod_cast h.nonneg
        linarith
    · have hv0 : scaled v = 0 := hzero v (List.mem_append_right _ List.mem_cons_self)
      rw [hround.scaled_eq hfinite (by rw [hv0, Int.cast_zero, add_zero])]
      exact h.eq_zero fun w hw => hzero w (List.mem_append_left _ hw)
  | false =>
    have hunpack := unpack_add_of_isInf ((isInf_iff h.isNaN).mpr hfinite) hv
    have hnan : (total + v).isNaN = false := by
      change (total + v).toModel.unpack.isNaN = false
      rw [hunpack]
      exact h.isNaN
    have hscaled : scaled (total + v) = scaled total := by
      rw [scaled_eq_units hnan, hunpack, scaled_eq_units h.isNaN]
    have hlarge : limit ≤ (scaled total).natAbs := by
      rw [← not_lt, ← isFinite_iff h.isNaN, hfinite]
      exact Bool.false_ne_true
    have hlt := (isFinite_iff (isNaN_isInf_of_isFinite hv).1).mp hv
    have hnonneg := h.nonneg
    refine ⟨hnan, by omega, fun w hw => ?_, fun hzero => ?_⟩
    · rw [hscaled]
      rcases List.mem_append.mp hw with hw | hw
      · exact h.le w hw
      · rw [List.mem_singleton.mp hw]
        omega
    · rw [hscaled]
      exact h.eq_zero fun w hw => hzero w (List.mem_append_left _ hw)

theorem isTotal_sum {values : List Float}
    (h : ∀ v ∈ values, v.isFinite = true ∧ 0 ≤ scaled v) : IsTotal values (Scalar.sum values) := by
  induction values using List.reverseRecOn with
  | nil =>
    obtain ⟨hfinite, hzero⟩ := isZero_sum_nil
    exact ⟨(isNaN_isInf_of_isFinite hfinite).1, hzero.ge, by simp, fun _ => hzero⟩
  | append_singleton values v ih =>
    have hv := h v (List.mem_append_right _ List.mem_cons_self)
    have hsum : Scalar.sum (values ++ [v]) = Scalar.sum values + v := by
      rw [Scalar.sum, List.foldl_append]
      rfl
    rw [hsum]
    exact (ih fun w hw => h w (List.mem_append_left _ hw)).add hv.1 hv.2

/-! ### Sums of zeros -/

theorem add_of_isZero {x y : Float} (hx : x.isFinite = true) (hy : IsZero y) :
    (x + y).isFinite = true ∧ scaled (x + y) = scaled x :=
  (isRounding_add hx hy.1).eq_of_scaled hx (by rw [hy.2, Int.cast_zero, add_zero])

theorem foldl_add_of_isZero {x : Float} {values : List Float} (h : ∀ w ∈ values, IsZero w)
    (hx : x.isFinite = true) :
    (values.foldl (· + ·) x).isFinite = true ∧ scaled (values.foldl (· + ·) x) = scaled x := by
  induction values generalizing x with
  | nil => exact ⟨hx, rfl⟩
  | cons w values ih =>
    obtain ⟨hw, hrest⟩ := List.forall_mem_cons.mp h
    obtain ⟨hfinite, hscaled⟩ := add_of_isZero hx hw
    obtain ⟨hfinite', hscaled'⟩ := ih hrest hfinite
    exact ⟨hfinite', hscaled'.trans hscaled⟩

theorem sum_of_isZero {v : Float} {front back : List Float} (hv : v.isFinite = true)
    (hfront : ∀ w ∈ front, IsZero w) (hback : ∀ w ∈ back, IsZero w) :
    (Scalar.sum (front ++ v :: back)).isFinite = true ∧
      scaled (Scalar.sum (front ++ v :: back)) = scaled v := by
  obtain ⟨hnone, hzero⟩ := isZero_sum_nil
  obtain ⟨hfinite, hscaled⟩ := foldl_add_of_isZero hfront hnone
  obtain ⟨hfinite', hscaled'⟩ := (isRounding_add hfinite hv).eq_of_scaled hv
    (by rw [hscaled, hzero, Int.cast_zero, zero_add])
  obtain ⟨hsum, hsum'⟩ := foldl_add_of_isZero hback hfinite'
  rw [Scalar.sum, List.foldl_append, List.foldl_cons]
  exact ⟨hsum, hsum'.trans hscaled'⟩

end ChartText.Binary64
