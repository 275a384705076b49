import Mathlib.Algebra.BigOperators.Group.List.Basic
import Mathlib.Algebra.BigOperators.Ring.List
import ChartText.Proofs.Layout.Exact

/-! # Slices share out a turn

Slices follow one another without a gap, with whatever numbers they are computed
(`Slice.isChain_share`). Over exact numbers each takes up the share of its value in the total, so
that together they make one turn (`Slice.sharesOut`). -/

namespace ChartText.Slice

/-! ### With any numbers -/

section
variable {α : Type} [Scalar α] {turn total : α}

theorem length_share (start : α) (values : List α) :
    (share turn total start values).length = values.length := by
  induction values generalizing start with
  | nil => rfl
  | cons value values ih => rw [share, List.length_cons, ih, List.length_cons]

theorem isChain_share (start : α) (values : List α) :
    (share turn total start values).IsChain fun a b => b.start = a.stop := by
  induction values generalizing start with
  | nil => exact .nil
  | cons v values ih =>
    cases values with
    | nil => exact .singleton _
    | cons w values => exact .cons_cons rfl (ih _)

/-- Where the slices of some values end. -/
def reached (turn total : α) (start : α) (values : List α) : α :=
  values.foldl (fun stop v => stop + v / total * turn) start

theorem share_append (start : α) (front back : List α) :
    share turn total start (front ++ back) =
      share turn total start front ++ share turn total (reached turn total start front) back := by
  induction front generalizing start with
  | nil => rfl
  | cons v front ih =>
    rw [List.cons_append, share, ih, share, List.cons_append]
    rfl

theorem getElem?_share {start : α} {front back : List α} {v : α} :
    (share turn total start (front ++ v :: back))[front.length]? =
      some ⟨reached turn total start front,
        reached turn total start front + v / total * turn⟩ := by
  rw [share_append, List.getElem?_append_right (length_share start front).le, length_share,
    Nat.sub_self]
  rfl

end

/-! ### The only value of its kind -/

section
variable {α : Type} {l : List α} {a : α} {i : Nat}

theorem exists_append_of_getElem? (h : l[i]? = some a) :
    ∃ front back, l = front ++ a :: back ∧ front.length = i := by
  obtain ⟨hi, rfl⟩ := List.getElem?_eq_some_iff.mp h
  refine ⟨l.take i, l.drop (i + 1), ?_, List.length_take_of_le hi.le⟩
  rw [← List.drop_eq_getElem_cons hi, List.take_append_drop]

theorem not_of_only {p : α → Prop} {front back : List α}
    (h : ∀ (j : Nat) w, (front ++ a :: back)[j]? = some w → p w → j = front.length) :
    (∀ w ∈ front, ¬ p w) ∧ ∀ w ∈ back, ¬ p w := by
  constructor
  · intro w hw hp
    obtain ⟨j, hj, rfl⟩ := List.getElem_of_mem hw
    have := h j _ (by rw [List.getElem?_append_left hj, List.getElem?_eq_getElem hj]) hp
    omega
  · intro w hw hp
    obtain ⟨j, hj, rfl⟩ := List.getElem_of_mem hw
    have := h (front.length + (j + 1)) _ (by
      rw [List.getElem?_append_right (Nat.le_add_right _ _), Nat.add_sub_cancel_left,
        List.getElem?_cons_succ, List.getElem?_eq_getElem hj]) hp
    omega

end

/-! ### With exact numbers -/

variable {K : Type} [Field K]

theorem sum_map_div_mul {turn : K} {values : List K} (hsum : values.sum ≠ 0) :
    (values.map fun v => v / values.sum * turn).sum = turn := by
  rw [List.sum_map_mul_right]
  simp only [div_eq_mul_inv]
  rw [List.sum_map_mul_right, List.map_id', mul_inv_cancel₀ hsum, one_mul]

variable [LinearOrder K]

theorem map_sweep_share {turn total : K} (start : K) (values : List K) :
    (share turn total start values).map sweep = values.map fun v => v / total * turn := by
  induction values generalizing start with
  | nil => rfl
  | cons v values ih =>
    rw [share, List.map_cons, ih, List.map_cons, sweep, add_sub_cancel_left]

/-- The slices take up the shares of the values in their total, which make one turn. -/
structure SharesOut (turn : K) (values : List K) (slices : List (Slice K)) : Prop where
  sweeps : slices.map Slice.sweep = values.map fun v => v / values.sum * turn
  nonneg : ∀ s ∈ slices, 0 ≤ s.sweep
  sum : (slices.map Slice.sweep).sum = turn
  equal : ∀ v s s', (v, s) ∈ values.zip slices → (v, s') ∈ values.zip slices → s.sweep = s'.sweep
  whole : ∀ (i : Nat) v (s : Slice K), values[i]? = some v → slices[i]? = some s → 0 < v →
    (∀ (j : Nat) w, values[j]? = some w → 0 < w → j = i) → s.isWhole turn = true

variable [IsStrictOrderedRing K] {turn : K} {values : List K}

omit [IsStrictOrderedRing K] in
theorem sum_eq_of_only {front back : List K} {v : K} (hvalues : ∀ w ∈ front ++ v :: back, 0 ≤ w)
    (honly : ∀ (j : Nat) w, (front ++ v :: back)[j]? = some w → 0 < w → j = front.length) :
    (front ++ v :: back).sum = v := by
  obtain ⟨hfront, hback⟩ := not_of_only honly
  have hzero {part : List K} (hpart : ∀ w ∈ part, w ∈ front ++ v :: back)
      (h : ∀ w ∈ part, ¬ 0 < w) : part.sum = 0 :=
    List.sum_eq_zero fun w hw => le_antisymm (not_lt.mp (h w hw)) (hvalues w (hpart w hw))
  rw [List.sum_append, List.sum_cons,
    hzero (fun w hw => List.mem_append_left _ hw) hfront,
    hzero (fun w hw => List.mem_append_right _ (List.mem_cons_of_mem v hw)) hback, add_zero,
    zero_add]

theorem isWhole_of_sweep_eq {s : Slice K} (h : s.sweep = turn) : s.isWhole turn = true := by
  rw [isWhole, h, sub_self, Scalar.abs_eq, abs_zero, decide_eq_true_eq]
  norm_num

theorem sharesOut (hturn : 0 < turn) (hvalues : ∀ v ∈ values, 0 ≤ v) (hsum : 0 < values.sum)
    (start : K) : SharesOut turn values (share turn (Scalar.sum values) start values) := by
  rw [Scalar.sum_eq]
  have hsweeps : (share turn values.sum start values).map sweep =
      values.map fun v => v / values.sum * turn := map_sweep_share start values
  have hsweep {i : Nat} {v : K} {s : Slice K} (hv : values[i]? = some v)
      (hs : (share turn values.sum start values)[i]? = some s) :
      s.sweep = v / values.sum * turn := by
    have := congrArg (·[i]?) hsweeps
    simpa [hv, hs] using this
  refine ⟨hsweeps, ?_, hsweeps ▸ sum_map_div_mul hsum.ne', fun v s s' h h' => ?_,
    fun i v s hv hs hpos honly => ?_⟩
  · rw [← List.forall_mem_map (P := fun sweep => 0 ≤ sweep), hsweeps, List.forall_mem_map]
    exact fun v hv => mul_nonneg (div_nonneg (hvalues v hv) hsum.le) hturn.le
  · obtain ⟨i, hi⟩ := List.mem_iff_getElem?.mp h
    obtain ⟨j, hj⟩ := List.mem_iff_getElem?.mp h'
    rw [List.getElem?_zip_eq_some] at hi hj
    rw [hsweep hi.1 hi.2, hsweep hj.1 hj.2]
  · obtain ⟨front, back, rfl, rfl⟩ := exists_append_of_getElem? hv
    refine isWhole_of_sweep_eq ?_
    rw [hsweep hv hs, sum_eq_of_only hvalues honly, div_self hpos.ne', one_mul]

end ChartText.Slice
