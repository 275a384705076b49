import ChartText.Proofs.Layout.Shares
import ChartText.Proofs.Drawing.Drawn
import ChartText.Proofs.Number.Exact

/-! # The slices of a chart

The values of a chart whose slices can be drawn are not negative and some are positive, so over exact
numbers its slices share out one turn. With doubles the slices follow one another without a gap as
well, and rounding does not keep the only positive value from being drawn as a whole circle
(`Drawing.slices_partition`). -/

namespace ChartText
open Binary64

/-! ### The only positive value -/

theorem Angle.isFinite_top_turn : top.isFinite = true ∧ turn.isFinite = true := by
  decide

namespace Slice
variable {total start v : Float} {front back : List Float}

theorem isZero_share (htotal : total.isFinite = true) (hne : scaled total ≠ 0) (hv : IsZero v) :
    IsZero (v / total * Angle.turn) := by
  obtain ⟨hdiv, hdiv'⟩ := (isRounding_div hv.1 htotal hne).eq_of_scaled isFinite_zero
    (by rw [scaled_zero, hv.2, Int.cast_zero, zero_mul, zero_div])
  obtain ⟨hmul, hmul'⟩ := (isRounding_mul hdiv Angle.isFinite_top_turn.2).eq_of_scaled isFinite_zero
    (by rw [hdiv', scaled_zero, Int.cast_zero, zero_mul, zero_div])
  exact ⟨hmul, hmul'.trans scaled_zero⟩

theorem reached_of_isZero (htotal : total.isFinite = true) (hne : scaled total ≠ 0)
    (hfront : ∀ w ∈ front, IsZero w) (hstart : start.isFinite = true) :
    (reached Angle.turn total start front).isFinite = true ∧
      scaled (reached Angle.turn total start front) = scaled start := by
  have hshares : ∀ w ∈ front.map fun w => w / total * Angle.turn, IsZero w :=
    List.forall_mem_map.mpr fun w hw => isZero_share htotal hne (hfront w hw)
  rw [reached, ← List.foldl_map (g := (· + ·))]
  exact foldl_add_of_isZero hshares hstart

theorem scaled_share_of_total (htotal : total.isFinite = true) (hne : scaled total ≠ 0)
    (hv : v.isFinite = true) (h : scaled total = scaled v) :
    (v / total * Angle.turn).isFinite = true ∧
      scaled (v / total * Angle.turn) = scaled Angle.turn := by
  have hturn := Angle.isFinite_top_turn.2
  have hone : (1.0 : Float).isFinite = true ∧ scaled 1.0 = one := by decide +kernel
  have hne' : (scaled v : ℚ) ≠ 0 := by exact_mod_cast h ▸ hne
  obtain ⟨hdiv, hdiv'⟩ := (isRounding_div hv htotal hne).eq_of_scaled hone.1
    (by rw [hone.2, h, mul_div_cancel_left₀ _ hne', Int.cast_natCast])
  refine (isRounding_mul hdiv hturn).eq_of_scaled hturn ?_
  rw [hdiv', hone.2, Int.cast_natCast, mul_div_cancel_left₀ _ cast_one_pos.ne']

theorem abs_lt_of_scaled {x bound limit : Float} (hx : x.isFinite = true)
    (hbound : bound.isFinite = true) (hlimit : limit.isNaN = false)
    (hlow : -scaled bound ≤ scaled x) (hhigh : scaled x ≤ scaled bound)
    (h : scaled bound < scaled limit) : Scalar.abs x < limit := by
  unfold Scalar.abs
  split
  · have hneg := isRounding_neg hx
    have hle := hneg.ge bound hbound (by exact_mod_cast (show -scaled x ≤ scaled bound by omega))
    exact (lt_iff hneg.isNaN hlimit).mpr (hle.trans_lt h)
  · exact (lt_iff (isNaN_isInf_of_isFinite hx).1 hlimit).mpr (hhigh.trans_lt h)

/-- A turn from the top ends a turn further on, up to rounding. -/
theorem isWhole_of_scaled {share : Float} (hstart : start.isFinite = true)
    (hstart' : scaled start = scaled Angle.top) (hshare : share.isFinite = true)
    (hshare' : scaled share = scaled Angle.turn) :
    (Slice.mk start (start + share)).isWhole Angle.turn = true := by
  have hturn := Angle.isFinite_top_turn.2
  -- the slice ends between these two angles
  have hstops : (4.7123889803 : Float).isFinite = true ∧ (4.7123889804 : Float).isFinite = true ∧
      scaled 4.7123889803 ≤ scaled Angle.top + scaled Angle.turn ∧
      scaled Angle.top + scaled Angle.turn ≤ scaled 4.7123889804 := by decide +kernel
  have hsweeps : (6.283185307 : Float).isFinite = true ∧ (6.2831853073 : Float).isFinite = true ∧
      scaled 6.283185307 ≤ scaled 4.7123889803 - scaled Angle.top ∧
      scaled 4.7123889804 - scaled Angle.top ≤ scaled 6.2831853073 := by decide +kernel
  have herrors : (-5e-10 : Float).isFinite = true ∧ (5e-10 : Float).isFinite = true ∧
      scaled (-5e-10) ≤ scaled 6.283185307 - scaled Angle.turn ∧
      scaled 6.2831853073 - scaled Angle.turn ≤ scaled 5e-10 ∧
      scaled (-5e-10) = -scaled 5e-10 ∧ scaled 5e-10 < scaled 1e-9 := by decide +kernel
  obtain ⟨hstop, hstop1, hstop2⟩ :=
    (isRounding_add hstart hshare).between hstops.1 hstops.2.1
      (by rw [hstart', hshare']; exact_mod_cast hstops.2.2.1)
      (by rw [hstart', hshare']; exact_mod_cast hstops.2.2.2)
  obtain ⟨hsweep, hsweep1, hsweep2⟩ :=
    (isRounding_sub hstop hstart).between hsweeps.1 hsweeps.2.1
      (by rw [hstart']; exact_mod_cast (show _ ≤ _ by omega))
      (by rw [hstart']; exact_mod_cast (show _ ≤ _ by omega))
  obtain ⟨herror, herror1, herror2⟩ :=
    (isRounding_sub hsweep hturn).between herrors.1 herrors.2.1
      (by exact_mod_cast (show _ ≤ _ by omega)) (by exact_mod_cast (show _ ≤ _ by omega))
  rw [isWhole, decide_eq_true_eq]
  exact abs_lt_of_scaled herror herrors.2.1 (by decide)
    (herrors.2.2.2.2.1 ▸ herror1) herror2 herrors.2.2.2.2.2

/-- The slice of the only value that is not zero is whole. -/
theorem isWhole_of_only {values : List Float} {i : Nat} {s : Slice Float}
    (hfinite : ∀ w ∈ values, w.isFinite = true) (hvalues : ∀ w ∈ values, ¬ w < 0.0)
    (hv : values[i]? = some v)
    (hs : (share Angle.turn (Scalar.sum values) Angle.top values)[i]? = some s) (hpos : 0.0 < v)
    (honly : ∀ (j : Nat) w, values[j]? = some w → 0.0 < w → j = i) :
    s.isWhole Angle.turn = true := by
  have hzero {w : Float} (hw : w ∈ values) (hnot : ¬ 0.0 < w) : IsZero w := by
    have hnan := (isNaN_isInf_of_isFinite (hfinite w hw)).1
    have hneg := hvalues w hw
    rw [pos_iff hnan] at hnot
    rw [neg_iff hnan] at hneg
    exact ⟨hfinite w hw, by omega⟩
  have hvfinite := hfinite v (List.mem_of_getElem? hv)
  obtain ⟨front, back, rfl, rfl⟩ := exists_append_of_getElem? hv
  obtain ⟨hfront, hback⟩ := not_of_only honly
  have hfront' : ∀ w ∈ front, IsZero w := fun w hw =>
    hzero (List.mem_append_left _ hw) (hfront w hw)
  have hback' : ∀ w ∈ back, IsZero w := fun w hw =>
    hzero (List.mem_append_right _ (List.mem_cons_of_mem v hw)) (hback w hw)
  obtain ⟨htotal, htotal'⟩ := sum_of_isZero hvfinite hfront' hback'
  have hne : scaled (Scalar.sum (front ++ v :: back)) ≠ 0 := by
    rw [pos_iff (isNaN_isInf_of_isFinite hvfinite).1] at hpos
    omega
  obtain ⟨hstart, hstart'⟩ := reached_of_isZero htotal hne hfront' Angle.isFinite_top_turn.1
  obtain ⟨hshare, hshare'⟩ := scaled_share_of_total htotal hne hvfinite htotal'
  rw [getElem?_share, Option.some.injEq] at hs
  rw [← hs]
  exact isWhole_of_scaled hstart hstart' hshare hshare'

end Slice

namespace Drawing
variable {c : Chart} {ss : List (Slice Float)}

/-! ### Exact shares -/

section
variable (h : slices c = .ok ss) (hfinite : ∀ x ∈ c.values, x.isFinite = true)
include h hfinite

theorem toRat_nonneg_of_slices : ∀ x ∈ c.values, 0 ≤ toRat x := by
  intro x hx
  have hneg := (slices_eq_ok_iff.mp h).2.1 x hx
  rw [neg_iff (isNaN_isInf_of_isFinite (hfinite x hx)).1, not_lt] at hneg
  exact toRat_nonneg_iff.mpr hneg

theorem exists_toRat_pos_of_slices : ∃ x ∈ c.values, 0 < toRat x := by
  obtain ⟨-, hvalues, htotal, -⟩ := slices_eq_ok_iff.mp h
  have hterms : ∀ v ∈ c.values, v.isFinite = true ∧ 0 ≤ scaled v := fun v hv =>
    ⟨hfinite v hv, toRat_nonneg_iff.mp (toRat_nonneg_of_slices h hfinite v hv)⟩
  have hsum := isTotal_sum hterms
  by_contra! hnone
  have hzero := hsum.eq_zero fun v hv =>
    le_antisymm (not_lt.mp fun hpos => absurd (toRat_pos_iff.mpr hpos) (not_lt.mpr (hnone v hv)))
      (hterms v hv).2
  rw [Bool.and_eq_true, decide_eq_true_eq, pos_iff hsum.isNaN] at htotal
  omega

theorem sharesOut_of_slices {K : Type} [Field K] [LinearOrder K] [IsStrictOrderedRing K]
    (start : K) {turn : K} (hturn : 0 < turn) :
    Slice.SharesOut turn (c.values.map fun x => (toRat x : K))
      (Slice.share turn (Scalar.sum (c.values.map fun x => (toRat x : K))) start
        (c.values.map fun x => (toRat x : K))) := by
  have hnonneg : ∀ v ∈ c.values.map fun x => (toRat x : K), 0 ≤ v :=
    List.forall_mem_map.mpr fun x hx =>
      Rat.cast_nonneg.mpr (toRat_nonneg_of_slices h hfinite x hx)
  obtain ⟨x, hx, hpos⟩ := exists_toRat_pos_of_slices h hfinite
  have hle : (toRat x : K) ≤ (c.values.map fun x => (toRat x : K)).sum :=
    List.single_le_sum hnonneg _ (List.mem_map_of_mem hx)
  exact Slice.sharesOut hturn hnonneg ((Rat.cast_pos.mpr hpos).trans_le hle) start

end

/-! ### Slices -/

/-- The slice is drawn as a whole circle, and as a ring if there is a hole. -/
def IsDrawnWhole (s : Slice Float) (value : Float) : Prop :=
  ∀ (c : Chart) (o : Options) (circle : Circle) (inner : Option Float) (i : Nat) (label : String),
    ∃ w, wedge? c o circle inner i s label value = some (.wedge w) ∧ w.isRing = inner.isSome ∧
      w.path = Svg.phrase (circlePath circle circle.radius true ++
        inner.elim [] (circlePath circle · false))

theorem isDrawnWhole {s : Slice Float} {value : Float} (hs : s.isWhole Angle.turn = true)
    (hvalue : 0.0 < value) : IsDrawnWhole s value := by
  intro c o circle inner i label
  have hpath : slicePath circle inner s = circlePath circle circle.radius true ++
      inner.elim [] (circlePath circle · false) := by
    cases inner <;> exact if_pos hs
  refine ⟨_, if_pos hvalue, ?_, congrArg Svg.phrase hpath⟩
  rw [hs, Bool.true_and]

/-- The slices of a chart follow one another from the top without a gap, one for every label. Over
exact numbers they share out a turn, and the only positive value is drawn as a whole circle or
ring. -/
theorem slices_partition (h : slices c = .ok ss) :
    ss.length = c.labels.length ∧ ss.head?.map Slice.start = some Angle.top ∧
    ss.IsChain (fun a b => b.start = a.stop) ∧
    ((∀ x ∈ c.values, x.isFinite = true) →
      (∀ (K : Type) [Field K] [LinearOrder K] [IsStrictOrderedRing K] (start turn : K), 0 < turn →
        let values := c.values.map fun x => (toRat x : K)
        Slice.SharesOut turn values (Slice.share turn (Scalar.sum values) start values)) ∧
      ∀ (i : Nat) v s, c.values[i]? = some v → ss[i]? = some s → 0.0 < v →
        (∀ (j : Nat) w, c.values[j]? = some w → 0.0 < w → j = i) → IsDrawnWhole s v) := by
  obtain ⟨hlengths, hvalues, htotal, rfl⟩ := slices_eq_ok_iff.mp h
  obtain ⟨hne, hlength⟩ := checkLengths_eq_ok_iff.mp hlengths
  refine ⟨(Slice.length_share _ _).trans hlength, ?_, Slice.isChain_share _ _, fun hfinite =>
    ⟨fun K _ _ _ start turn hturn => sharesOut_of_slices h hfinite start hturn,
      fun i v s hv hs hpos honly =>
        isDrawnWhole (Slice.isWhole_of_only hfinite hvalues hv hs hpos honly) hpos⟩⟩
  obtain ⟨v, rest, hv⟩ := List.exists_cons_of_ne_nil (values_ne_nil hlengths)
  rw [hv]
  rfl

/-- Zeros around the only positive value have slices without a width. -/
theorem slices_partition_only :
    let c : Chart := { type := .donut, labels := ["A", "B", "C"], values := [0.0, 0.7, -0.0] }
    ∃ a b d, slices c = .ok [a, b, d] ∧ a.start = Angle.top ∧ b.start = a.stop ∧
      d.start = b.stop ∧ IsDrawnWhole b 0.7 := by
  intro c
  have h : slices c = .ok (Slice.share Angle.turn (Scalar.sum c.values) Angle.top c.values) := by
    decide
  have hfinite : ∀ x ∈ c.values, x.isFinite = true := by decide
  obtain ⟨-, -, -, hexact⟩ := slices_partition h
  have honly : ∀ (j : Nat) w, c.values[j]? = some w → 0.0 < w → j = 1 := by
    intro j w hw hpos
    match j with
    | 0 | 2 =>
      cases hw
      exact absurd hpos (by decide)
    | 1 => rfl
    | j + 3 => cases hw
  have hwhole := (hexact hfinite).2 1 0.7 _ rfl rfl (by decide) honly
  exact ⟨_, _, _, h, rfl, rfl, rfl, hwhole⟩

end Drawing
end ChartText
