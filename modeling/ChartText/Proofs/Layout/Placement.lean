import ChartText.Proofs.Layout.Marks

/-! # Where the marks of a chart stand

`Cells` are the numbers of a chart with axes and `Scale.of?` is the plot area that they are laid out
in, with the number that reaches its top. Over exact numbers all bars and points lie inside the plot
area, bars do not overlap, and points go from left to right (`Scale.barsPlaced`,
`Scale.pathsPlaced`). -/

namespace ChartText

/-- The numbers of a chart with axes: one for every label, or several series of them. -/
inductive Cells (α : Type)
  | single (values : List α)
  | grouped (series : List (List α))

namespace Cells
variable {α β : Type}

def all : Cells α → List α
  | single values => values
  | grouped series => series.flatten

def isGrouped : Cells α → Bool
  | single _ => false
  | grouped _ => true

def map (f : α → β) : Cells α → Cells β
  | single values => single (values.map f)
  | grouped series => grouped (series.map (List.map f))

/-- There is a number for every label. Series may be shorter or longer. -/
def Fits (count : Nat) : Cells α → Prop
  | single values => values.length = count
  | grouped _ => True

theorem all_map (f : α → β) (cells : Cells α) : (cells.map f).all = cells.all.map f := by
  cases cells with
  | single values => rfl
  | grouped series => exact List.map_flatten.symm

theorem isGrouped_map (f : α → β) (cells : Cells α) : (cells.map f).isGrouped = cells.isGrouped := by
  cases cells <;> rfl

theorem Fits.map (f : α → β) {count : Nat} {cells : Cells α} (h : cells.Fits count) :
    (cells.map f).Fits count := by
  cases cells with
  | single values => exact (List.length_map f).trans h
  | grouped series => trivial

end Cells

/-- A scale from zero to `peak` on a plot area. -/
structure Scale (α : Type) where
  plot : PlotArea α
  peak : α

namespace Scale

section
variable {α : Type} [Scalar α]

/-- The scale of cells on a canvas, if they can be scaled and the canvas leaves room. -/
def of? (canvas : Canvas α) (cells : Cells α) : Option (Scale α) :=
  match Scalar.largest? cells.all, PlotArea.ofCanvas? canvas cells.isGrouped with
  | some peak, some plot =>
    if canvas.isDrawable && (Scalar.isFinite peak && (0.0 : α) < peak) then some ⟨plot, peak⟩
    else none
  | _, _ => none

/-- The bars over `count` labels, from left to right, each with its number. -/
def bars (s : Scale α) (count : Nat) : Cells α → List (α × Rectangle α)
  | .single values =>
    values.zipIdx.map fun (v, i) => (v, (Slots.of s.plot count).bar s.plot s.peak i v)
  | .grouped series =>
    (List.range count).flatMap fun i =>
      series.zipIdx.map fun (values, j) =>
        let v := values[i]?.getD 0.0
        (v, (Slots.of s.plot count).groupedBar s.plot s.peak series.length i j v)

/-- The points of a line, each with its number. -/
def path (s : Scale α) (values : List α) : List (α × Point α) :=
  values.zipIdx.map fun (v, i) => (v, ⟨s.plot.pointX i values.length, s.plot.yFor v s.peak⟩)

/-- The lines over `count` labels. -/
def paths (s : Scale α) (count : Nat) : Cells α → List (List (α × Point α))
  | .single values => [s.path values]
  | .grouped series => series.map fun values => s.path (fitted count values)

end

variable {K : Type} [Field K] [LinearOrder K] [IsStrictOrderedRing K]

/-! ### The plot area -/

/-- The height of the bands over a plot area. -/
def bands (withLegend : Bool) : K :=
  if withLegend then 30 + 25 else 30

/-- The plot area is the canvas without its padding and without the bands at its top. -/
structure IsOn (s : Scale K) (canvas : Canvas K) (withLegend : Bool) : Prop where
  left : s.plot.left = canvas.padding
  right : s.plot.right = canvas.width - canvas.padding
  bottom : s.plot.bottom = canvas.height - canvas.padding
  top : s.plot.top = canvas.padding + bands withLegend
  left_lt_right : s.plot.left < s.plot.right
  top_lt_bottom : s.plot.top < s.plot.bottom

/-- The scale reaches up to the largest cell, which is positive. -/
structure Reaches (s : Scale K) (cells : Cells K) : Prop where
  peak_pos : 0 < s.peak
  peak_mem : s.peak ∈ cells.all
  le_peak : ∀ v ∈ cells.all, v ≤ s.peak

theorem ofCanvas?_eq_some_iff {canvas : Canvas K} {withLegend : Bool} {plot : PlotArea K} :
    PlotArea.ofCanvas? canvas withLegend = some plot ↔
      canvas.padding < canvas.width - canvas.padding ∧
        canvas.padding + bands withLegend < canvas.height - canvas.padding ∧
        plot = ⟨canvas.padding, canvas.width - canvas.padding, canvas.padding + bands withLegend,
          canvas.height - canvas.padding⟩ := by
  have htop : canvas.height - canvas.padding - (canvas.height - canvas.padding * 2.0 -
      PlotArea.titleBand - if withLegend then PlotArea.legendBand else 0.0) =
      canvas.padding + bands withLegend := by
    cases withLegend <;> norm_num [bands, PlotArea.titleBand, PlotArea.legendBand] <;> ring
  unfold PlotArea.ofCanvas? PlotArea.width PlotArea.height
  dsimp only
  rw [htop]
  simp only [Scalar.zero_literal, sub_pos]
  split
  · next h => simp only [h, true_and, Option.some.injEq, eq_comm]
  · next h =>
    simp only [reduceCtorEq, false_iff, not_and]
    exact fun hwidth hheight => absurd ⟨hwidth, hheight⟩ h

theorem of?_eq_some_iff {canvas : Canvas K} {cells : Cells K} {s : Scale K} :
    of? canvas cells = some s ↔
      canvas.isDrawable = true ∧ s.IsOn canvas cells.isGrouped ∧ s.Reaches cells := by
  obtain ⟨plot, peak⟩ := s
  unfold of?
  constructor
  · intro h
    split at h
    · next m p hm hp =>
      split at h
      · next hok =>
        simp only [Option.some.injEq, mk.injEq] at h
        obtain ⟨rfl, rfl⟩ := h
        simp only [Scalar.isFinite_eq_true, Scalar.zero_literal, Bool.true_and, Bool.and_eq_true,
          decide_eq_true_eq] at hok
        obtain ⟨hmem, hle⟩ := Scalar.largest?_eq_some_iff.mp hm
        obtain ⟨hwidth, hheight, rfl⟩ := ofCanvas?_eq_some_iff.mp hp
        exact ⟨hok.1, ⟨rfl, rfl, rfl, rfl, hwidth, hheight⟩, hok.2, hmem, hle⟩
      · cases h
    · cases h
  · rintro ⟨hcanvas, ⟨hleft, hright, hbottom, htop, hwidth, hheight⟩, hpos, hmem, hle⟩
    have hplot : PlotArea.ofCanvas? canvas cells.isGrouped = some plot := by
      obtain ⟨left, right, top, bottom⟩ := plot
      dsimp only at hleft hright hbottom htop hwidth hheight
      subst hleft hright hbottom htop
      exact ofCanvas?_eq_some_iff.mpr ⟨hwidth, hheight, rfl⟩
    rw [Scalar.largest?_eq_some_iff.mpr ⟨hmem, hle⟩, hplot]
    simp [hcanvas, hpos]

/-! ### What is asked of the marks -/

/-- The rectangle is a bar for a number: it stands on the bottom of the plot area and inside it. -/
structure Stands (s : Scale K) (value : K) (r : Rectangle K) : Prop where
  across : r.IsBetween s.plot.left s.plot.right
  height_nonneg : 0 ≤ r.height
  foot : r.y + r.height = s.plot.bottom
  top_le : s.plot.top ≤ r.y
  height_eq_zero : value ≤ 0 → r.height = 0
  y_eq_top : value = s.peak → r.y = s.plot.top

/-- Bars stand in the plot area, and each ends before the next one begins. -/
structure BarsPlaced (s : Scale K) (bars : List (K × Rectangle K)) : Prop where
  stands : ∀ bar ∈ bars, s.Stands bar.1 bar.2
  separated : bars.Pairwise fun a b => a.2.x + a.2.width ≤ b.2.x

/-- The point of a number lies in the plot area. -/
structure Lies (s : Scale K) (value : K) (p : Point K) : Prop where
  left_le : s.plot.left ≤ p.x
  le_right : p.x ≤ s.plot.right
  top_le : s.plot.top ≤ p.y
  le_bottom : p.y ≤ s.plot.bottom
  y_eq_top : value = s.peak → p.y = s.plot.top

/-- The points of a path lie in the plot area and go to the right. -/
structure PathPlaced (s : Scale K) (path : List (K × Point K)) : Prop where
  lies : ∀ point ∈ path, s.Lies point.1 point.2
  increasing : path.Pairwise fun a b => a.2.x < b.2.x

section
variable {s : Scale K} {canvas : Canvas K} {cells : Cells K} {series : List (List K)}
  {withLegend : Bool} {count : Nat}

/-! ### Bars -/

theorem stands_of_isBetween {value : K} {r : Rectangle K} (hpeak : 0 < s.peak)
    (hplot : s.plot.top ≤ s.plot.bottom) (hvalue : value ≤ s.peak)
    (hr : r.IsBetween s.plot.left s.plot.right) (hy : r.y = s.plot.yFor value s.peak)
    (hheight : r.height = s.plot.barHeight value s.peak) : s.Stands value r where
  across := hr
  height_nonneg := hheight ▸ PlotArea.barHeight_nonneg
  foot := by rw [hy, hheight, PlotArea.yFor, sub_add_cancel]
  top_le := hy ▸ PlotArea.top_le_yFor hpeak hplot hvalue
  height_eq_zero h := hheight ▸ PlotArea.barHeight_of_nonpos hpeak hplot h
  y_eq_top h := by rw [hy, h, PlotArea.yFor_max hpeak hplot]

theorem pairwise_snd_zipIdx {α : Type} (l : List α) : l.zipIdx.Pairwise fun a b => a.2 < b.2 := by
  rw [← List.pairwise_map, List.zipIdx_map_snd]
  exact List.pairwise_lt_range'

theorem Reaches.getD_le (h : s.Reaches (.grouped series)) {values : List K} (hv : values ∈ series)
    (i : Nat) : values[i]?.getD 0.0 ≤ s.peak := by
  cases hi : values[i]? with
  | none =>
    rw [Option.getD_none, Scalar.zero_literal]
    exact h.peak_pos.le
  | some v => exact h.le_peak v (List.mem_flatten.mpr ⟨values, hv, List.mem_of_getElem? hi⟩)

theorem barsPlaced (hon : s.IsOn canvas withLegend) (hreaches : s.Reaches cells)
    (hfits : cells.Fits count) (hcount : 0 < count) : s.BarsPlaced (s.bars count cells) := by
  have hleft := hon.left_lt_right
  have hstands {i : Nat} (hi : i < count) {value : K} (hvalue : value ≤ s.peak) {r : Rectangle K}
      (hr : r.IsBetween ((Slots.of s.plot count).left i)
        ((Slots.of s.plot count).left i + (Slots.of s.plot count).filled))
      (hy : r.y = s.plot.yFor value s.peak) (hheight : r.height = s.plot.barHeight value s.peak) :
      s.Stands value r :=
    stands_of_isBetween hreaches.peak_pos hon.top_lt_bottom.le hvalue
      ⟨(Slots.plot_left_le_left hleft hcount).trans hr.left_le, hr.width_nonneg,
        hr.le_right.trans (Slots.left_add_filled_le_right hleft hcount hi)⟩ hy hheight
  cases cells with
  | single values =>
    refine ⟨?_, ?_⟩
    · simp only [bars, List.forall_mem_map]
      intro entry hentry
      exact hstands (hfits ▸ (List.mem_zipIdx' hentry).1)
        (hreaches.le_peak _ (List.fst_mem_of_mem_zipIdx hentry))
        (Slots.bar_isBetween hleft hcount) rfl rfl
    · rw [bars, List.pairwise_map]
      exact (pairwise_snd_zipIdx values).imp fun hij =>
        Slots.left_add_filled_le_left hleft hcount hij
  | grouped series =>
    -- the bars of a group are inside its slot
    have hbetween {i : Nat} {entry : List K × Nat} (hentry : entry ∈ series.zipIdx) :
        ((Slots.of s.plot count).groupedBar s.plot s.peak series.length i entry.2
          (entry.1[i]?.getD 0.0)).IsBetween ((Slots.of s.plot count).left i)
            ((Slots.of s.plot count).left i + (Slots.of s.plot count).filled) :=
      Slots.groupedBar_isBetween hleft hcount (List.mem_zipIdx' hentry).1
    refine ⟨?_, ?_⟩
    · simp only [bars, List.forall_mem_flatMap, List.forall_mem_map]
      intro i hi entry hentry
      exact hstands (List.mem_range.mp hi)
        (hreaches.getD_le (List.fst_mem_of_mem_zipIdx hentry) i) (hbetween hentry) rfl rfl
    · simp only [bars, List.pairwise_flatMap, List.pairwise_map, List.forall_mem_map]
      refine ⟨fun i _ => ?_, List.pairwise_lt_range.imp fun hij entry hentry entry' hentry' => ?_⟩
      · exact (pairwise_snd_zipIdx series).imp_of_mem fun hentry _ hjk =>
          Slots.groupedBar_separated hleft hcount
            (Nat.zero_lt_of_lt (List.mem_zipIdx' hentry).1) hjk
      · exact ((hbetween hentry).le_right.trans
          (Slots.left_add_filled_le_left hleft hcount hij)).trans (hbetween hentry').left_le

/-! ### Points -/

theorem pathPlaced (hon : s.IsOn canvas withLegend) (hpeak : 0 < s.peak) {values : List K}
    (hvalues : ∀ v ∈ values, v ≤ s.peak) : s.PathPlaced (s.path values) where
  lies := by
    have htop := hon.top_lt_bottom.le
    simp only [path, List.forall_mem_map]
    intro entry hentry
    exact
      { left_le := PlotArea.left_le_pointX hon.left_lt_right
        le_right := PlotArea.pointX_le_right hon.left_lt_right (List.mem_zipIdx' hentry).1
        top_le := PlotArea.top_le_yFor hpeak htop (hvalues _ (List.fst_mem_of_mem_zipIdx hentry))
        le_bottom := sub_le_self _ PlotArea.barHeight_nonneg
        y_eq_top := fun h => by rw [h, PlotArea.yFor_max hpeak htop] }
  increasing := by
    rw [path, List.pairwise_map]
    exact (pairwise_snd_zipIdx values).imp (PlotArea.pointX_lt_pointX hon.left_lt_right)

theorem pathsPlaced (hon : s.IsOn canvas withLegend) (hreaches : s.Reaches cells) :
    ∀ path ∈ s.paths count cells, s.PathPlaced path := by
  cases cells with
  | single values =>
    rw [paths, List.forall_mem_singleton]
    exact pathPlaced hon hreaches.peak_pos hreaches.le_peak
  | grouped series =>
    simp only [paths, List.forall_mem_map]
    intro values hvalues
    refine pathPlaced hon hreaches.peak_pos fun v hv => ?_
    rcases List.mem_append.mp hv with hv | hv
    · exact hreaches.le_peak v
        (List.mem_flatten.mpr ⟨values, hvalues, List.mem_of_mem_take hv⟩)
    · rw [List.eq_of_mem_replicate hv, Scalar.zero_literal]
      exact hreaches.peak_pos.le

end

end Scale
end ChartText
