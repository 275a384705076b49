import ChartText.Proofs.Drawing.Refused
import ChartText.Proofs.Number.Rounding
import ChartText.Rendering
import ChartText.Settings.Validity

/-! # Room to draw

Valid settings have sides that are more than twice the padding (`Canvas.IsRoomy`). Sideways that is
all a chart needs, and a circle needs no more either. But above the plot area of a chart with axes
are the band of the title and, with a legend, a second band, which the settings are not checked for:
whether such a chart can be drawn depends on them (`Settings.draw_room`). -/

namespace ChartText
open Binary64 Drawing

/-! ### The canvas of valid settings -/

/-- Twice the padding is less than either side. -/
structure Canvas.IsRoomy (k : Canvas Float) : Prop where
  width : k.width.isFinite = true
  height : k.height.isFinite = true
  padding : k.padding.isFinite = true
  padding_nonneg : 0 ≤ scaled k.padding
  width_room : 2 * scaled k.padding < scaled k.width
  height_room : 2 * scaled k.padding < scaled k.height

theorem scaled_two : scaled 2.0 = 2 * one := by
  decide +kernel

/-- Doubling is exact, unless the result is too large. -/
theorem isRounding_double {x : Float} (hx : x.isFinite = true) :
    IsRounding (2 * scaled x) (x * 2.0) := by
  have hone : (one : ℚ) ≠ 0 := by
    rw [cast_one]
    positivity
  have h := isRounding_mul hx (y := 2.0) (by decide)
  rw [scaled_two] at h
  convert h using 1
  push_cast
  field_simp

theorem smaller_cases {x y : Float} (hx : x.isNaN = false) (hy : y.isNaN = false) :
    (Scalar.smaller x y = x ∨ Scalar.smaller x y = y) ∧
      scaled (Scalar.smaller x y) ≤ scaled x ∧ scaled (Scalar.smaller x y) ≤ scaled y := by
  have hlt := lt_iff hy hx
  unfold Scalar.smaller
  split
  · next h => exact ⟨.inr rfl, (hlt.mp h).le, le_rfl⟩
  · next h => exact ⟨.inl rfl, le_rfl, not_lt.mp fun h' => h (hlt.mpr h')⟩

theorem DrawingSettings.isFinite_of_sideFault? {name : String} {value : Float}
    (h : sideFault? name value = none) : value.isFinite = true := by
  unfold sideFault? at h
  split at h
  · next hv => exact (Bool.and_eq_true_iff.mp hv).1
  · cases h

theorem DrawingSettings.canvas_isRoomy {s : DrawingSettings} (hwidth : s.width.isFinite = true)
    (hheight : s.height.isFinite = true) (hpadding : s.paddingFault? = none)
    (hroom : s.roomFault? = none) : s.canvas.IsRoomy := by
  have hwnan := (isNaN_isInf_of_isFinite hwidth).1
  have hhnan := (isNaN_isInf_of_isFinite hheight).1
  unfold paddingFault? at hpadding
  split at hpadding
  · next hp =>
    obtain ⟨hpfinite, hp0⟩ := Bool.and_eq_true_iff.mp hp
    rw [decide_eq_true_eq, le_iff (by decide) (isNaN_isInf_of_isFinite hpfinite).1,
      scaled_zero] at hp0
    have hround := isRounding_double hpfinite
    obtain ⟨hsmaller, hlew, hleh⟩ := smaller_cases hwnan hhnan
    have hfinite : (Scalar.smaller s.width s.height).isFinite = true := by
      rcases hsmaller with h | h <;> rw [h] <;> assumption
    -- The doubled padding is below the smaller side, and so is the exact one.
    have hlt : 2 * scaled s.padding < scaled (Scalar.smaller s.width s.height) := by
      unfold roomFault? at hroom
      split at hroom
      · cases hroom
      · next hnot =>
        by_contra hle
        refine hnot ((le_iff (isNaN_isInf_of_isFinite hfinite).1 hround.isNaN).mpr ?_)
        exact hround.le _ hfinite (by exact_mod_cast not_lt.mp hle)
    exact ⟨hwidth, hheight, hpfinite, hp0, hlt.trans_le hlew, hlt.trans_le hleh⟩
  · cases hpadding

theorem Settings.IsValid.isRoomy {s : Settings} (h : s.IsValid) : s.drawing.canvas.IsRoomy := by
  unfold IsValid fault? DrawingSettings.fault? at h
  simp only [Option.orElse_eq_orElse, Option.orElse_eq_or, Option.or_eq_none_iff] at h
  obtain ⟨⟨hwidth, hheight, hpadding, hroom, -⟩, -⟩ := h
  exact DrawingSettings.canvas_isRoomy (DrawingSettings.isFinite_of_sideFault? hwidth)
    (DrawingSettings.isFinite_of_sideFault? hheight) hpadding hroom

theorem Canvas.IsRoomy.isDrawable {k : Canvas Float} (h : k.IsRoomy) : k.isDrawable = true := by
  have hp := h.padding_nonneg
  have hw := h.width_room
  have hh := h.height_room
  have hw0 := (pos_iff (isNaN_isInf_of_isFinite h.width).1).mpr (show 0 < scaled k.width by omega)
  have hh0 := (pos_iff (isNaN_isInf_of_isFinite h.height).1).mpr (show 0 < scaled k.height by omega)
  have hp0 : ¬ k.padding < 0.0 := fun hneg =>
    absurd ((neg_iff (isNaN_isInf_of_isFinite h.padding).1).mp hneg) (by omega)
  simp only [Canvas.isDrawable, Bool.and_eq_true, decide_eq_true_eq, Bool.not_eq_true',
    decide_eq_false_iff_not]
  exact ⟨⟨⟨⟨h.width, hw0⟩, h.height, hh0⟩, h.padding⟩, hp0⟩

/-! ### What the padding leaves of a side -/

theorem lt_scaled_sub {side padding : Float} (hside : side.isFinite = true)
    (hpadding : padding.isFinite = true) (h0 : 0 ≤ scaled padding)
    (h : 2 * scaled padding < scaled side) : scaled padding < scaled (side - padding) := by
  have hround := isRounding_sub hside hpadding
  by_cases hlarge : 2 ^ 53 ≤ scaled side
  · -- Half of the side is between the two.
    obtain ⟨z, hz, hhalf⟩ := exists_half hside hlarge
    have hle := hround.le z hz (by
      rw [le_sub_iff_add_le]
      exact_mod_cast (show scaled z + scaled padding ≤ scaled side by omega))
    omega
  · obtain ⟨z, hz, hscaled⟩ := exists_scaled_nat (n := (scaled side - scaled padding).toNat)
      (by omega)
    have hle := hround.le z hz (by
      rw [le_sub_iff_add_le]
      exact_mod_cast (show scaled z + scaled padding ≤ scaled side by omega))
    omega

/-- Half of a side is more than the padding, unless the side is the very next number. -/
theorem lt_scaled_div_two {side padding : Float} (hside : side.isFinite = true)
    (h0 : 0 ≤ scaled padding) (h : 2 * scaled padding + 1 < scaled side) :
    (side / 2.0).isFinite = true ∧ scaled padding < scaled (side / 2.0) := by
  have hone : (one : ℚ) ≠ 0 := by
    rw [cast_one]
    positivity
  have hround : IsRounding (scaled side / 2) (side / 2.0) := by
    have hdiv := isRounding_div hside (y := 2.0) (by decide +kernel) (by decide +kernel)
    rw [scaled_two] at hdiv
    convert hdiv using 1
    push_cast
    field_simp
  have hfinite : (side / 2.0).isFinite = true := by
    refine hround.isFinite (x := 0.0) (z := side) isFinite_zero hside ?_ ?_
    · rw [scaled_zero, Int.cast_zero]
      have : (0 : ℚ) ≤ scaled side := by exact_mod_cast (show 0 ≤ scaled side by omega)
      linarith
    · have : (0 : ℚ) ≤ scaled side := by exact_mod_cast (show 0 ≤ scaled side by omega)
      linarith
  have hbetween {z : Float} (hz : z.isFinite = true) (hle : 2 * scaled z ≤ scaled side)
      (hlt : scaled padding < scaled z) : scaled padding < scaled (side / 2.0) := by
    refine hlt.trans_le (hround.le z hz ?_)
    rw [le_div_iff₀ two_pos, mul_comm]
    exact_mod_cast hle
  refine ⟨hfinite, ?_⟩
  by_cases hlarge : 2 ^ 53 ≤ scaled side
  · obtain ⟨z, hz, hhalf⟩ := exists_half hside hlarge
    exact hbetween hz (by omega) (by omega)
  · obtain ⟨z, hz, hscaled⟩ := exists_scaled_nat (n := (scaled padding + 1).toNat) (by omega)
    exact hbetween hz (by omega) (by omega)

/-! ### The plot area -/

theorem ones_nonneg (n : Nat) : (0 : Int) ≤ n * one := by
  rw [← Int.natCast_mul]
  exact Int.natCast_nonneg _

/-- The band of the legend, in pixels. -/
def legendPixels (withLegend : Bool) : Nat :=
  if withLegend then 25 else 0

/-- The bands above a plot area, in pixels. -/
def bandPixels (withLegend : Bool) : Nat :=
  30 + legendPixels withLegend

/-- The height of the plot area, as it is computed first. -/
def plotHeight (k : Canvas Float) (withLegend : Bool) : Float :=
  k.height - k.padding * 2.0 - 30.0 - (if withLegend then 25.0 else 0.0)

theorem ofCanvas?_eq_none_iff {k : Canvas Float} {withLegend : Bool} :
    PlotArea.ofCanvas? k withLegend = none ↔
      ¬ (0.0 < k.width - k.padding - k.padding ∧
        0.0 < k.height - k.padding - (k.height - k.padding - plotHeight k withLegend)) := by
  have hplot : PlotArea.ofCanvas? k withLegend =
      if 0.0 < k.width - k.padding - k.padding ∧
        0.0 < k.height - k.padding - (k.height - k.padding - plotHeight k withLegend) then
        some ⟨k.padding, k.width - k.padding, k.height - k.padding - plotHeight k withLegend,
          k.height - k.padding⟩
      else none := rfl
  rw [hplot]
  split
  · next h => exact ⟨nofun, fun hnot => absurd h hnot⟩
  · next h => exact ⟨fun _ => h, fun _ => rfl⟩

theorem scaled_titleBand : (30.0 : Float).isFinite = true ∧ scaled 30.0 = (30 : Nat) * one := by
  decide +kernel

theorem scaled_legendBand (withLegend : Bool) :
    (if withLegend then 25.0 else 0.0 : Float).isFinite = true ∧
      scaled (if withLegend then 25.0 else 0.0) = legendPixels withLegend * one := by
  cases withLegend <;> decide +kernel

section
variable {k : Canvas Float} (h : k.IsRoomy)
include h

/-- Twice the padding is computed exactly. -/
theorem scaled_twice : (k.padding * 2.0).isFinite = true ∧
    scaled (k.padding * 2.0) = 2 * scaled k.padding := by
  have hround := isRounding_double h.padding
  have hheight := (isFinite_iff (isNaN_isInf_of_isFinite h.height).1).mp h.height
  have hp := h.padding_nonneg
  have hroom := h.height_room
  obtain ⟨z, hz, hdouble⟩ := exists_double h.padding hp (by omega)
  have heq := hround.scaled_eq hz (by exact_mod_cast hdouble)
  exact ⟨(isFinite_iff hround.isNaN).mpr (by omega), heq.trans hdouble⟩

theorem isFinite_below : (k.height - k.padding * 2.0).isFinite = true := by
  obtain ⟨htwice, hscaled⟩ := scaled_twice h
  have hp := h.padding_nonneg
  have hroom := h.height_room
  exact isFinite_sub h.height htwice (by omega) (by omega)

/-- A pixel is left under the bands, and it is still there after rounding. -/
theorem one_le_scaled_plotHeight {withLegend : Bool}
    (hbands : 2 * scaled k.padding + (bandPixels withLegend + 1 : Nat) * one ≤ scaled k.height) :
    (plotHeight k withLegend).isFinite = true ∧ one ≤ scaled (plotHeight k withLegend) := by
  obtain ⟨htwice, hscaled⟩ := scaled_twice h
  obtain ⟨htitle, htitle'⟩ := scaled_titleBand
  obtain ⟨hlegend, hlegend'⟩ := scaled_legendBand withLegend
  have hbelow := isFinite_below h
  have hbounds : legendPixels withLegend ≤ 25 := by cases withLegend <;> decide
  rw [bandPixels] at hbands
  have h1 : ((30 + (legendPixels withLegend + 1) : Nat) : Int) * one ≤
      scaled (k.height - k.padding * 2.0) :=
    le_scaled_sub h.height htwice (by omega) (by rw [hscaled]; push_cast at hbands ⊢; linarith)
  have h2 : ((legendPixels withLegend + 1 : Nat) : Int) * one ≤
      scaled (k.height - k.padding * 2.0 - 30.0) :=
    le_scaled_sub hbelow htitle (by omega) (by rw [htitle']; push_cast at h1 ⊢; linarith)
  have hfinite2 : (k.height - k.padding * 2.0 - 30.0).isFinite = true :=
    isFinite_sub hbelow htitle ((ones_nonneg _).trans h1)
      (by rw [htitle']; exact ones_nonneg 30)
  have h3 : ((1 : Nat) : Int) * one ≤ scaled (plotHeight k withLegend) :=
    le_scaled_sub hfinite2 hlegend (by decide) (by rw [hlegend']; push_cast at h2 ⊢; linarith)
  rw [Nat.cast_one, one_mul] at h3
  exact ⟨isFinite_sub hfinite2 hlegend ((ones_nonneg _).trans h2)
    (by rw [hlegend']; exact ones_nonneg _), h3⟩

theorem scaled_plotHeight_le {withLegend : Bool}
    (hbands : scaled k.height ≤ 2 * scaled k.padding + bandPixels withLegend * one) :
    (plotHeight k withLegend).isFinite = true ∧ scaled (plotHeight k withLegend) ≤ 0 := by
  obtain ⟨htwice, hscaled⟩ := scaled_twice h
  obtain ⟨htitle, htitle'⟩ := scaled_titleBand
  obtain ⟨hlegend, hlegend'⟩ := scaled_legendBand withLegend
  have hbelow := isFinite_below h
  have hbounds : legendPixels withLegend ≤ 25 := by cases withLegend <;> decide
  rw [bandPixels] at hbands
  have hbelow0 : 0 < scaled (k.height - k.padding * 2.0) :=
    (scaled_sub_pos_iff h.height htwice).mpr (by rw [hscaled]; exact h.height_room)
  have h1 : scaled (k.height - k.padding * 2.0) ≤ ((30 + legendPixels withLegend : Nat) : Int) * one :=
    scaled_sub_le h.height htwice (by omega) (by rw [hscaled]; push_cast at hbands ⊢; linarith)
  have h2 : scaled (k.height - k.padding * 2.0 - 30.0) ≤ (legendPixels withLegend : Int) * one :=
    scaled_sub_le hbelow htitle (by omega) (by rw [htitle']; push_cast at h1 ⊢; linarith)
  have hfinite2 : (k.height - k.padding * 2.0 - 30.0).isFinite = true :=
    isFinite_sub hbelow htitle hbelow0.le (by rw [htitle']; exact ones_nonneg 30)
  have h3 : scaled (plotHeight k withLegend) ≤ ((0 : Nat) : Int) * one :=
    scaled_sub_le hfinite2 hlegend (by decide) (by rw [hlegend']; push_cast at h2 ⊢; linarith)
  rw [Nat.cast_zero, zero_mul] at h3
  refine ⟨?_, h3⟩
  -- At most the two bands are missing.
  obtain ⟨y, hy, hy'⟩ := exists_scaled_neg htitle
  have hlow2 := (isRounding_sub hbelow htitle).le y hy (by
    rw [hy', htitle']
    push_cast
    have : (0 : ℚ) ≤ scaled (k.height - k.padding * 2.0) := by exact_mod_cast hbelow0.le
    linarith)
  obtain ⟨x, hx, hx'⟩ := exists_scaled_ones (n := 30 + legendPixels withLegend) (by omega)
  obtain ⟨z, hz, hz'⟩ := exists_scaled_neg hx
  refine (isRounding_sub hfinite2 hlegend).isFinite hz hfinite2 ?_ ?_
  · rw [le_sub_iff_add_le, hz', hx', hlegend']
    rw [hy', htitle'] at hlow2
    push_cast
    have : (-((30 : Int) * one) : ℚ) ≤ scaled (k.height - k.padding * 2.0 - 30.0) := by
      exact_mod_cast hlow2
    push_cast at this
    linarith
  · rw [sub_le_self_iff, hlegend']
    exact_mod_cast ones_nonneg (legendPixels withLegend)

/-- Sideways there is always room. -/
theorem pos_plotWidth : 0.0 < k.width - k.padding - k.padding := by
  have hp := h.padding_nonneg
  have hroom := h.width_room
  have hright := isFinite_sub h.width h.padding (by omega) hp
  rw [pos_iff (isRounding_sub hright h.padding).isNaN, scaled_sub_pos_iff hright h.padding]
  exact lt_scaled_sub h.width h.padding hp hroom

theorem ofCanvas?_ne_none {withLegend : Bool}
    (hbands : 2 * scaled k.padding + (bandPixels withLegend + 1 : Nat) * one ≤ scaled k.height)
    (hheight : scaled k.height ≤ 2 ^ 53 * one) : PlotArea.ofCanvas? k withLegend ≠ none := by
  obtain ⟨hfinite, hplot⟩ := one_le_scaled_plotHeight h hbands
  have hp := h.padding_nonneg
  have hroom := h.height_room
  have hbottom := isFinite_sub h.height h.padding (by omega) hp
  have hpb := lt_scaled_sub h.height h.padding hp hroom
  have hround := isRounding_sub h.height h.padding
  have hbh : scaled (k.height - k.padding) ≤ scaled k.height :=
    hround.ge k.height h.height (by
      have : (0 : ℚ) ≤ scaled k.padding := by exact_mod_cast hp
      linarith)
  -- The top is above the bottom by a pixel, so there is a number between the two.
  obtain ⟨z, hz, hzone, hzlt⟩ := exists_just_below hbottom (by omega) (hbh.trans hheight)
  have htop := (isRounding_sub hbottom hfinite).ge z hz (by
    rw [sub_le_iff_le_add]
    exact_mod_cast (show scaled (k.height - k.padding) ≤ scaled z + scaled (plotHeight k withLegend)
      by omega))
  have htopfinite := isFinite_sub hbottom hfinite (by omega) (by omega)
  rw [ne_eq, ofCanvas?_eq_none_iff, not_not]
  refine ⟨pos_plotWidth h, ?_⟩
  rw [pos_iff (isRounding_sub hbottom htopfinite).isNaN, scaled_sub_pos_iff hbottom htopfinite]
  omega

theorem ofCanvas?_eq_none {withLegend : Bool}
    (hbands : scaled k.height ≤ 2 * scaled k.padding + bandPixels withLegend * one) :
    PlotArea.ofCanvas? k withLegend = none := by
  obtain ⟨hfinite, hplot⟩ := scaled_plotHeight_le h hbands
  have hp := h.padding_nonneg
  have hroom := h.height_room
  have hbottom := isFinite_sub h.height h.padding (by omega) hp
  have hround := isRounding_sub hbottom hfinite
  rw [ofCanvas?_eq_none_iff]
  rintro ⟨-, hpos⟩
  refine not_pos_sub hbottom hround.isNaN ?_ hpos
  refine hround.le _ hbottom ?_
  have : (scaled (plotHeight k withLegend) : ℚ) ≤ 0 := by exact_mod_cast hplot
  linarith

end

/-! ### Drawing with valid settings -/

theorem DrawingSettings.canvas_optionsFor (s : DrawingSettings) (c : Chart) :
    (s.optionsFor c).canvas = s.canvas := by
  unfold optionsFor options Options.withColors
  dsimp only
  split <;> rfl

/-- The canvas has room for a chart: a pixel is left under the bands of a chart with axes, and the
diameter of a circle is more than the very next number after twice the padding. -/
structure Canvas.HasRoomFor (k : Canvas Float) (c : Chart) : Prop where
  axes : HasAxes c.type →
    2 * scaled k.padding + (bandPixels (hasLegend c) + 1 : Nat) * one ≤ scaled k.height ∧
      scaled k.height ≤ 2 ^ 53 * one
  circle : ¬ HasAxes c.type →
    2 * scaled k.padding + 1 < scaled k.width ∧ 2 * scaled k.padding + 1 < scaled k.height

/-- The bands take up what the padding leaves of the height. -/
def Canvas.LacksRoomFor (k : Canvas Float) (c : Chart) : Prop :=
  HasAxes c.type ∧ scaled k.height ≤ 2 * scaled k.padding + bandPixels (hasLegend c) * one

theorem Canvas.IsRoomy.not_radius_le {k : Canvas Float} (h : k.IsRoomy)
    (hwidth : 2 * scaled k.padding + 1 < scaled k.width)
    (hheight : 2 * scaled k.padding + 1 < scaled k.height) : ¬ (circleOn k).radius ≤ 0.0 := by
  obtain ⟨hsmaller, -⟩ := smaller_cases (isNaN_isInf_of_isFinite h.width).1
    (isNaN_isInf_of_isFinite h.height).1
  have hside : (Scalar.smaller k.width k.height).isFinite = true ∧
      2 * scaled k.padding + 1 < scaled (Scalar.smaller k.width k.height) := by
    rcases hsmaller with hs | hs <;> rw [hs]
    · exact ⟨h.width, hwidth⟩
    · exact ⟨h.height, hheight⟩
  obtain ⟨hfinite, hlt⟩ := lt_scaled_div_two hside.1 h.padding_nonneg hside.2
  have hpos := (scaled_sub_pos_iff hfinite h.padding).mpr hlt
  change ¬ Scalar.smaller k.width k.height / 2.0 - k.padding ≤ 0.0
  rw [le_iff (isRounding_sub hfinite h.padding).isNaN (by decide), scaled_zero]
  exact not_le.mpr hpos

/-- A chart with axes that can be drawn at all lacks nothing but a plot area. -/
theorem render_eq_canvasTooSmall {c : Chart} {o o' : Options} {svg : String}
    (type : HasAxes c.type) (hdrawn : c.render o' = .ok svg)
    (harea : PlotArea.ofCanvas? o.canvas (hasLegend c) = none) :
    c.render o = .error (.canvasTooSmall o.canvas) := by
  have hchecks {values : List Float} {withLegend : Bool} {plot : PlotArea Float} {max : Float}
      {elements : PlotArea Float → Float → List Svg.Element}
      (hs : Scaled c o' values withLegend plot max)
      (hnone : PlotArea.ofCanvas? o.canvas withLegend = none) :
      (do
        checkLengths c
        let max ← scaleMax c.type values
        let plot ← plotArea o withLegend
        document c o (elements plot max)) = .error (.canvasTooSmall o.canvas) := by
    rw [hs.lengths, hs.scale, plotArea_eq_error_iff.mpr ⟨hnone, rfl⟩]
    rfl
  have hdrawing : c.drawing o = .error (.canvasTooSmall o.canvas) := by
    obtain ⟨-, elements, hdrawn, -⟩ := Chart.render_eq_ok_iff.mp hdrawn
    unfold Chart.drawing Chart.drawingAs
    cases hdrawn with
    | bar ht hs | line ht hs | area ht hs =>
      rw [hasLegend, ht] at harea
      rw [ht]
      exact hchecks hs harea
    | radial ht =>
      generalize c.type = t at type ht
      cases ht <;> exact type.elim
  change (c.drawing o).map Svg.Document.write = _
  rw [hdrawing]
  rfl

/-- With valid settings a canvas is never too small for a chart that it has room for. For a chart
with axes it always is too small if the bands take up what the padding leaves of the height. -/
theorem Settings.draw_room {s : Settings} (h : s.IsValid) (c : Chart) :
    (s.drawing.canvas.HasRoomFor c → ∀ k, s.drawing.draw c ≠ .error (.canvasTooSmall k)) ∧
      (s.drawing.canvas.LacksRoomFor c → (∃ o svg, c.render o = .ok svg) →
        s.drawing.draw c = .error (.canvasTooSmall s.drawing.canvas)) := by
  have hroomy := h.isRoomy
  have hcanvas := s.drawing.canvas_optionsFor c
  constructor
  · intro hroom k hdraw
    generalize he : RenderError.canvasTooSmall k = e at hdraw
    cases Chart.refused_of_render hdraw with
    | lengths hlengths => rcases checkLengths_eq_error hlengths with rfl | rfl <;> cases he
    | scale _ hscale =>
      obtain ⟨_, _, _, rfl⟩ := scaleMax_eq_error hscale
      cases he
    | slices _ hlengths hslices =>
      rcases slices_eq_error hlengths hslices with ⟨_, _, rfl⟩ | ⟨_, _, rfl⟩ <;> cases he
    | plotArea type hnone =>
      obtain ⟨hbands, hheight⟩ := hroom.axes type
      exact ofCanvas?_ne_none hroomy hbands hheight (hcanvas ▸ hnone)
    | radius type hradius =>
      obtain ⟨hwidth, hheight⟩ := hroom.circle type
      exact hroomy.not_radius_le hwidth hheight (hcanvas ▸ hradius)
    | canvas hdrawable =>
      rw [hcanvas, hroomy.isDrawable] at hdrawable
      cases hdrawable
  · rintro ⟨type, hbands⟩ ⟨o, svg, hdrawn⟩
    rw [← hcanvas]
    exact render_eq_canvasTooSmall type hdrawn (by rw [hcanvas]; exact ofCanvas?_eq_none hroomy hbands)

/-- A canvas with room for one series, where the legend of two series takes the room. -/
theorem Settings.draw_room_legend :
    let s : Settings := { drawing := { height := 175.0 } }
    let plain : Chart := { labels := ["A"], values := [1.0] }
    let double : Chart :=
      { labels := ["A"], values := [1.0]
        series := some [⟨"s", [1.0], none⟩, ⟨"t", [2.0], none⟩] }
    s.IsValid ∧ (∀ k, s.drawing.draw plain ≠ .error (.canvasTooSmall k)) ∧
      s.drawing.draw double = .error (.canvasTooSmall s.drawing.canvas) := by
  intro s plain double
  have hvalid : s.IsValid := by
    unfold IsValid
    decide +kernel
  have hplain : s.drawing.canvas.HasRoomFor plain :=
    ⟨fun _ => by decide +kernel, fun h => absurd trivial h⟩
  have hdouble : s.drawing.canvas.LacksRoomFor double := ⟨trivial, by decide +kernel⟩
  have hdrawn : (double.render (.themed .dark)).toOption.isSome = true := by decide +kernel
  cases h : double.render (.themed .dark) with
  | error e =>
    rw [h] at hdrawn
    cases hdrawn
  | ok svg =>
    exact ⟨hvalid, (draw_room hvalid plain).1 hplain,
      (draw_room hvalid double).2 hdouble ⟨_, svg, h⟩⟩

/-- Valid settings whose canvas is too small for any bar chart: under the padding of 60 on either
side and the title there is no pixel left of a height of 150. -/
theorem Settings.draw_room_low :
    ∃ (s : Settings) (c : Chart), s.IsValid ∧
      s.drawing.draw c = .error (.canvasTooSmall s.drawing.canvas) :=
  ⟨{ drawing := { height := 150.0 } }, { labels := ["A"], values := [1.0] }, by
    unfold IsValid
    decide +kernel, by decide +kernel⟩

end ChartText
