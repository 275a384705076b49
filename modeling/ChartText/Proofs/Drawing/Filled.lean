import ChartText.Proofs.Drawing.Labels
import ChartText.Proofs.Source.Texts
import ChartText.Proofs.Svg.Filled

/-! # Charts without line feeds

If no text of a chart and no colour has a line feed, then no string in its drawing has one, and the
drawing has no blank line (`Chart.filled_render`). -/

namespace ChartText

open Svg (Element isCommands_plainNumber)
open Text (IsLine Filled)

/-- The colours of the options. -/
structure Options.IsOneLine (o : Options) : Prop where
  colors : ∀ color ∈ o.colors, IsLine color
  backgroundColor : IsLine o.backgroundColor
  textColor : IsLine o.textColor
  gridColor : IsLine o.gridColor
  mutedColor : IsLine o.mutedColor

namespace Drawing
variable {c : Chart} {o : Options} {plot : PlotArea Float} {max : Float}

/-- No text and no colour of the elements has a line feed. -/
def AllLines (es : List Element) : Prop :=
  ∀ e ∈ es, e.IsOneLine

theorem AllLines.append {es fs : List Element} (hes : AllLines es) (hfs : AllLines fs) :
    AllLines (es ++ fs) :=
  List.forall_mem_append.mpr ⟨hes, hfs⟩

/-! ### Colours -/

theorem isLine_palette (theme : Theme) : ∀ color ∈ theme.palette, IsLine color := by
  cases theme <;> decide

theorem isLine_paletteColor {colors : List String} (h : ∀ color ∈ colors, IsLine color) (i : Nat) :
    IsLine (paletteColor colors i) := by
  have hget (palette : List String) (hpalette : ∀ color ∈ palette, IsLine color) (i : Nat) :
      IsLine (palette[i]?.getD "") := by
    cases hi : palette[i]? with
    | none => exact List.not_mem_nil
    | some color => exact hpalette color (List.mem_of_getElem? hi)
  unfold paletteColor
  dsimp only
  split
  · exact hget _ (isLine_palette .dark) _
  · exact hget _ h _

theorem series_of_multiSeries? {ss : List Series} (h : c.multiSeries? = some ss) :
    c.series = some ss := by
  unfold Chart.multiSeries? at h
  split at h
  · next hseries =>
    cases h
    exact hseries
  · cases h

theorem isLine_tickLabel (x : Float) : IsLine (tickLabel x) := by
  obtain ⟨n, hn⟩ := exists_tickLabel x
  rw [hn]
  exact (Svg.isCommands_toString n).isLine

/-- A title that is missing is written as an empty one. -/
theorem isLine_nonEmpty {s : Option String} (h : ∀ text, s = some text → IsLine text) :
    IsLine ((nonEmpty s).getD "") := by
  cases hs : nonEmpty s with
  | none => exact List.not_mem_nil
  | some text => exact h text (Option.filter_eq_some_iff.mp hs).1

section
variable (hc : c.IsOneLine) (ho : o.IsOneLine)
include hc ho

theorem isLine_color (i : Nat) : IsLine (c.color o i) := by
  refine isLine_paletteColor ?_ i
  cases hcustom : c.customColors? with
  | none => exact ho.colors
  | some colors =>
    unfold Chart.customColors? at hcustom
    split at hcustom
    · next hcolors =>
      cases hcustom
      obtain ⟨hints, hhints, hcolors⟩ := Option.bind_eq_some_iff.mp hcolors
      exact (hc.hints hints hhints).colors _ hcolors
    · cases hcustom

theorem isLine_seriesColor {ss : List Series} (hss : c.multiSeries? = some ss) {s : Series}
    (hs : s ∈ ss) (i : Nat) : IsLine (c.seriesColor o s i) := by
  unfold Chart.seriesColor
  cases hcolor : s.color with
  | none => exact isLine_color hc ho i
  | some color => exact (hc.series ss (series_of_multiSeries? hss) s hs).color color hcolor

/-! ### The parts of a drawing -/

theorem allLines_seriesLegend : AllLines (seriesLegend c o) := by
  unfold seriesLegend
  split
  · next ss hss =>
    simp only [AllLines, legend, List.forall_mem_flatMap, List.forall_mem_cons, Element.IsOneLine,
      List.not_mem_nil, false_imp_iff, implies_true, and_true]
    rintro ⟨⟨name, color⟩, i⟩ hentry
    obtain ⟨⟨s, j⟩, hs, heq⟩ := List.mem_map.mp (List.fst_mem_of_mem_zipIdx hentry)
    cases heq
    have hs := List.fst_mem_of_mem_zipIdx hs
    exact ⟨isLine_seriesColor hc ho hss hs j, (hc.series ss (series_of_multiSeries? hss) s hs).name,
      ho.textColor⟩
  · exact fun e he => absurd he List.not_mem_nil

theorem allLines_framed {marks : List Element} (h : AllLines marks) (x : Nat → Float) :
    AllLines (framed c o plot max marks x) := by
  have hgridlines : AllLines (gridlines o plot max) := by
    simp only [AllLines, gridlines, List.forall_mem_flatMap, List.forall_mem_cons, Element.IsOneLine,
      List.not_mem_nil, false_imp_iff, implies_true, and_true]
    exact fun step _ => ⟨ho.gridColor, isLine_tickLabel _, ho.mutedColor⟩
  have haxes : AllLines (axes o plot) := by
    simp only [AllLines, axes, List.forall_mem_cons, Element.IsOneLine, List.not_mem_nil,
      false_imp_iff, implies_true, and_true]
    exact ⟨ho.gridColor, ho.gridColor⟩
  have hlabels : AllLines (categoryLabels c o plot x) := by
    simp only [AllLines, categoryLabels, categoryLabel, List.forall_mem_map, Element.IsOneLine]
    exact fun a ha => ⟨hc.labels a.1 (List.fst_mem_of_mem_zipIdx ha), ho.mutedColor⟩
  have hcaptions : AllLines (captions c o plot) := by
    simp only [AllLines, captions, categoryLabel, List.forall_mem_append, Option.mem_toList,
      Option.map_eq_some_iff]
    constructor
    · rintro e ⟨caption, hcaption, rfl⟩
      obtain ⟨hints, hhints, hcaption⟩ := Option.bind_eq_some_iff.mp hcaption
      exact ⟨(hc.hints hints hhints).xAxis caption hcaption, ho.mutedColor⟩
    · rintro e ⟨caption, hcaption, rfl⟩
      obtain ⟨hints, hhints, hcaption⟩ := Option.bind_eq_some_iff.mp hcaption
      exact ⟨(hc.hints hints hhints).yAxis caption hcaption, ho.mutedColor⟩
  exact (((hgridlines.append haxes).append h).append hlabels).append hcaptions

theorem allLines_bars : AllLines (bars c o plot max) := by
  unfold bars
  split
  · next ss hss =>
    simp only [AllLines, groupedBars, List.forall_mem_flatMap, List.forall_mem_map,
      Element.IsOneLine]
    intro a ha b hb
    have hlabel := hc.labels a.1 (List.fst_mem_of_mem_zipIdx ha)
    have hb := List.fst_mem_of_mem_zipIdx hb
    have hname := (hc.series ss (series_of_multiSeries? hss) b.1 hb).name
    refine ⟨isLine_seriesColor hc ho hss hb b.2, ?_⟩
    exact ((hlabel.append (by decide)).append hname).append (by decide)
  · simp only [AllLines, singleBars, List.forall_mem_flatMap, List.forall_mem_cons, Element.IsOneLine,
      List.not_mem_nil, false_imp_iff, implies_true, and_true]
    intro a ha
    have hlabel := hc.labels a.1.1 (List.of_mem_zip (List.fst_mem_of_mem_zipIdx ha)).1
    exact ⟨⟨isLine_color hc ho a.2, hlabel⟩, (isCommands_plainNumber _).isLine, ho.textColor⟩

theorem allLines_lines : AllLines (lines c o plot max) := by
  unfold lines
  split
  · next ss hss =>
    simp only [AllLines, seriesLines, marker, List.forall_mem_flatMap, List.forall_mem_cons,
      List.forall_mem_map, Element.IsOneLine]
    intro a ha
    have hcolor := isLine_seriesColor hc ho hss (List.fst_mem_of_mem_zipIdx ha) a.2
    exact ⟨hcolor, fun _ _ => ⟨hcolor, ho.backgroundColor⟩⟩
  · simp only [AllLines, singleLine, marker, List.forall_mem_flatMap, List.forall_mem_cons,
      Element.IsOneLine, List.not_mem_nil, false_imp_iff, implies_true, and_true]
    have hcolor := isLine_color hc ho 0
    exact ⟨hcolor, fun _ _ => ⟨⟨hcolor, ho.backgroundColor⟩, (isCommands_plainNumber _).isLine,
      ho.textColor⟩⟩

theorem allLines_radialElements {circle : Circle} {inner : Option Float}
    {slices : List (Slice Float)} : AllLines (radialElements c o circle inner slices) := by
  simp only [AllLines, radialElements, List.forall_mem_flatMap, List.forall_mem_append]
  rintro ⟨⟨slice, label, value⟩, i⟩ ha
  have hlabel : IsLine label :=
    hc.labels label (List.of_mem_zip (List.of_mem_zip (List.fst_mem_of_mem_zipIdx ha)).2).1
  constructor
  · intro e he
    have he := Option.mem_toList.mp he
    unfold wedge? at he
    split at he
    · obtain rfl := Option.some.inj he
      have hpath := (Svg.isCommands_phrase (isCommands_slicePath circle inner slice)).isLine
      exact ⟨hpath, isLine_color hc ho i, ho.backgroundColor, hlabel⟩
    · cases he
  · have hpercent : IsLine (label ++ ": " ++ percentLabel value (Scalar.sum c.values) ++ "%") :=
      ((hlabel.append (by decide)).append (isLine_tickLabel _)).append (by decide)
    simp only [sliceLabel, Element.IsOneLine, List.forall_mem_cons, List.not_mem_nil, false_imp_iff,
      implies_true, and_true]
    exact ⟨hpercent, ho.textColor⟩

/-! ### Drawings -/

theorem Drawn.allLines {es : List Element} (h : Drawn c o es) : AllLines es := by
  cases h with
  | bar =>
    exact (allLines_seriesLegend hc ho).append (allLines_framed hc ho (allLines_bars hc ho) _)
  | line =>
    exact (allLines_seriesLegend hc ho).append (allLines_framed hc ho (allLines_lines hc ho) _)
  | area =>
    refine allLines_framed hc ho ?_ _
    simp only [AllLines, areaElements, List.forall_mem_cons, Element.IsOneLine, List.not_mem_nil,
      false_imp_iff, implies_true, and_true]
    exact isLine_color hc ho 0
  | radial => exact allLines_radialElements hc ho

theorem Drawn.isOneLine_page {es : List Element} (h : Drawn c o es) : (page c o es).IsOneLine where
  title := isLine_nonEmpty hc.title
  description := isLine_nonEmpty hc.subtitle
  background := by
    rintro color ⟨⟩
    exact ho.backgroundColor
  elements := by
    refine AllLines.append (fun e he => ?_) (h.allLines hc ho)
    obtain ⟨title, htitle, rfl⟩ := Option.map_eq_some_iff.mp (Option.mem_toList.mp he)
    exact ⟨hc.title title (Option.filter_eq_some_iff.mp htitle).1, ho.textColor⟩

end

end Drawing

open Drawing

/-- A drawing of a chart has no blank line if the texts of the chart and the colours are lines. -/
theorem Chart.filled_render {c : Chart} {o : Options} {svg : String} (hc : c.IsOneLine)
    (ho : o.IsOneLine) (h : c.render o = .ok svg) : Filled svg.toList := by
  obtain ⟨-, es, hdrawn, rfl⟩ := render_eq_ok_iff.mp h
  exact Svg.Document.filled_write (hdrawn.isOneLine_page hc ho) hdrawn.isPlain_page

end ChartText
