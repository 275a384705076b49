import ChartText.Proofs.Drawing.Drawn
import ChartText.Proofs.Svg.Document

/-! # Texts do not shape a drawing

`Chart.blank` is a chart without its texts: what is left are its type, its numbers, how many labels
and series there are, and which of the title, the subtitle and the captions are present. Charts that
are the same when blank are drawn alike on the same canvas: their drawings have the same tags with
the same attributes, of which only the colours have other values (`Chart.render_skeleton`). The
elements themselves are compared blank (`Element.blank`), part by part. -/

namespace ChartText

open Svg (Element)

/-! ### Charts without texts -/

def Series.blank (s : Series) : Series where
  name := ""
  values := s.values
  color := none

/-- The numbers of a chart, how many labels and series it has, and which other texts it has. -/
def Chart.blank (c : Chart) : Chart where
  type := c.type
  title := (Drawing.nonEmpty c.title).map fun _ => "-"
  subtitle := (Drawing.nonEmpty c.subtitle).map fun _ => "-"
  labels := c.labels.map fun _ => ""
  values := c.values
  series := c.multiSeries?.map fun series => series.map Series.blank
  hints := some
    { xAxis := (c.hints.bind (·.xAxis)).map fun _ => ""
      yAxis := (c.hints.bind (·.yAxis)).map fun _ => "" }

/-- The canvas of some options, without their colours. -/
def Options.blank (o : Options) : Options where
  canvas := o.canvas
  colors := []
  backgroundColor := ""
  textColor := ""
  gridColor := ""
  mutedColor := ""

/-- An element without its texts and colours. -/
def Svg.Element.blank : Element → Element
  | bar b => bar { b with color := "", label := "" }
  | line l => line { l with color := "" }
  | marker m => marker { m with fill := "", stroke := "" }
  | wedge w => wedge { w with fill := "", stroke := "", label := "" }
  | rule r => rule { r with stroke := "" }
  | swatch s => swatch { s with color := "" }
  | label l => label { l with text := "", color := "" }

/-- The elements differ in their texts and colours at most. -/
def Alike (es fs : List Element) : Prop :=
  es.map Element.blank = fs.map Element.blank

namespace Alike
variable {es es' fs fs' : List Element}

theorem refl (es : List Element) : Alike es es := rfl

theorem symm (h : Alike es fs) : Alike fs es := Eq.symm h

theorem trans {gs : List Element} (h : Alike es fs) (h' : Alike fs gs) : Alike es gs :=
  Eq.trans h h'

theorem cons {e f : Element} (h : e.blank = f.blank) (h' : Alike es fs) :
    Alike (e :: es) (f :: fs) := by
  unfold Alike at *
  rw [List.map_cons, List.map_cons, h, h']

theorem append (h : Alike es es') (h' : Alike fs fs') : Alike (es ++ fs) (es' ++ fs') := by
  unfold Alike at *
  rw [List.map_append, List.map_append, h, h']

theorem flatMap {α : Type} {s : List α} {f g : α → List Element}
    (h : ∀ a ∈ s, Alike (f a) (g a)) : Alike (s.flatMap f) (s.flatMap g) := by
  unfold Alike
  rw [List.map_flatMap, List.map_flatMap]
  exact List.flatMap_congr h

theorem map {α : Type} {s : List α} {f g : α → Element}
    (h : ∀ a ∈ s, (f a).blank = (g a).blank) : Alike (s.map f) (s.map g) := by
  unfold Alike
  rw [List.map_map, List.map_map]
  exact List.map_congr_left h

end Alike

section
variable (c : Chart) (o : Options)

theorem Chart.length_labels_blank : c.blank.labels.length = c.labels.length :=
  List.length_map _

theorem Chart.multiSeries?_blank :
    c.blank.multiSeries? = c.multiSeries?.map fun series => series.map Series.blank := by
  unfold multiSeries? blank
  match hs : c.series with
  | none | some [] | some [_] => simp [multiSeries?, hs]
  | some (_ :: _ :: _) => simp [multiSeries?, hs]

theorem Chart.isSome_multiSeries?_blank :
    c.blank.multiSeries?.isSome = c.multiSeries?.isSome := by
  rw [multiSeries?_blank, Option.isSome_map]

namespace Drawing

theorem checkLengths_blank : checkLengths c.blank = checkLengths c := by
  unfold checkLengths
  rw [c.length_labels_blank]
  have hempty : c.blank.labels.isEmpty = c.labels.isEmpty := List.isEmpty_map
  rw [hempty]
  rfl

theorem scaledValues_blank : scaledValues c.blank = scaledValues c := by
  unfold scaledValues
  rw [Chart.multiSeries?_blank]
  cases c.multiSeries? with
  | none => rfl
  | some series =>
    show (series.map Series.blank).flatMap Series.values = series.flatMap Series.values
    rw [List.flatMap_map]
    rfl

theorem slices_blank_eq_ok_iff {slices : List (Slice Float)} :
    Drawing.slices c.blank = .ok slices ↔ Drawing.slices c = .ok slices := by
  rw [slices_eq_ok_iff, slices_eq_ok_iff, checkLengths_blank]
  rfl

theorem scaled_blank_iff {values : List Float} {withLegend : Bool} {plot : PlotArea Float}
    {max : Float} :
    Scaled c.blank o.blank values withLegend plot max ↔ Scaled c o values withLegend plot max := by
  constructor
  · rintro ⟨hlengths, hscale, harea⟩
    exact ⟨checkLengths_blank c ▸ hlengths, hscale, harea⟩
  · rintro ⟨hlengths, hscale, harea⟩
    exact ⟨(checkLengths_blank c).symm ▸ hlengths, hscale, harea⟩

/-! ### The parts of a drawing -/

section
variable (plot : PlotArea Float) (max : Float)

theorem nonEmpty_map_dash (s : Option String) :
    nonEmpty ((nonEmpty s).map fun _ => "-") = (nonEmpty s).map fun _ => "-" := by
  cases nonEmpty s with
  | none => rfl
  | some t =>
    show nonEmpty (some "-") = some "-"
    decide

theorem alike_seriesLegend : Alike (seriesLegend c.blank o.blank) (seriesLegend c o) := by
  unfold seriesLegend
  rw [Chart.multiSeries?_blank]
  cases c.multiSeries? with
  | none => exact .refl _
  | some series =>
    simp only [Option.map_some, legend, List.zipIdx_map, List.map_map, List.flatMap_map,
      List.length_map, List.length_zipIdx]
    exact .flatMap fun _ _ => rfl

theorem alike_gridlines : Alike (gridlines o.blank plot max) (gridlines o plot max) :=
  .flatMap fun _ _ => rfl

theorem alike_axes : Alike (axes o.blank plot) (axes o plot) := rfl

theorem alike_categoryLabels (x : Nat → Float) :
    Alike (categoryLabels c.blank o.blank plot x) (categoryLabels c o plot x) := by
  unfold categoryLabels
  show Alike (((c.labels.map fun _ => "").zipIdx).map _) _
  rw [List.zipIdx_map, List.map_map]
  exact .map fun _ _ => rfl

theorem alike_captions : Alike (captions c.blank o.blank plot) (captions c o plot) := by
  have hx : c.blank.hints.bind (·.xAxis) = (c.hints.bind (·.xAxis)).map fun _ => "" := rfl
  have hy : c.blank.hints.bind (·.yAxis) = (c.hints.bind (·.yAxis)).map fun _ => "" := rfl
  unfold captions
  rw [hx, hy]
  cases c.hints.bind (·.xAxis) <;> cases c.hints.bind (·.yAxis) <;> rfl

theorem alike_framed {marks marks' : List Element} (x : Nat → Float) (h : Alike marks marks') :
    Alike (framed c.blank o.blank plot max marks x) (framed c o plot max marks' x) := by
  unfold framed
  exact ((((alike_gridlines o plot max).append (alike_axes o plot)).append h).append
    (alike_categoryLabels c o plot x)).append (alike_captions c o plot)

theorem alike_singleBars :
    Alike (singleBars c.blank o.blank plot max) (singleBars c o plot max) := by
  unfold singleBars
  rw [c.length_labels_blank]
  show Alike ((((c.labels.map fun _ => "").zip c.values).zipIdx).flatMap _) _
  rw [List.zip_map_left, List.zipIdx_map, List.flatMap_map]
  exact .flatMap fun _ _ => rfl

theorem alike_groupedBars (series : List Series) :
    Alike (groupedBars c.blank o.blank plot max (series.map Series.blank))
      (groupedBars c o plot max series) := by
  unfold groupedBars
  rw [c.length_labels_blank]
  show Alike (((c.labels.map fun _ => "").zipIdx).flatMap _) _
  simp only [List.zipIdx_map, List.flatMap_map, List.map_map, List.length_map]
  exact .flatMap fun _ _ => .map fun _ _ => rfl

theorem alike_bars : Alike (bars c.blank o.blank plot max) (bars c o plot max) := by
  unfold bars
  rw [Chart.multiSeries?_blank]
  cases c.multiSeries? with
  | none => exact alike_singleBars c o plot max
  | some series => exact alike_groupedBars c o plot max series

theorem alike_singleLine :
    Alike (singleLine c.blank o.blank plot max) (singleLine c o plot max) := by
  unfold singleLine
  exact .cons rfl (.flatMap fun _ _ => rfl)

theorem alike_seriesLines (series : List Series) :
    Alike (seriesLines c.blank o.blank plot max (series.map Series.blank))
      (seriesLines c o plot max series) := by
  unfold seriesLines
  rw [List.zipIdx_map, List.flatMap_map, c.length_labels_blank]
  exact .flatMap fun _ _ => .cons rfl (.map fun _ _ => rfl)

theorem alike_lines : Alike (lines c.blank o.blank plot max) (lines c o plot max) := by
  unfold lines
  rw [Chart.multiSeries?_blank]
  cases c.multiSeries? with
  | none => exact alike_singleLine c o plot max
  | some series => exact alike_seriesLines c o plot max series

end

theorem alike_radialElements (circle : Circle) (inner : Option Float)
    (slices : List (Slice Float)) :
    Alike (radialElements c.blank o.blank circle inner slices)
      (radialElements c o circle inner slices) := by
  unfold radialElements
  show Alike (((slices.zip ((c.labels.map fun _ => "").zip c.values)).zipIdx).flatMap _) _
  rw [List.zip_map_left, List.zip_map_right, List.zipIdx_map, List.flatMap_map]
  refine .flatMap fun ((s, label, value), i) _ => ?_
  refine Alike.append ?_ rfl
  show Alike (wedge? c.blank o.blank circle inner i s "" value).toList
    (wedge? c o circle inner i s label value).toList
  unfold wedge?
  split <;> rfl

end Drawing
end

/-! ### Tags without colours -/

namespace Svg

/-- The attributes whose values are colours. -/
def isColor (name : List Char) : Bool :=
  name == "fill".toList || name == "stroke".toList

/-- The tag with the values of its colour attributes left out. -/
def ReadTag.uncolored (t : ReadTag) : ReadTag :=
  { t with attributes := t.attributes.map fun (name, value) =>
      (name, if isColor name then [] else value) }

/-- The tags of some pieces, without their colours. -/
def skeleton (pieces : List Piece) : List ReadTag :=
  pieces.map fun p => p.tag.uncolored

theorem skeleton_append (ps qs : List Piece) : skeleton (ps ++ qs) = skeleton ps ++ skeleton qs :=
  List.map_append

theorem skeleton_flatMap {α : Type} (s : List α) (f : α → List Piece) :
    skeleton (s.flatMap f) = s.flatMap fun a => skeleton (f a) :=
  List.map_flatMap

theorem skeleton_lead (before : List Char) (pieces : List Piece) :
    skeleton (lead before pieces) = skeleton pieces := by
  cases pieces <;> rfl

def Tag.blank (t : Tag) : Tag :=
  { t with attributes := t.attributes.map fun (name, value) =>
      (name, if name = "fill" ∨ name = "stroke" then .text "" else value) }

def Markup.blank : Markup → Markup
  | empty tag => empty tag.blank
  | text tag _ => text tag.blank ""
  | captioned tag _ => captioned tag.blank ""

theorem isColor_toList (name : String) :
    isColor name.toList = true ↔ name = "fill" ∨ name = "stroke" := by
  simp only [isColor, Bool.or_eq_true, beq_iff_eq, String.toList_inj]

theorem Tag.uncolored_read_blank (t : Tag) (kind : TagKind) :
    (t.blank.read kind).uncolored = (t.read kind).uncolored := by
  have hattribute : ∀ a : String × Value,
      (if isColor a.1.toList then [] else
        (if a.1 = "fill" ∨ a.1 = "stroke" then Value.text "" else a.2).write.toList) =
      if isColor a.1.toList then [] else a.2.write.toList := by
    intro a
    by_cases h : isColor a.1.toList
    · rw [if_pos h, if_pos h]
    · rw [if_neg h, if_neg h, if_neg (mt (isColor_toList a.1).mpr h)]
  simp only [ReadTag.uncolored, read, blank, List.map_map]
  congr 1
  exact List.map_congr_left fun a _ => congrArg (a.1.toList, ·) (hattribute a)

theorem Markup.skeleton_blank (m : Markup) : skeleton m.blank.pieces = skeleton m.pieces := by
  cases m with
  | empty tag => simp [blank, pieces, skeleton, tag.uncolored_read_blank]
  | text tag content =>
    have hend : tag.blank.endTag = tag.endTag := rfl
    simp [blank, pieces, skeleton, tag.uncolored_read_blank, hend]
  | captioned tag caption =>
    have hend : tag.blank.endTag = tag.endTag := rfl
    simp [blank, pieces, skeleton, tag.uncolored_read_blank, hend]

theorem ReadTag.uncolored_reflow (t : ReadTag) : t.reflow.uncolored = t.uncolored.reflow := by
  simp only [uncolored, reflow, List.map_map]
  congr 1
  refine List.map_congr_left fun a _ => congrArg (a.1, ·) ?_
  exact (apply_ite Text.reflow (isColor a.1 = true) [] a.2).symm

theorem skeleton_map_reflow (pieces : List Piece) :
    skeleton (pieces.map Piece.reflow) = (skeleton pieces).map ReadTag.reflow := by
  simp only [skeleton, List.map_map]
  exact List.map_congr_left fun p _ => p.tag.uncolored_reflow

namespace Element

theorem map_blank_markup (e : Element) :
    e.blank.markup.map Markup.blank = e.markup.map Markup.blank := by
  cases e with
  | line l =>
    show ({ l with color := "" } : Line).markup.map Markup.blank = l.markup.map Markup.blank
    unfold Line.markup
    cases l.points.head? with
    | none => rfl
    | some first =>
      cases l.points.getLast? with
      | none => rfl
      | some last =>
        cases l.baseline with
        | none => simp [Line.strokeMarkup, Line.path, ofClass, Markup.blank, Tag.blank]
        | some baseline =>
          simp [Line.strokeMarkup, Line.areaMarkup, Line.path, ofClass, Markup.blank, Tag.blank]
  | bar b => simp [blank, markup, Bar.markup, ofClass, Markup.blank, Tag.blank]
  | marker m => simp [blank, markup, Marker.markup, ofClass, Markup.blank, Tag.blank]
  | wedge w => simp [blank, markup, Wedge.markup, ofClass, Markup.blank, Tag.blank]
  | rule r => simp [blank, markup, Rule.markup, Markup.blank, Tag.blank]
  | swatch s => simp [blank, markup, Swatch.markup, ofClass, Markup.blank, Tag.blank]
  | label l => simp [blank, markup, Label.markup, Label.transform, Markup.blank, Tag.blank]

theorem skeleton_lines_blank (e : Element) :
    skeleton e.blank.lines.flatten = skeleton e.lines.flatten := by
  have hlines : ∀ f : Element, skeleton f.lines.flatten =
      ((f.markup.map Markup.blank).flatMap fun m => skeleton m.pieces).map ReadTag.reflow := by
    intro f
    have hflatten : f.lines.flatten = (f.markup.flatMap Markup.pieces).map Piece.reflow := by
      rw [lines, List.map_flatMap, List.flatMap_def]
    rw [hflatten, skeleton_map_reflow, skeleton_flatMap, List.flatMap_map]
    simp only [Markup.skeleton_blank]
  rw [hlines, hlines, e.map_blank_markup]

end Element

theorem skeleton_of_alike {es fs : List Element} (h : Alike es fs) :
    skeleton (es.flatMap Element.lines).flatten = skeleton (fs.flatMap Element.lines).flatten := by
  have hblank : ∀ gs : List Element, skeleton (gs.flatMap Element.lines).flatten =
      (gs.map Element.blank).flatMap fun e => skeleton e.lines.flatten := by
    intro gs
    rw [List.flatMap_map]
    simp only [Element.skeleton_lines_blank]
    rw [List.flatMap_def, List.flatten_flatten, List.map_map, ← skeleton_flatMap, List.flatMap_def]
    rfl
  rw [hblank, hblank, h]

theorem Document.skeleton_pieces (d : Document) :
    skeleton d.pieces = (d.rootTag.read .opening).uncolored ::
      (d.frame.flatMap fun m => skeleton m.pieces) ++
        skeleton (d.elements.flatMap Element.lines).flatten ++ [d.rootTag.endTag.uncolored] := by
  have hlines : skeleton (d.lines.flatMap (lead newLine)) =
      (d.frame.flatMap fun m => skeleton m.pieces) ++
        skeleton (d.elements.flatMap Element.lines).flatten := by
    rw [skeleton_flatMap]
    simp only [skeleton_lead]
    rw [← skeleton_flatMap, lines, List.flatMap_append, skeleton_append, List.flatMap_map,
      skeleton_flatMap, List.flatMap_id']
  show (d.rootTag.read .opening).uncolored ::
    skeleton (d.lines.flatMap (lead newLine) ++ [⟨['\n'], d.rootTag.endTag⟩]) = _
  rw [skeleton_append, hlines]
  rfl

theorem Document.skeleton_frame {d d' : Document} (ht : d.title.isEmpty = d'.title.isEmpty)
    (hd : d.description.isEmpty = d'.description.isEmpty)
    (hb : d.background.isSome = d'.background.isSome) :
    (d.frame.flatMap fun m => skeleton m.pieces) =
      d'.frame.flatMap fun m => skeleton m.pieces := by
  have htext : ∀ (absent : Bool) (tag : Tag) (s t : String),
      ((if absent then [] else [Markup.text tag s]).flatMap fun m => skeleton m.pieces) =
        (if absent then [] else [Markup.text tag t]).flatMap fun m => skeleton m.pieces := by
    intro absent tag s t
    cases absent with
    | true => rfl
    | false =>
      simp only [Bool.false_eq_true, if_false, List.flatMap_singleton]
      rw [← Markup.skeleton_blank, ← Markup.skeleton_blank (.text tag t), Markup.blank,
        Markup.blank]
  have hbackground : ∀ s t : String, skeleton (Markup.empty (backgroundTag s)).pieces =
      skeleton (Markup.empty (backgroundTag t)).pieces := by
    intro s t
    rw [← Markup.skeleton_blank, ← Markup.skeleton_blank (.empty _)]
    simp [Markup.blank, Tag.blank, backgroundTag]
  simp only [frame, List.flatMap_append, ht, hd]
  rw [htext d'.title.isEmpty _ d.title d'.title,
    htext d'.description.isEmpty _ d.description d'.description]
  congr 1
  cases hs : d.background with
  | none =>
    cases hs' : d'.background with
    | none => rfl
    | some t => simp [hs, hs'] at hb
  | some s =>
    cases hs' : d'.background with
    | none => simp [hs, hs'] at hb
    | some t =>
      show skeleton _ ++ [] = skeleton _ ++ []
      exact congrArg (· ++ []) (hbackground s t)

end Svg

/-! ### Charts that are the same when blank -/

namespace Drawing
variable {c c' : Chart} {o o' : Options}

theorem isEmpty_of_nonEmpty {s : Option String} {t : String} (h : nonEmpty s = some t) :
    t.isEmpty = false := by
  have := (Option.filter_eq_some_iff.mp h).2
  simpa using this

theorem isEmpty_getD_nonEmpty (s : Option String) :
    ((nonEmpty ((nonEmpty s).map fun _ => "-")).getD "").isEmpty =
      ((nonEmpty s).getD "").isEmpty := by
  rw [nonEmpty_map_dash]
  cases ht : nonEmpty s with
  | none => rfl
  | some t =>
    show "-".isEmpty = t.isEmpty
    rw [isEmpty_of_nonEmpty ht]
    decide

theorem alike_title : Alike ((nonEmpty c.blank.title).map (titleLabel o.blank)).toList
    ((nonEmpty c.title).map (titleLabel o)).toList := by
  show Alike ((nonEmpty ((nonEmpty c.title).map fun _ => "-")).map (titleLabel o.blank)).toList _
  rw [nonEmpty_map_dash]
  cases nonEmpty c.title <;> rfl

theorem skeleton_page_blank {es fs : List Element} (h : Alike fs es) :
    Svg.skeleton (page c.blank o.blank fs).pieces = Svg.skeleton (page c o es).pieces := by
  have helements : Alike (page c.blank o.blank fs).elements (page c o es).elements :=
    alike_title.append h
  have hframe : ((page c.blank o.blank fs).frame.flatMap fun m => Svg.skeleton m.pieces) =
      (page c o es).frame.flatMap fun m => Svg.skeleton m.pieces :=
    Svg.Document.skeleton_frame (isEmpty_getD_nonEmpty c.title) (isEmpty_getD_nonEmpty c.subtitle)
      rfl
  have hroot : (page c.blank o.blank fs).rootTag = (page c o es).rootTag := rfl
  rw [Svg.Document.skeleton_pieces, Svg.Document.skeleton_pieces,
    Svg.skeleton_of_alike helements, hframe, hroot]

/-- What is alike for every chart and the blank one is alike for charts that have the same blank
one. -/
theorem alike_of_blank (parts : Chart → Options → List Element)
    (h : ∀ c o, Alike (parts c.blank o.blank) (parts c o)) (hc : c'.blank = c.blank)
    (ho : o'.blank = o.blank) : Alike (parts c' o') (parts c o) := by
  have h' := h c' o'
  rw [hc, ho] at h'
  exact h'.symm.trans (h c o)

theorem scaled_of_blank {values : List Float} {withLegend : Bool} {plot : PlotArea Float}
    {max : Float} (hc : c'.blank = c.blank) (ho : o'.blank = o.blank)
    (h : Scaled c o values withLegend plot max) : Scaled c' o' values withLegend plot max := by
  rw [← scaled_blank_iff, hc, ho, scaled_blank_iff]
  exact h

theorem Drawn.of_blank {es : List Element} (hc : c'.blank = c.blank) (ho : o'.blank = o.blank)
    (h : Drawn c o es) : ∃ fs, Drawn c' o' fs ∧ Alike fs es := by
  have htype : c'.type = c.type := by
    show c'.blank.type = c.blank.type
    rw [hc]
  have hvalues : c'.values = c.values := by
    show c'.blank.values = c.blank.values
    rw [hc]
  have hcanvas : o'.canvas = o.canvas := by
    show o'.blank.canvas = o.blank.canvas
    rw [ho]
  have hlabels : c'.labels.length = c.labels.length := by
    rw [← c'.length_labels_blank, hc, c.length_labels_blank]
  have hscaled : scaledValues c' = scaledValues c := by
    rw [← scaledValues_blank c', hc, scaledValues_blank c]
  have hmulti : c'.multiSeries?.isSome = c.multiSeries?.isSome := by
    rw [← c'.isSome_multiSeries?_blank, hc, c.isSome_multiSeries?_blank]
  have hlegend : Alike (seriesLegend c' o') (seriesLegend c o) :=
    alike_of_blank seriesLegend alike_seriesLegend hc ho
  cases h with
  | @bar plot max ht hs =>
    have hs' := scaled_of_blank hc ho hs
    rw [← hscaled, ← hmulti] at hs'
    refine ⟨_, .bar (htype.trans ht) hs', hlegend.append ?_⟩
    rw [hlabels]
    exact alike_of_blank (fun c o => framed c o plot max (bars c o plot max) _)
      (fun c o => alike_framed c o plot max _ (alike_bars c o plot max)) hc ho
  | @line plot max ht hs =>
    have hs' := scaled_of_blank hc ho hs
    rw [← hscaled, ← hmulti] at hs'
    refine ⟨_, .line (htype.trans ht) hs', hlegend.append ?_⟩
    rw [hlabels]
    exact alike_of_blank (fun c o => framed c o plot max (lines c o plot max) _)
      (fun c o => alike_framed c o plot max _ (alike_lines c o plot max)) hc ho
  | @area plot max ht hs =>
    have hs' := scaled_of_blank hc ho hs
    rw [← hvalues] at hs'
    refine ⟨_, .area (htype.trans ht) hs', ?_⟩
    rw [hlabels]
    exact alike_of_blank (fun c o => framed c o plot max (areaElements c o plot max) _)
      (fun c o => alike_framed c o plot max _ rfl) hc ho
  | @radial hole slices ht hslices hradius =>
    rw [← slices_blank_eq_ok_iff, ← hc, slices_blank_eq_ok_iff] at hslices
    rw [← hcanvas] at hradius
    refine ⟨_, .radial (htype ▸ ht) hslices hradius, ?_⟩
    rw [hcanvas]
    exact alike_of_blank (fun c o => radialElements c o _ _ slices)
      (fun c o => alike_radialElements c o _ _ slices) hc ho

end Drawing
end ChartText
