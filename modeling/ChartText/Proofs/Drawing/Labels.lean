import ChartText.Proofs.Drawing.Tally
import ChartText.Proofs.Svg.Contents
import Mathlib.Data.List.Forall2

/-! # Labels are read back

The labels of a chart can be read off its drawing, whatever is in them but line feeds
(`Chart.render_labels`): a chart with axes ends with its labels and the captions of its axes, a pie
or a donut has a label with a percentage for every row, and the bars and slices are captioned with
the rows that they show. -/

namespace ChartText

open Svg (Element Mark)

/-- The captions of the axes, as far as they are present. -/
def Chart.captions (c : Chart) : List String :=
  (c.hints.bind (·.xAxis)).toList ++ (c.hints.bind (·.yAxis)).toList

/-- What a bar or a slice is captioned with. -/
def rowCaption (row : String × Float) : String :=
  row.1 ++ ": " ++ plainNumber row.2

/-- A label with a percentage. -/
def IsShareOf (label : String) (text : List Char) : Prop :=
  ∃ n : Int, text = (label ++ ": " ++ toString n ++ "%").toList

namespace Drawing
variable {c : Chart} {o : Options} {plot : PlotArea Float} {max : Float} {m : Mark}

/-- The texts of the labels among some elements. -/
def texts (es : List Element) : List String :=
  es.filterMap Element.text?

/-- The captions of the bars or slices among some elements. -/
def rowCaptions (m : Mark) (es : List Element) : List String :=
  es.filterMap (Element.caption? m)

theorem texts_append (es fs : List Element) : texts (es ++ fs) = texts es ++ texts fs :=
  List.filterMap_append

theorem rowCaptions_append (es fs : List Element) :
    rowCaptions m (es ++ fs) = rowCaptions m es ++ rowCaptions m fs :=
  List.filterMap_append

theorem rowCaptions_eq_nil {es : List Element} (h : ∀ e ∈ es, e.caption? m = none) :
    rowCaptions m es = [] :=
  List.filterMap_eq_nil_iff.mpr h

theorem flatMap_ite_singleton {α β : Type} (p : α → Bool) (f : α → β) (s : List α) :
    s.flatMap (fun a => if p a then [f a] else []) = (s.filter p).map f := by
  induction s with
  | nil => rfl
  | cons a s ih => cases h : p a <;> simp [h, ih]

/-! ### Charts with axes -/

theorem texts_categoryLabels (x : Nat → Float) : texts (categoryLabels c o plot x) = c.labels := by
  rw [texts, categoryLabels, List.filterMap_map]
  have htext : Element.text? ∘ (fun a : String × Nat =>
      categoryLabel o ⟨x a.2, plot.bottom + 18.0⟩ a.1) = some ∘ Prod.fst := rfl
  rw [htext, List.filterMap_eq_map, List.zipIdx_map_fst]

theorem texts_captions : texts (captions c o plot) = c.captions := by
  unfold captions Chart.captions
  rw [texts_append]
  congr 1
  · cases c.hints.bind (·.xAxis) <;> rfl
  · cases c.hints.bind (·.yAxis) <;> rfl

theorem texts_framed (marks : List Element) (x : Nat → Float) :
    ∃ before, texts (framed c o plot max marks x) = before ++ c.labels ++ c.captions := by
  unfold framed
  rw [texts_append, texts_append, texts_categoryLabels, texts_captions]
  exact ⟨_, rfl⟩

theorem rowCaptions_framed (marks : List Element) (x : Nat → Float) :
    rowCaptions m (framed c o plot max marks x) = rowCaptions m marks := by
  have hbefore : rowCaptions m (gridlines o plot max ++ axes o plot) = [] := by
    refine rowCaptions_eq_nil ?_
    simp only [gridlines, axes, List.forall_mem_append, List.forall_mem_flatMap,
      List.forall_mem_cons, Element.caption?_label, Element.caption?_rule]
    simp
  have hafter : rowCaptions m (categoryLabels c o plot x ++ captions c o plot) = [] := by
    refine rowCaptions_eq_nil ?_
    simp only [categoryLabels, captions, categoryLabel, List.forall_mem_append, List.forall_mem_map,
      Option.mem_toList, Option.map_eq_some_iff]
    refine ⟨fun _ _ => Element.caption?_label m _, ?_, ?_⟩ <;>
    · rintro e ⟨caption, -, rfl⟩
      exact Element.caption?_label m _
  unfold framed
  rw [List.append_assoc, rowCaptions_append, rowCaptions_append, hbefore, hafter, List.nil_append,
    List.append_nil]

theorem rowCaptions_singleBars :
    rowCaptions .bar (singleBars c o plot max) = (c.labels.zip c.values).map rowCaption := by
  have hzip : (c.labels.zip c.values).map rowCaption =
      (c.labels.zip c.values).zipIdx.map (rowCaption ∘ Prod.fst) := by
    rw [← List.map_map, List.zipIdx_map_fst]
  rw [rowCaptions, singleBars, List.filterMap_flatMap, hzip, List.map_eq_flatMap]
  rfl

/-! ### Pies and donuts -/

theorem exists_tickLabel (x : Float) : ∃ n : Int, tickLabel x = toString n := by
  unfold tickLabel
  split
  · exact ⟨0, rfl⟩
  · exact ⟨_, rfl⟩

section
variable {circle : Circle} {inner : Option Float} {slices : List (Slice Float)}

theorem map_rows (hlengths : checkLengths c = .ok ()) (hslices : slices.length = c.values.length) :
    (slices.zip (c.labels.zip c.values)).zipIdx.map (fun a => a.1.2) = c.labels.zip c.values := by
  have hlength := (checkLengths_eq_ok_iff.mp hlengths).2
  have hzip : (c.labels.zip c.values).length ≤ slices.length := by
    rw [List.length_zip, hslices, hlength, Nat.min_self]
  have hcompose : (fun a : (Slice Float × String × Float) × Nat => a.1.2) =
      Prod.snd ∘ Prod.fst := rfl
  rw [hcompose, ← List.map_map, List.zipIdx_map_fst, List.map_snd_zip hzip]

theorem texts_radialElements (hlengths : checkLengths c = .ok ())
    (hslices : slices.length = c.values.length) :
    texts (radialElements c o circle inner slices) =
      (c.labels.zip c.values).map fun row =>
        row.1 ++ ": " ++ percentLabel row.2 (Scalar.sum c.values) ++ "%" := by
  rw [← map_rows hlengths hslices, List.map_map, List.map_eq_flatMap, texts, radialElements,
    List.filterMap_flatMap]
  refine List.flatMap_congr fun a _ => ?_
  obtain ⟨⟨s, label, value⟩, i⟩ := a
  have hwedge : (wedge? c o circle inner i s label value).toList.filterMap Element.text? = [] := by
    unfold wedge?
    split <;> rfl
  rw [List.filterMap_append, hwedge]
  rfl

/-- Every slice that is drawn has a caption. -/
theorem rowCaptions_radialElements (hlengths : checkLengths c = .ok ())
    (hslices : slices.length = c.values.length) :
    rowCaptions .slice (radialElements c o circle inner slices) =
      ((c.labels.zip c.values).filter fun row => 0.0 < row.2).map rowCaption := by
  have hrow (a : (Slice Float × String × Float) × Nat) :
      rowCaptions .slice ((wedge? c o circle inner a.2 a.1.1 a.1.2.1 a.1.2.2).toList ++
        [sliceLabel o circle (Scalar.sum c.values) a.1.1 a.1.2.1 a.1.2.2]) =
      if 0.0 < a.1.2.2 then [rowCaption a.1.2] else [] := by
    unfold wedge?
    split <;> rfl
  rw [← map_rows hlengths hslices, List.filter_map, List.map_map, ← flatMap_ite_singleton,
    rowCaptions, radialElements, List.filterMap_flatMap]
  refine List.flatMap_congr fun a _ => (hrow a).trans ?_
  simp

end

/-! ### Drawings -/

theorem texts_page (es : List Element) :
    texts (page c o es).elements = (nonEmpty c.title).toList ++ texts es := by
  rw [page, texts_append]
  cases nonEmpty c.title <;> rfl

theorem rowCaptions_page (es : List Element) :
    rowCaptions m (page c o es).elements = rowCaptions m es := by
  rw [page, rowCaptions_append]
  cases nonEmpty c.title with
  | none => rfl
  | some title =>
    have htitle : rowCaptions m [titleLabel o title] = [] :=
      rowCaptions_eq_nil (by simp [titleLabel])
    rw [Option.map_some, Option.toList_some, htitle, List.nil_append]

variable {es : List Element}

theorem Drawn.texts_of_axes (h : Drawn c o es)
    (ht : c.type = .bar ∨ c.type = .line ∨ c.type = .area) :
    ∃ before, texts es = before ++ c.labels ++ c.captions := by
  cases h with
  | bar | line =>
    obtain ⟨before, hframed⟩ := texts_framed _ _
    rw [texts_append, hframed]
    exact ⟨texts (seriesLegend c o) ++ before, by simp⟩
  | area => exact texts_framed _ _
  | radial hole =>
    generalize c.type = type at hole ht
    cases hole <;> simp at ht

theorem Drawn.rows_of_radial (h : Drawn c o es) (ht : c.type = .pie ∨ c.type = .donut) :
    c.values.length = c.labels.length ∧
    texts es = ((c.labels.zip c.values).map fun row =>
      row.1 ++ ": " ++ percentLabel row.2 (Scalar.sum c.values) ++ "%") ∧
    rowCaptions .slice es =
      ((c.labels.zip c.values).filter fun row => 0.0 < row.2).map rowCaption := by
  cases h with
  | bar type | line type | area type =>
    rw [type] at ht
    simp at ht
  | radial type share =>
    obtain ⟨hlengths, -, -, rfl⟩ := slices_eq_ok_iff.mp share
    have hslices :=
      @Slice.length_share _ _ Angle.turn (Scalar.sum c.values) Angle.top c.values
    exact ⟨(checkLengths_eq_ok_iff.mp hlengths).2, texts_radialElements hlengths hslices,
      rowCaptions_radialElements hlengths hslices⟩

theorem Drawn.rows_of_bar (h : Drawn c o es) (ht : c.type = .bar) (hs : c.multiSeries? = none) :
    rowCaptions .bar es = (c.labels.zip c.values).map rowCaption := by
  cases h with
  | bar =>
    have hlegend : seriesLegend c o = [] := by rw [seriesLegend, hs]
    have hbars (plot : PlotArea Float) (max : Float) :
        bars c o plot max = singleBars c o plot max := by rw [bars, hs]
    rw [hlegend, List.nil_append, rowCaptions_framed, hbars, rowCaptions_singleBars]
  | line type | area type => cases ht.symm.trans type
  | radial hole =>
    rw [ht] at hole
    cases hole

end Drawing

open Drawing

/-! ### What is read -/

theorem lineFeed_notMem_rowCaption {row : String × Float} (h : '\n' ∉ row.1.toList) :
    '\n' ∉ (rowCaption row).toList := by
  have hnumber : '\n' ∉ (plainNumber row.2).toList :=
    (Svg.isCommands_plainNumber row.2).notMem (by decide)
  simp [rowCaption, h, hnumber]

theorem map_unescape_written {ss : List String} (h : ∀ s ∈ ss, '\n' ∉ s.toList) :
    (ss.map Svg.written).map Text.unescape = ss.map String.toList := by
  rw [List.map_map]
  refine List.map_congr_left fun s hs => ?_
  rw [Function.comp_apply, Svg.unescape_written, Text.reflow_eq_self (h s hs)]

theorem map_unescape_written_eq_reflow (ss : List String) :
    (ss.map Svg.written).map Text.unescape = ss.map fun s => Text.reflow s.toList := by
  rw [List.map_map]
  refine List.map_congr_left fun s _ => ?_
  rw [Function.comp_apply, Svg.unescape_written]

theorem isShareOf_written {label : String} {value total : Float} (h : '\n' ∉ label.toList) :
    IsShareOf label
      (Text.unescape (Svg.written (label ++ ": " ++ percentLabel value total ++ "%"))) := by
  obtain ⟨n, hn⟩ := exists_tickLabel (value / total * 100.0)
  have hnumber : '\n' ∉ (toString n).toList := (Svg.isCommands_toString n).notMem (by decide)
  refine ⟨n, ?_⟩
  rw [percentLabel, hn, Svg.unescape_written, Text.reflow_eq_self]
  simpa [h] using hnumber

/-- The labels of a chart without line feeds in them are read off its drawing. -/
theorem Chart.render_labels {c : Chart} {o : Options} {svg : String} (h : c.render o = .ok svg)
    (hlabels : ∀ label ∈ c.labels, '\n' ∉ label.toList) :
    ∃ pieces found, Svg.read? svg.toList = some pieces ∧
      Svg.contents? "text".toList pieces = some found ∧
      (c.type = .bar ∨ c.type = .line ∨ c.type = .area →
        ∃ before, found.map Text.unescape = before ++ c.labels.map String.toList ++
          c.captions.map fun caption => Text.reflow caption.toList) ∧
      (c.type = .pie ∨ c.type = .donut →
        ∃ shares, found.map Text.unescape =
            (nonEmpty c.title).toList.map (fun title => Text.reflow title.toList) ++ shares ∧
          List.Forall₂ IsShareOf c.labels shares) ∧
      (c.type = .pie ∨ c.type = .donut →
        ∃ captions, Svg.captions? .slice pieces = some captions ∧
          captions.map Text.unescape =
            ((c.labels.zip c.values).filter fun row => 0.0 < row.2).map
              fun row => (rowCaption row).toList) ∧
      (c.type = .bar → c.multiSeries? = none →
        ∃ captions, Svg.captions? .bar pieces = some captions ∧
          captions.map Text.unescape =
            (c.labels.zip c.values).map fun row => (rowCaption row).toList) := by
  obtain ⟨-, es, hdrawn, rfl⟩ := render_eq_ok_iff.mp h
  have hcontents : Svg.contents? "text".toList (page c o es).pieces =
      some (((nonEmpty c.title).toList ++ texts es).map Svg.written) := by
    rw [← texts_page]
    exact Svg.Document.contents?_pieces
  have hcaptions {m : Mark} (hm : m = .bar ∨ m = .slice) {rows : List (String × Float)}
      (hrows : rows ⊆ c.labels.zip c.values) (hes : rowCaptions m es = rows.map rowCaption) :
      ∃ captions, Svg.captions? m (page c o es).pieces = some captions ∧
        captions.map Text.unescape = rows.map fun row => (rowCaption row).toList := by
    refine ⟨(rowCaptions m (page c o es).elements).map Svg.written,
      Svg.Document.captions?_pieces hm, ?_⟩
    rw [rowCaptions_page, hes, map_unescape_written, List.map_map]
    · rfl
    · intro s hs
      obtain ⟨row, hrow, rfl⟩ := List.mem_map.mp hs
      exact lineFeed_notMem_rowCaption (hlabels row.1 (List.of_mem_zip (hrows hrow)).1)
  refine ⟨_, _, Svg.Document.read?_write hdrawn.isPlain_page, hcontents,
    fun ht => ?_, fun ht => ?_, fun ht => ?_, fun ht hs => ?_⟩
  · obtain ⟨before, hbefore⟩ := hdrawn.texts_of_axes ht
    refine ⟨(((nonEmpty c.title).toList ++ before).map Svg.written).map Text.unescape, ?_⟩
    rw [hbefore, ← List.append_assoc, ← List.append_assoc, List.map_append, List.map_append,
      List.map_append, List.map_append, map_unescape_written hlabels,
      map_unescape_written_eq_reflow c.captions]
  · obtain ⟨hlength, hshares, -⟩ := hdrawn.rows_of_radial ht
    refine ⟨((texts es).map Svg.written).map Text.unescape, ?_, ?_⟩
    · rw [List.map_append, List.map_append, map_unescape_written_eq_reflow]
    · have hrows : (c.labels.zip c.values).map Prod.fst = c.labels :=
        List.map_fst_zip (Nat.le_of_eq hlength.symm)
      conv => arg 2; rw [← hrows]
      rw [hshares, List.forall₂_map_left_iff, List.forall₂_map_right_iff,
        List.forall₂_map_right_iff, List.forall₂_map_right_iff, List.forall₂_same]
      exact fun row hrow => isShareOf_written (hlabels row.1 (List.of_mem_zip hrow).1)
  · exact hcaptions (.inr rfl) (List.filter_subset_self _) (hdrawn.rows_of_radial ht).2.2
  · exact hcaptions (.inl rfl) (List.Subset.refl _) (hdrawn.rows_of_bar ht hs)

/-- A label that looks like markup, in a donut with a value of zero. -/
theorem Chart.render_labels_hostile :
    let c : Chart :=
      { type := .donut, title := some "</text>", labels := ["</title>&lt;\r", "\"'"]
        values := [1.0, 0.0] }
    ∃ svg pieces found captions, c.render (.themed .dark) = .ok svg ∧
      Svg.read? svg.toList = some pieces ∧ Svg.contents? "text".toList pieces = some found ∧
      found.length = 3 ∧ Svg.captions? .slice pieces = some captions ∧
      captions.map Text.unescape = ["</title>&lt;\r: 1".toList] := by
  intro c
  have hdrawn : (c.render (.themed .dark)).toOption.isSome = true := by decide +kernel
  have hlabels : ∀ label ∈ c.labels, '\n' ∉ label.toList := by decide +kernel
  cases h : c.render (.themed .dark) with
  | error e =>
    rw [h] at hdrawn
    cases hdrawn
  | ok svg =>
    obtain ⟨pieces, found, hread, hfound, -, hshares, hcaptions, -⟩ := render_labels h hlabels
    obtain ⟨shares, htexts, hforall⟩ := hshares (.inr rfl)
    obtain ⟨captions, hcaptions, hrows⟩ := hcaptions (.inr rfl)
    have hlength : found.length = 1 + shares.length := by
      rw [← List.length_map (f := Text.unescape), htexts, List.length_append]
      rfl
    rw [← hforall.length_eq] at hlength
    refine ⟨svg, pieces, found, captions, rfl, hread, hfound, hlength, hcaptions, hrows.trans ?_⟩
    decide +kernel

end ChartText
