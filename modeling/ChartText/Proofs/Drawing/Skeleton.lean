import ChartText.Proofs.Drawing.Blank

/-! # The markup of a drawing

Every text of a drawing that can be drawn is kept out of its markup: the drawing is read as tags
that are nested, whose attribute values and the texts between them hold no character of markup.
Charts that are the same when blank have the same tags (`Chart.render_skeleton`). -/

namespace ChartText

open Svg (Element IsCommands IsUnmarked isCommands_phrase isCommands_plainNumber
  isCommands_pointWords)

namespace Drawing
variable {c : Chart} {o : Options}

/-! ### Paths -/

theorem isCommands_letter : ∀ w ∈ ["M", "L", "Z", "A", "0", "1"], IsCommands w := by
  decide

theorem isCommands_flag (b : Bool) : IsCommands (flag b) := by
  cases b with
  | false => exact isCommands_letter "0" (by simp)
  | true => exact isCommands_letter "1" (by simp)

theorem isCommands_arc (radius : Float) (large clockwise : Bool) (stop : Point Float) :
    ∀ w ∈ arc radius large clockwise stop, IsCommands w := by
  refine List.forall_mem_append.mpr ⟨?_, isCommands_pointWords stop⟩
  simp only [List.forall_mem_cons, List.not_mem_nil, false_imp_iff, implies_true, and_true]
  exact ⟨isCommands_letter "A" (by simp), isCommands_plainNumber radius,
    isCommands_plainNumber radius, isCommands_letter "0" (by simp), isCommands_flag large,
    isCommands_flag clockwise⟩

theorem isCommands_circlePath (circle : Circle) (radius : Float) (clockwise : Bool) :
    ∀ w ∈ circlePath circle radius clockwise, IsCommands w := by
  simp only [circlePath, List.forall_mem_append, List.forall_mem_cons, List.cons_append,
    List.not_mem_nil, false_imp_iff, implies_true, and_true]
  exact ⟨isCommands_letter "M" (by simp), ⟨⟨isCommands_pointWords _, isCommands_arc _ _ _ _⟩,
    isCommands_arc _ _ _ _⟩, isCommands_letter "Z" (by simp)⟩

theorem isCommands_slicePath (circle : Circle) (inner : Option Float) (s : Slice Float) :
    ∀ w ∈ slicePath circle inner s, IsCommands w := by
  have hM := isCommands_letter "M" (by simp)
  have hL := isCommands_letter "L" (by simp)
  have hZ := isCommands_letter "Z" (by simp)
  unfold slicePath
  split
  · refine List.forall_mem_append.mpr ⟨isCommands_circlePath _ _ _, ?_⟩
    cases inner with
    | none => exact fun w hw => absurd hw List.not_mem_nil
    | some hole => exact isCommands_circlePath _ _ _
  · cases inner with
    | none =>
      simp only [List.forall_mem_append, List.forall_mem_cons, List.cons_append,
        List.not_mem_nil, false_imp_iff, implies_true, and_true]
      exact ⟨hM, ⟨⟨isCommands_pointWords _, hL, isCommands_pointWords _⟩, isCommands_arc _ _ _ _⟩,
        hZ⟩
    | some hole =>
      simp only [List.forall_mem_append, List.forall_mem_cons, List.cons_append,
        List.not_mem_nil, false_imp_iff, implies_true, and_true]
      exact ⟨hM, ⟨⟨⟨isCommands_pointWords _, isCommands_arc _ _ _ _⟩, hL,
        isCommands_pointWords _⟩, isCommands_arc _ _ _ _⟩, hZ⟩

/-! ### Elements -/

theorem isPlain_of_mem_radialElements {circle : Circle} {inner : Option Float}
    {slices : List (Slice Float)} :
    ∀ e ∈ radialElements c o circle inner slices, e.IsPlain := by
  intro e he
  obtain ⟨⟨⟨s, label, value⟩, i⟩, -, he⟩ := List.mem_flatMap.mp he
  rcases List.mem_append.mp he with he | he
  · have he := Option.mem_toList.mp he
    unfold wedge? at he
    split at he
    · obtain rfl := Option.some.inj he
      exact (isCommands_phrase (isCommands_slicePath circle inner s)).isUnmarked
    · cases he
  · obtain rfl := List.mem_singleton.mp he
    trivial

theorem isPlain_of_mem_framed {plot : PlotArea Float} {max : Float} {marks : List Element}
    {x : Nat → Float} (h : ∀ e ∈ marks, e.IsPlain) :
    ∀ e ∈ framed c o plot max marks x, e.IsPlain := by
  unfold framed gridlines axes categoryLabels captions
  simp only [List.forall_mem_append, List.forall_mem_flatMap, List.forall_mem_map,
    List.forall_mem_cons, Option.mem_toList, Option.map_eq_some_iff]
  refine ⟨⟨⟨⟨?_, ?_⟩, h⟩, ?_⟩, ?_, ?_⟩
  · simp [Element.IsPlain]
  · simp [Element.IsPlain]
  · simp [Element.IsPlain, categoryLabel]
  · rintro e ⟨caption, -, rfl⟩
    trivial
  · rintro e ⟨caption, -, rfl⟩
    trivial

theorem Drawn.isPlain {es : List Element} (h : Drawn c o es) : ∀ e ∈ es, e.IsPlain := by
  have hlegend : ∀ e ∈ seriesLegend c o, e.IsPlain :=
    forall_mem_seriesLegend (fun _ => trivial) fun _ _ => trivial
  cases h with
  | @bar plot max =>
    have hbars : ∀ e ∈ bars c o plot max, e.IsPlain :=
      forall_mem_bars (fun _ => trivial) fun _ _ => trivial
    exact List.forall_mem_append.mpr ⟨hlegend, isPlain_of_mem_framed hbars⟩
  | @line plot max =>
    have hlines : ∀ e ∈ lines c o plot max, e.IsPlain :=
      forall_mem_lines (fun _ => trivial) (fun _ => trivial) fun _ _ => trivial
    exact List.forall_mem_append.mpr ⟨hlegend, isPlain_of_mem_framed hlines⟩
  | area => exact isPlain_of_mem_framed (by simp [areaElements, Element.IsPlain])
  | radial => exact isPlain_of_mem_radialElements

theorem Drawn.isPlain_page {es : List Element} (h : Drawn c o es) :
    ∀ e ∈ (page c o es).elements, e.IsPlain := by
  refine List.forall_mem_append.mpr ⟨fun e he => ?_, h.isPlain⟩
  obtain ⟨title, -, rfl⟩ := Option.map_eq_some_iff.mp (Option.mem_toList.mp he)
  trivial

end Drawing

open Drawing

/-- A drawing is read as nested tags whose texts and attribute values hold no character of markup.
A chart that is the same when blank can be drawn on the same canvas as well, and its drawing has
the same tags with the same attributes, apart from the values of colours. -/
theorem Chart.render_skeleton {c : Chart} {o : Options} {svg : String}
    (h : c.render o = .ok svg) :
    ∃ pieces, Svg.read? svg.toList = some pieces ∧
      (∀ p ∈ pieces, IsUnmarked p.before ∧ ∀ a ∈ p.tag.attributes, IsUnmarked a.2) ∧
      Svg.IsNested pieces ∧
      ∀ (c' : Chart) (o' : Options), c'.blank = c.blank → o'.canvas = o.canvas →
        ∃ svg' pieces', c'.render o' = .ok svg' ∧ Svg.read? svg'.toList = some pieces' ∧
          Svg.skeleton pieces' = Svg.skeleton pieces := by
  obtain ⟨hcanvas, es, hdrawn, rfl⟩ := render_eq_ok_iff.mp h
  refine ⟨(page c o es).pieces, Svg.Document.read?_write hdrawn.isPlain_page, fun p hp => ?_,
    Svg.Document.isNested_pieces, fun c' o' hc ho => ?_⟩
  · have hp := Svg.Document.wellFormed_pieces hdrawn.isPlain_page p hp
    exact ⟨hp.before, hp.tag.values⟩
  · have hblank : o'.blank = o.blank := by
      unfold Options.blank
      rw [ho]
    obtain ⟨fs, hdrawn', halike⟩ := hdrawn.of_blank hc hblank
    refine ⟨_, _, render_eq_ok_iff.mpr ⟨ho ▸ hcanvas, fs, hdrawn', rfl⟩,
      Svg.Document.read?_write hdrawn'.isPlain_page, ?_⟩
    rw [← skeleton_page_blank (.refl fs), hc, hblank, skeleton_page_blank halike]

/-- A title, a label, a series and colours full of markup, and plain ones in their places. -/
theorem Chart.render_skeleton_hostile :
    let hostile : Chart :=
      { type := .line, title := some "</text><script>", labels := ["\"/>\r\n<rect", "'"]
        values := [1.0, 2.0], series := some [⟨"<g>", [1.0, 2.0], some "red\" x=\""⟩, ⟨"&", [], none⟩]
        hints := some { yAxis := some "</svg>" } }
    let plain : Chart :=
      { type := .line, title := some "T", labels := ["a", "b"], values := [1.0, 2.0]
        series := some [⟨"s", [1.0, 2.0], none⟩, ⟨"t", [], none⟩], hints := some { yAxis := some "" } }
    let o : Options := .themed .dark
    ∃ svg pieces svg' pieces', hostile.render o = .ok svg ∧ Svg.read? svg.toList = some pieces ∧
      Svg.IsNested pieces ∧ plain.render { o with textColor := "\"><" } = .ok svg' ∧
      Svg.read? svg'.toList = some pieces' ∧ Svg.skeleton pieces' = Svg.skeleton pieces := by
  intro hostile plain o
  have hdrawn : (hostile.render o).toOption.isSome = true := by decide +kernel
  have hblank : plain.blank = hostile.blank := by decide +kernel
  cases h : hostile.render o with
  | error e =>
    rw [h] at hdrawn
    cases hdrawn
  | ok svg =>
    obtain ⟨pieces, hread, -, hnested, hsame⟩ := render_skeleton h
    obtain ⟨svg', pieces', h', hread', hskeleton⟩ :=
      hsame plain { o with textColor := "\"><" } hblank rfl
    exact ⟨svg, pieces, svg', pieces', rfl, hread, hnested, h', hread', hskeleton⟩

end ChartText
