import ChartText.Proofs.Svg.Pieces
import ChartText.Svg.Document

/-! # Documents as pieces

The text of a document is the text of its pieces (`Document.toList_write`), and these are well
formed and nested. An element is indented line by line after it has been written; its pieces are
those of its markup with the texts and attribute values reflown (`Element.lines`). -/

namespace ChartText.Svg

/-! ### Pieces that are indented again -/

def ReadTag.reflow (t : ReadTag) : ReadTag :=
  { t with attributes := t.attributes.map fun (name, value) => (name, Text.reflow value) }

def Piece.reflow (p : Piece) : Piece where
  before := Text.reflow p.before
  tag := p.tag.reflow

theorem IsUnmarked.reflow {s : List Char} (h : IsUnmarked s) : IsUnmarked (Text.reflow s) := by
  intro c hc
  rcases Text.mem_reflow hc with hc | rfl
  · exact h c hc
  · decide

theorem Piece.WellFormed.reflow {p : Piece} (h : p.WellFormed) : p.reflow.WellFormed where
  before := h.before.reflow
  tag :=
    { name := h.tag.name
      names := by
        intro a ha
        obtain ⟨b, hb, rfl⟩ := List.mem_map.mp ha
        exact h.tag.names b hb
      values := by
        intro a ha
        obtain ⟨b, hb, rfl⟩ := List.mem_map.mp ha
        exact (h.tag.values b hb).reflow
      closing := by
        intro hk
        have hnil : p.tag.attributes = [] := h.tag.closing hk
        show p.tag.attributes.map _ = []
        rw [hnil, List.map_nil] }

theorem reflow_name_append {name : List Char} (h : isName name = true) (s : List Char) :
    Text.reflow (name ++ s) = name ++ Text.reflow s :=
  Text.reflow_append (not_mem_of_isName h (by decide)) (not_mem_of_isName h (by decide)) s

theorem reflow_writeAttribute_append {name : List Char} (h : isName name = true)
    (value s : List Char) :
    Text.reflow (writeAttribute (name, value) ++ s) =
      writeAttribute (name, Text.reflow value) ++ Text.reflow s := by
  have hwrite : ∀ v t : List Char,
      writeAttribute (name, v) ++ t = [' '] ++ (name ++ (['=', '"'] ++ (v ++ '"' :: t))) := by
    intro v t
    simp [writeAttribute]
  rw [hwrite, hwrite, Text.reflow_append (by decide) (by decide), reflow_name_append h,
    Text.reflow_append (by decide) (by decide),
    Text.reflow_append_cons (by decide) (by decide)]

theorem reflow_named_append {t : ReadTag} (h : t.WellFormed) (s : List Char) :
    Text.reflow (t.named ++ s) = t.reflow.named ++ Text.reflow s := by
  obtain ⟨kind, name, attributes⟩ := t
  have hattributes : Text.reflow (attributes.flatMap writeAttribute ++ s) =
      (attributes.map fun (name, value) => (name, Text.reflow value)).flatMap writeAttribute ++
        Text.reflow s := by
    have hnames : ∀ a ∈ attributes, isName a.1 = true := h.names
    clear h
    induction attributes with
    | nil => rfl
    | cons a attributes ih =>
      rw [List.flatMap_cons, List.append_assoc,
        reflow_writeAttribute_append (hnames a List.mem_cons_self),
        ih fun b hb => hnames b (List.mem_cons_of_mem a hb), List.map_cons, List.flatMap_cons,
        List.append_assoc]
  show Text.reflow (name ++ attributes.flatMap writeAttribute ++ s) = _
  rw [List.append_assoc, reflow_name_append h.name, hattributes, ← List.append_assoc]
  rfl

theorem reflow_body_append {t : ReadTag} (h : t.WellFormed) (s : List Char) :
    Text.reflow (t.body ++ s) = t.reflow.body ++ Text.reflow s := by
  have hkind : t.reflow.kind = t.kind := rfl
  unfold ReadTag.body
  rw [hkind]
  cases t.kind with
  | opening => exact reflow_named_append h s
  | closing =>
    show Text.reflow (['/'] ++ t.name ++ s) = ['/'] ++ t.name ++ Text.reflow s
    rw [List.append_assoc, Text.reflow_append (by decide) (by decide), reflow_name_append h.name,
      List.append_assoc]
  | empty =>
    show Text.reflow (t.named ++ ['/'] ++ s) = t.reflow.named ++ ['/'] ++ Text.reflow s
    rw [List.append_assoc, reflow_named_append h, Text.reflow_append (by decide) (by decide),
      List.append_assoc]

/-- Tags stay where they are when a text is indented again. -/
theorem reflow_flatMap_write {pieces : List Piece} (h : ∀ p ∈ pieces, p.WellFormed) :
    Text.reflow (pieces.flatMap Piece.write) = (pieces.map Piece.reflow).flatMap Piece.write := by
  induction pieces with
  | nil => rfl
  | cons p pieces ih =>
    have hp := h p List.mem_cons_self
    have hwrite : ∀ (q : Piece) (s : List Char),
        q.write ++ s = q.before ++ '<' :: (q.tag.body ++ (['>'] ++ s)) := by
      intro q s
      simp [Piece.write]
    rw [List.flatMap_cons, List.map_cons, List.flatMap_cons, hwrite, hwrite,
      Text.reflow_append_cons (by decide) (by decide), reflow_body_append hp.tag,
      Text.reflow_append (by decide) (by decide), ih fun q hq => h q (List.mem_cons_of_mem p hq)]
    rfl

/-! ### Elements -/

/-- The path of a wedge is free of markup; no other element has commands of its own. -/
def Element.IsPlain : Element → Prop
  | .wedge w => IsUnmarked w.path.toList
  | _ => True

theorem isCommands_path (l : Line) : IsCommands l.path := by
  refine isCommands_phrase fun w hw => ?_
  obtain ⟨⟨p, i⟩, -, hmem⟩ := List.mem_flatMap.mp hw
  rcases List.mem_cons.mp hmem with rfl | hmem
  · split <;> decide
  · exact isCommands_pointWords p w hmem

/-- The names of all tags and attributes of a drawing. -/
def names : List String :=
  ["svg", "title", "desc", "rect", "path", "circle", "line", "text", "xmlns", "width", "height",
    "viewBox", "role", "class", "x", "y", "rx", "d", "cx", "cy", "r", "x1", "y1", "x2", "y2", "fill",
    "fill-opacity", "fill-rule", "stroke", "stroke-width", "stroke-linecap", "stroke-linejoin",
    "stroke-dasharray", "text-anchor", "font-family", "font-size", "font-weight",
    "dominant-baseline", "transform"]

theorem isName_of_mem_names : ∀ name ∈ names, isName name.toList = true := by
  decide

def Tag.names (t : Tag) : List String :=
  t.name :: t.attributes.map Prod.fst

theorem Tag.WellFormed.of_names {t : Tag} (h : t.names ⊆ Svg.names)
    (hvalues : ∀ v ∈ t.attributes.map Prod.snd, v.IsPlain) : t.WellFormed := by
  refine ⟨isName_of_mem_names _ (h List.mem_cons_self), fun a ha => ?_, fun a ha => ?_⟩
  · have hmem : a.1 ∈ t.names := List.mem_cons_of_mem _ (List.mem_map.mpr ⟨a, ha, rfl⟩)
    exact isName_of_mem_names _ (h hmem)
  · exact hvalues a.2 (List.mem_map.mpr ⟨a, ha, rfl⟩)

/-- The vocabulary of drawings suffices for every element. -/
theorem Element.names_subset (e : Element) : ∀ m ∈ e.markup, m.tag.names ⊆ names := by
  intro m hm
  cases e with
  | line l =>
    have hm : m ∈ l.markup := hm
    unfold Line.markup at hm
    split at hm
    · rcases List.mem_append.mp hm with hm | hm
      · obtain ⟨baseline, -, rfl⟩ := Option.map_eq_some_iff.mp (Option.mem_toList.mp hm)
        simp [Markup.tag, Tag.names, Line.areaMarkup, ofClass, names]
      · obtain rfl := List.mem_singleton.mp hm
        simp [Markup.tag, Tag.names, Line.strokeMarkup, ofClass, names]
    · cases hm
  | bar b =>
    obtain rfl := List.mem_singleton.mp hm
    simp [Markup.tag, Tag.names, Bar.markup, ofClass, names]
  | marker m =>
    obtain rfl := List.mem_singleton.mp hm
    simp [Markup.tag, Tag.names, Marker.markup, ofClass, names]
  | swatch s =>
    obtain rfl := List.mem_singleton.mp hm
    simp [Markup.tag, Tag.names, Swatch.markup, ofClass, names]
  | wedge w =>
    obtain rfl := List.mem_singleton.mp hm
    cases h : w.isRing <;> simp [Markup.tag, Tag.names, Wedge.markup, ofClass, names, h]
  | rule r =>
    obtain rfl := List.mem_singleton.mp hm
    cases h : r.dashed <;> simp [Markup.tag, Tag.names, Rule.markup, names, h]
  | label l =>
    obtain rfl := List.mem_singleton.mp hm
    cases hb : l.bold <;> cases hc : l.centered <;> cases hr : l.rotation <;>
      simp [Markup.tag, Tag.names, Label.markup, names, hb, hc, hr]

theorem isCommands_area (l : Line) (first last : Point Float) (baseline : Float) :
    IsCommands (phrase [l.path, "L", plainNumber last.x, plainNumber baseline, "L",
      plainNumber first.x, plainNumber baseline, "Z"]) := by
  have hletters : IsCommands "L" ∧ IsCommands "Z" := by decide
  refine isCommands_phrase ?_
  simp only [List.forall_mem_cons, List.not_mem_nil, false_imp_iff, implies_true, and_true]
  exact ⟨isCommands_path l, hletters.1, isCommands_plainNumber _, isCommands_plainNumber _,
    hletters.1, isCommands_plainNumber _, isCommands_plainNumber _, hletters.2⟩

theorem Line.isPlain_of_mem_markup (l : Line) {m : Markup} (hm : m ∈ l.markup) :
    ∀ v ∈ m.tag.attributes.map Prod.snd, v.IsPlain := by
  unfold Line.markup at hm
  split at hm
  · next first last _ _ =>
    rcases List.mem_append.mp hm with hm | hm
    · obtain ⟨baseline, -, rfl⟩ := Option.map_eq_some_iff.mp (Option.mem_toList.mp hm)
      simpa [Markup.tag, areaMarkup, ofClass, Value.IsPlain] using
        (isCommands_area l first last baseline).isUnmarked
    · obtain rfl := List.mem_singleton.mp hm
      simpa [Markup.tag, strokeMarkup, ofClass, Value.IsPlain] using (isCommands_path l).isUnmarked
  · cases hm

theorem Element.wellFormed_tag {e : Element} (h : e.IsPlain) :
    ∀ m ∈ e.markup, m.tag.WellFormed := by
  intro m hm
  refine .of_names (e.names_subset m hm) ?_
  cases e with
  | line l => exact l.isPlain_of_mem_markup hm
  | wedge w =>
    obtain rfl := List.mem_singleton.mp hm
    have hpath : IsUnmarked w.path.toList := h
    cases hr : w.isRing <;>
      simpa [Markup.tag, Wedge.markup, ofClass, Value.IsPlain, hr] using hpath
  | label l =>
    obtain rfl := List.mem_singleton.mp hm
    cases hb : l.bold <;> cases hc : l.centered <;> cases hr : l.rotation <;>
      simp [Markup.tag, Label.markup, Value.IsPlain, hb, hc, hr]
  | rule r =>
    obtain rfl := List.mem_singleton.mp hm
    cases hd : r.dashed <;> simp [Markup.tag, Rule.markup, Value.IsPlain, hd]
  | bar | marker | swatch =>
    obtain rfl := List.mem_singleton.mp hm
    simp [Markup.tag, Bar.markup, Marker.markup, Swatch.markup, ofClass, Value.IsPlain]

/-- The pieces of an element as it stands in a document, one list for each tag at the start of a
line. -/
def Element.lines (e : Element) : List (List Piece) :=
  e.markup.map fun m => m.pieces.map Piece.reflow

theorem Markup.getLast?_write (m : Markup) : m.write.toList.getLast? = some '>' := by
  cases m with
  | empty tag =>
    rw [write, String.toList_append, List.getLast?_append]
    rfl
  | text tag content =>
    rw [write, String.toList_append, Tag.toList_closing, ← List.append_assoc,
      List.getLast?_concat]
  | captioned tag caption =>
    rw [write, String.toList_append, Tag.toList_closing, ← List.append_assoc,
      List.getLast?_concat]

/-- A line of a document, with its indent and its line feed. -/
def writeLine (pieces : List Piece) : List Char :=
  Text.margin ++ pieces.flatMap Piece.write ++ ['\n']

theorem Markup.flatMap_lines_write {m : Markup} (h : m.tag.WellFormed) :
    (Text.lines m.write.toList).flatMap Text.indentLine = writeLine (m.pieces.map Piece.reflow) ∧
      ∀ t, (Text.lines (m.write.toList ++ '\n' :: t)).flatMap Text.indentLine =
        writeLine (m.pieces.map Piece.reflow) ++ (Text.lines t).flatMap Text.indentLine := by
  obtain ⟨halone, hfront⟩ :=
    Text.flatMap_lines_append (by decide) (by decide) m.getLast?_write
  have hreflow : Text.reflow m.write.toList = (m.pieces.map Piece.reflow).flatMap Piece.write := by
    rw [m.toList_write, reflow_flatMap_write (Markup.wellFormed_pieces h)]
  rw [hreflow] at halone hfront
  refine ⟨halone, fun t => ?_⟩
  rw [hfront, writeLine, List.append_assoc, List.append_assoc, List.append_assoc]
  rfl

theorem flatMap_lines_markups {ms : List Markup} (h : ∀ m ∈ ms, m.tag.WellFormed) :
    (Text.lines (ms.flatMap fun m => m.write.toList ++ ['\n'])).flatMap Text.indentLine =
      (ms.map fun m => m.pieces.map Piece.reflow).flatMap writeLine := by
  induction ms with
  | nil => rfl
  | cons m ms ih =>
    have hm := Markup.flatMap_lines_write (h m List.mem_cons_self)
    rw [List.flatMap_cons, List.append_assoc, List.singleton_append, hm.2,
      ih fun n hn => h n (List.mem_cons_of_mem m hn)]
    rfl

theorem Document.toList_writeElement {e : Element} (h : e.IsPlain) :
    (Document.writeElement e).toList = e.lines.flatMap writeLine := by
  have hindent : indent.toList = Text.margin := by decide
  have hlines : (Document.writeElement e).toList =
      (Text.lines e.write.toList).flatMap Text.indentLine := by
    rw [Document.writeElement, String.toList_join, List.flatMap_map]
    refine List.flatMap_congr fun line _ => ?_
    simp [Text.indentLine, hindent]
  have hmarkup := Element.wellFormed_tag h
  rw [hlines]
  cases e with
  | line l =>
    have hwrite : (Element.line l).write.toList =
        l.markup.flatMap fun m => m.write.toList ++ ['\n'] := by
      simp [Element.write, List.flatMap_map]
    rw [hwrite]
    exact flatMap_lines_markups hmarkup
  | bar | marker | wedge | rule | swatch | label =>
    -- all other elements are a single tag, without a line feed after it
    have hone := (Markup.flatMap_lines_write (hmarkup _ (List.mem_singleton_self _))).1
    simpa [Element.write, Element.lines, Element.markup] using hone

/-! ### Documents -/

/-- The text before the first of some pieces becomes longer. -/
def lead (before : List Char) : List Piece → List Piece
  | [] => []
  | p :: pieces => { p with before := before ++ p.before } :: pieces

theorem flatMap_write_lead (before : List Char) {pieces : List Piece} (h : pieces ≠ []) :
    (lead before pieces).flatMap Piece.write = before ++ pieces.flatMap Piece.write := by
  obtain ⟨p, pieces, rfl⟩ := List.exists_cons_of_ne_nil h
  simp [lead, Piece.write]

theorem map_tag_lead (before : List Char) (pieces : List Piece) :
    (lead before pieces).map Piece.tag = pieces.map Piece.tag := by
  cases pieces <;> rfl

theorem wellFormed_of_mem_lead {pieces : List Piece} (h : ∀ p ∈ pieces, p.WellFormed) :
    ∀ p ∈ lead newLine pieces, p.WellFormed := by
  intro p hp
  cases pieces with
  | nil => cases hp
  | cons q pieces =>
    have hq := h q List.mem_cons_self
    rcases List.mem_cons.mp hp with rfl | hp
    · exact ⟨isUnmarked_newLine.append hq.before, hq.tag⟩
    · exact h p (List.mem_cons_of_mem q hp)

/-- The line feeds move from the ends of the lines to their starts. -/
theorem cons_flatMap_writeLine {lines : List (List Piece)} (h : ∀ line ∈ lines, line ≠ []) :
    '\n' :: lines.flatMap writeLine =
      (lines.flatMap (lead newLine)).flatMap Piece.write ++ ['\n'] := by
  induction lines with
  | nil => rfl
  | cons line lines ih =>
    have ih := ih fun l hl => h l (List.mem_cons_of_mem line hl)
    rw [List.flatMap_cons, List.flatMap_cons, List.flatMap_append,
      flatMap_write_lead newLine (h line List.mem_cons_self), List.append_assoc, ← ih]
    simp [writeLine, newLine]

namespace Document
variable {d : Document}

/-- The pieces of a document between its opening and its closing tag, one list for each line. -/
def lines (d : Document) : List (List Piece) :=
  d.frame.map Markup.pieces ++ d.elements.flatMap Element.lines

def pieces (d : Document) : List Piece :=
  ⟨[], d.rootTag.read .opening⟩ :: d.lines.flatMap (lead newLine) ++
    [⟨['\n'], d.rootTag.endTag⟩]

/-- Every line of a document is the markup of some tag, as it was written or indented again. -/
theorem mem_lines {line : List Piece} (h : line ∈ d.lines) :
    ∃ m : Markup, (m ∈ d.frame ∧ line = m.pieces) ∨
      ∃ e ∈ d.elements, m ∈ e.markup ∧ line = m.pieces.map Piece.reflow := by
  rcases List.mem_append.mp h with h | h
  · obtain ⟨m, hm, rfl⟩ := List.mem_map.mp h
    exact ⟨m, .inl ⟨hm, rfl⟩⟩
  · obtain ⟨e, he, hline⟩ := List.mem_flatMap.mp h
    obtain ⟨m, hm, rfl⟩ := List.mem_map.mp hline
    exact ⟨m, .inr ⟨e, he, hm, rfl⟩⟩

theorem ne_nil_of_mem_lines {line : List Piece} (h : line ∈ d.lines) : line ≠ [] := by
  obtain ⟨m, ⟨-, rfl⟩ | ⟨-, -, -, rfl⟩⟩ := mem_lines h
  · exact m.pieces_ne_nil
  · simp [m.pieces_ne_nil]

/-- The tag of the background of a drawing. -/
def backgroundTag (color : String) : Tag where
  name := "rect"
  attributes := [("width", .text "100%"), ("height", .text "100%"), ("fill", .text color)]

theorem cases_of_mem_frame {m : Markup} (h : m ∈ d.frame) :
    (∃ name, (name = "title" ∨ name = "desc") ∧ ∃ content, m = .text ⟨name, []⟩ content) ∨
      ∃ color, m = .empty (backgroundTag color) := by
  simp only [frame, List.mem_append, Option.mem_toList, Option.map_eq_some_iff] at h
  rcases h with (h | h) | ⟨color, -, rfl⟩
  · split at h
    · cases h
    · exact .inl ⟨"title", .inl rfl, d.title, List.mem_singleton.mp h⟩
  · split at h
    · cases h
    · exact .inl ⟨"desc", .inr rfl, d.description, List.mem_singleton.mp h⟩
  · exact .inr ⟨color, rfl⟩

theorem wellFormed_rootTag : d.rootTag.WellFormed := by
  refine .of_names ?_ ?_
  · simp [rootTag, Tag.names, names]
  · simp [rootTag, Value.IsPlain]

theorem wellFormed_frame : ∀ m ∈ d.frame, m.tag.WellFormed := by
  intro m hm
  obtain ⟨name, hname, content, rfl⟩ | ⟨color, rfl⟩ := cases_of_mem_frame hm
  · refine .of_names ?_ (by simp [Markup.tag])
    rcases hname with rfl | rfl <;> simp [Markup.tag, Tag.names, names]
  · exact .of_names (by simp [Markup.tag, Tag.names, backgroundTag, names])
      (by simp [Markup.tag, backgroundTag, Value.IsPlain])

theorem toList_write (h : ∀ e ∈ d.elements, e.IsPlain) :
    d.write.toList = d.pieces.flatMap Piece.write := by
  have hindent : indent.toList = Text.margin := by decide
  have hframe : (String.join (d.frame.map fun m => indent ++ m.write ++ "\n")).toList =
      (d.frame.map Markup.pieces).flatMap writeLine := by
    rw [String.toList_join, List.flatMap_map, List.flatMap_map]
    refine List.flatMap_congr fun m _ => ?_
    simp [hindent, writeLine, m.toList_write]
  have helements : (String.join (d.elements.map writeElement)).toList =
      (d.elements.flatMap Element.lines).flatMap writeLine := by
    rw [String.toList_join, List.flatMap_map, List.flatMap_assoc]
    exact List.flatMap_congr fun e he => toList_writeElement (h e he)
  have hlines : d.write.toList = d.rootTag.opening.toList ++ '\n' :: d.lines.flatMap writeLine ++
      d.rootTag.closing.toList := by
    simp only [write, String.toList_append, hframe, helements, lines, List.flatMap_append]
    simp
  rw [hlines, cons_flatMap_writeLine fun line => ne_nil_of_mem_lines, Tag.toList_opening,
    Tag.toList_closing, pieces, List.flatMap_append, List.flatMap_cons, List.flatMap_singleton]
  simp [Piece.write]

theorem wellFormed_pieces (h : ∀ e ∈ d.elements, e.IsPlain) : ∀ p ∈ d.pieces, p.WellFormed := by
  intro p hp
  unfold pieces at hp
  rcases List.mem_append.mp hp with hp | hp
  · rcases List.mem_cons.mp hp with rfl | hp
    · exact ⟨isUnmarked_nil, wellFormed_rootTag.read (by decide)⟩
    · obtain ⟨line, hline, hp⟩ := List.mem_flatMap.mp hp
      refine wellFormed_of_mem_lead (fun q hq => ?_) p hp
      obtain ⟨m, ⟨hm, rfl⟩ | ⟨e, he, hm, rfl⟩⟩ := mem_lines hline
      · exact Markup.wellFormed_pieces (wellFormed_frame m hm) q hq
      · obtain ⟨r, hr, rfl⟩ := List.mem_map.mp hq
        exact (Markup.wellFormed_pieces (Element.wellFormed_tag (h e he) m hm) r hr).reflow
  · obtain rfl := List.mem_singleton.mp hp
    exact ⟨isUnmarked_lineFeed, wellFormed_rootTag.endTag⟩

theorem read?_write (h : ∀ e ∈ d.elements, e.IsPlain) :
    read? d.write.toList = some d.pieces := by
  rw [toList_write h, read?_flatMap_write (wellFormed_pieces h)]

theorem foldlM_step_line {line : List Piece} (h : line ∈ d.lines) (opened : List (List Char)) :
    (line.map Piece.tag).foldlM ReadTag.step opened = some opened := by
  obtain ⟨m, ⟨-, rfl⟩ | ⟨-, -, -, rfl⟩⟩ := mem_lines h
  · exact m.foldlM_step_pieces opened
  · rw [List.map_map, ← m.foldlM_step_pieces opened, List.foldlM_map, List.foldlM_map]
    rfl

theorem isNested_pieces : IsNested d.pieces := by
  have hlines : ∀ lines : List (List Piece), (∀ line ∈ lines, line ∈ d.lines) → ∀ opened,
      ((lines.flatMap (lead newLine)).map Piece.tag).foldlM ReadTag.step opened = some opened := by
    intro lines
    induction lines with
    | nil => exact fun _ _ => rfl
    | cons line lines ih =>
      intro h opened
      rw [List.flatMap_cons, List.map_append, List.foldlM_append, map_tag_lead,
        foldlM_step_line (h line List.mem_cons_self)]
      exact ih (fun l hl => h l (List.mem_cons_of_mem line hl)) opened
  unfold IsNested pieces
  rw [List.map_append, List.foldlM_append, List.map_cons, List.foldlM_cons]
  show (do
    let opened ← ((d.lines.flatMap (lead newLine)).map Piece.tag).foldlM ReadTag.step
      [d.rootTag.name.toList]
    [d.rootTag.endTag].foldlM ReadTag.step opened) = _
  rw [hlines d.lines fun _ hl => hl]
  simp [ReadTag.step, Tag.endTag]

end Document
end ChartText.Svg
