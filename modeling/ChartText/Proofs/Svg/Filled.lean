import ChartText.Proofs.Svg.Document
import ChartText.Proofs.Text.Filled

/-! # Drawings without blank lines

If no text and no colour in a drawing has a line feed, the only line feeds are those between its
tags, and a tag stands on every line (`Document.filled_write`). -/

namespace ChartText

open Text (IsLine Filled)

namespace Svg

theorem IsCommands.isLine {s : String} (h : IsCommands s) : IsLine s :=
  h.notMem (by decide)

/-! ### Pieces -/

theorem ReadTag.lineFeed_notMem_body {t : ReadTag} (h : t.WellFormed)
    (hvalues : ∀ a ∈ t.attributes, '\n' ∉ a.2) : '\n' ∉ t.body := by
  have hname : '\n' ∉ t.name := not_mem_of_isName h.name (by decide)
  have hattributes : '\n' ∉ t.attributes.flatMap writeAttribute := by
    rw [List.mem_flatMap]
    rintro ⟨a, ha, hmem⟩
    have hkey : '\n' ∉ a.1 := not_mem_of_isName (h.names a ha) (by decide)
    simp [writeAttribute, hkey, hvalues a ha] at hmem
  unfold body
  cases t.kind <;> simp [named, hname, hattributes]

/-- The only line feed there can be is one in front of the tag, with nothing but an indentation
between them. -/
structure Piece.IsOneLine (p : Piece) : Prop where
  before : '\n' ∉ p.before ∨ ∃ n, p.before = '\n' :: List.replicate n ' '
  values : ∀ a ∈ p.tag.attributes, '\n' ∉ a.2

theorem Piece.isOneLine_of_notMem {before : List Char} {tag : ReadTag} (hbefore : '\n' ∉ before)
    (hvalues : ∀ a ∈ tag.attributes, '\n' ∉ a.2) : Piece.IsOneLine ⟨before, tag⟩ :=
  ⟨.inl hbefore, hvalues⟩

theorem Piece.filled_append_write {p : Piece} (hp : p.WellFormed) (hline : p.IsOneLine)
    {s : List Char} (hs : Filled s) : Filled (s ++ p.write) := by
  have hbody := ReadTag.lineFeed_notMem_body hp.tag hline.values
  unfold write
  rcases hline.before with hbefore | ⟨n, hbefore⟩
  · exact hs.append (by simp [hbefore, hbody])
  · rw [hbefore]
    refine hs.append_line (Text.filled_of_isIndented ?_ ?_)
    · simp [hbody]
    · exact ⟨n, '<', p.tag.body ++ ['>'], by simp, by decide⟩

theorem Piece.IsOneLine.reflow {p : Piece} (h : p.IsOneLine) : p.reflow.IsOneLine := by
  constructor
  · show '\n' ∉ Text.reflow p.before ∨ ∃ n, Text.reflow p.before = '\n' :: List.replicate n ' '
    rcases h.before with hbefore | ⟨n, hbefore⟩
    · exact .inl (by rwa [Text.reflow_eq_self hbefore])
    · refine .inr ⟨4 + n, ?_⟩
      rw [hbefore, Text.reflow_line_feed, Text.reflow_eq_self (by simp), List.replicate_add]
      rfl
  · intro a ha
    obtain ⟨b, hb, rfl⟩ := List.mem_map.mp ha
    have hvalue := h.values b hb
    show '\n' ∉ Text.reflow b.2
    rwa [Text.reflow_eq_self hvalue]

theorem filled_flatMap_write {p : Piece} {pieces : List Piece} (hfirst : p.before = [])
    (h : ∀ q ∈ p :: pieces, q.WellFormed ∧ q.IsOneLine) :
    Filled ((p :: pieces).flatMap Piece.write) := by
  obtain ⟨hp, hline⟩ := h p List.mem_cons_self
  have hbody := ReadTag.lineFeed_notMem_body hp.tag hline.values
  have hstart : Filled p.write := by
    unfold Piece.write
    rw [hfirst]
    exact Text.filled_of_isIndented (by simp [hbody]) (Text.isIndented_cons (by decide) _)
  have hrest : ∀ q ∈ pieces, q.WellFormed ∧ q.IsOneLine :=
    fun q hq => h q (List.mem_cons_of_mem p hq)
  rw [List.flatMap_cons]
  clear h hfirst
  generalize p.write = s at hstart
  induction pieces generalizing s with
  | nil => simpa using hstart
  | cons q pieces ih =>
    obtain ⟨hq, hqline⟩ := hrest q List.mem_cons_self
    rw [List.flatMap_cons, ← List.append_assoc]
    exact ih (fun r hr => hrest r (List.mem_cons_of_mem q hr)) _
      (Piece.filled_append_write hq hqline hstart)

/-! ### Markup -/

/-- A value that is written without line feeds. -/
def Value.IsLine : Value → Prop
  | .number _ => True
  | .text s | .commands s => Text.IsLine s

theorem Value.IsLine.write {v : Value} (h : v.IsLine) : Text.IsLine v.write := by
  cases v with
  | number x => exact (isCommands_plainNumber x).isLine
  | text s => exact Text.IsLine.escape h
  | commands s => exact h

theorem Tag.isLine_read {t : Tag} (h : ∀ v ∈ t.attributes.map Prod.snd, v.IsLine)
    {kind : TagKind} : ∀ a ∈ (t.read kind).attributes, '\n' ∉ a.2 := by
  intro a ha
  obtain ⟨b, hb, rfl⟩ := List.mem_map.mp ha
  exact (h b.2 (List.mem_map_of_mem hb)).write

namespace Markup

/-- The text or the caption. -/
def content? : Markup → Option String
  | empty _ => none
  | text _ content => some content
  | captioned _ caption => some caption

structure IsOneLine (m : Markup) : Prop where
  values : ∀ v ∈ m.tag.attributes.map Prod.snd, v.IsLine
  content : ∀ s, m.content? = some s → IsLine s

variable {m : Markup}

theorem IsOneLine.isOneLine_pieces (h : m.IsOneLine) :
    ∀ p ∈ m.pieces, p.IsOneLine := by
  have hend (t : Tag) : ∀ a ∈ t.endTag.attributes, '\n' ∉ a.2 :=
    fun a ha => absurd ha List.not_mem_nil
  cases m with
  | empty tag =>
    simp only [pieces, List.forall_mem_singleton]
    exact ⟨by simp, Tag.isLine_read h.values⟩
  | text tag content =>
    have hcontent : '\n' ∉ (Text.escape content).toList := (h.content content rfl).escape
    simp only [pieces, List.forall_mem_cons, List.not_mem_nil, false_imp_iff, implies_true,
      and_true]
    exact ⟨⟨by simp, Tag.isLine_read h.values⟩, Piece.isOneLine_of_notMem hcontent (hend tag)⟩
  | captioned tag caption =>
    have hcaption : '\n' ∉ (Text.escape caption).toList := (h.content caption rfl).escape
    simp only [pieces, List.forall_mem_cons, List.not_mem_nil, false_imp_iff, implies_true,
      and_true]
    exact ⟨⟨by simp, Tag.isLine_read h.values⟩, ⟨.inr ⟨4, rfl⟩, by simp [Tag.read, titleTag]⟩,
      Piece.isOneLine_of_notMem hcaption (hend titleTag), ⟨.inr ⟨0, rfl⟩, hend tag⟩⟩

theorem exists_pieces_eq_cons (m : Markup) :
    ∃ tag rest, m.pieces = ⟨[], tag⟩ :: rest := by
  cases m <;> exact ⟨_, _, rfl⟩

end Markup

theorem isOneLine_lead {tag : ReadTag} {rest : List Piece}
    (h : ∀ p ∈ ⟨[], tag⟩ :: rest, p.IsOneLine) :
    ∀ p ∈ lead newLine (⟨[], tag⟩ :: rest), p.IsOneLine := by
  intro p hp
  rcases List.mem_cons.mp hp with rfl | hp
  · exact ⟨.inr ⟨4, rfl⟩, (h _ List.mem_cons_self).values⟩
  · exact h p (List.mem_cons_of_mem _ hp)

/-! ### Elements -/

/-- The texts, the colours and the path of an element are lines. -/
def Element.IsOneLine : Element → Prop
  | bar b => IsLine b.color ∧ IsLine b.label
  | line l => IsLine l.color
  | marker m => IsLine m.fill ∧ IsLine m.stroke
  | wedge w => IsLine w.path ∧ IsLine w.fill ∧ IsLine w.stroke ∧ IsLine w.label
  | rule r => IsLine r.stroke
  | swatch s => IsLine s.color
  | label l => IsLine l.text ∧ IsLine l.color

theorem isLine_of_mem_values : ∀ s ∈ ["pv-bar", "pv-area", "pv-line", "pv-point", "pv-slice",
    "pv-swatch", "none", "round", "evenodd", "3,3", "start", "middle", "end", "bold", fontFamily],
    IsLine s := by
  decide

theorem isLine_caption {label : String} (h : IsLine label) (value : Float) :
    IsLine (label ++ ": " ++ plainNumber value) :=
  (h.append (by decide)).append (isCommands_plainNumber value).isLine

theorem Label.isLine_transform (l : Label) (degrees : Float) : IsLine (l.transform degrees) := by
  have hphrase : IsLine (phrase (plainNumber degrees :: pointWords l.position)) := by
    refine (isCommands_phrase fun w hw => ?_).isLine
    rcases List.mem_cons.mp hw with rfl | hw
    · exact isCommands_plainNumber degrees
    · exact isCommands_pointWords l.position w hw
  have hopen : IsLine "rotate(" := by decide
  exact (hopen.append hphrase).append (by decide)

theorem Line.isOneLine_markup {l : Line} (h : IsLine l.color) :
    ∀ m ∈ l.markup, m.IsOneLine := by
  intro m hm
  unfold markup at hm
  split at hm
  · next first last _ _ =>
    rcases List.mem_append.mp hm with hm | hm
    · obtain ⟨baseline, -, rfl⟩ := Option.map_eq_some_iff.mp (Option.mem_toList.mp hm)
      refine ⟨?_, by rintro s ⟨⟩⟩
      simp [Markup.tag, areaMarkup, ofClass, Value.IsLine, isLine_of_mem_values, h,
        (isCommands_area l first last baseline).isLine]
    · obtain rfl := List.mem_singleton.mp hm
      refine ⟨?_, by rintro s ⟨⟩⟩
      simp [Markup.tag, strokeMarkup, ofClass, Value.IsLine, isLine_of_mem_values, h,
        (isCommands_path l).isLine]
  · cases hm

theorem Element.isOneLine_markup {e : Element} (h : e.IsOneLine) :
    ∀ m ∈ e.markup, m.IsOneLine := by
  intro m hm
  cases e with
  | line l => exact Line.isOneLine_markup h m hm
  | bar b =>
    obtain rfl := List.mem_singleton.mp hm
    obtain ⟨hcolor, hlabel⟩ := h
    refine ⟨?_, ?_⟩
    · simp [Markup.tag, Bar.markup, ofClass, Value.IsLine, isLine_of_mem_values, hcolor]
    · rintro s ⟨⟩
      exact isLine_caption hlabel b.value
  | wedge w =>
    obtain rfl := List.mem_singleton.mp hm
    obtain ⟨hpath, hfill, hstroke, hlabel⟩ := h
    refine ⟨?_, ?_⟩
    · cases hr : w.isRing <;>
        simp [Markup.tag, Wedge.markup, ofClass, Value.IsLine, isLine_of_mem_values, hpath, hfill,
          hstroke, hr]
    · rintro s ⟨⟩
      exact isLine_caption hlabel w.value
  | marker p =>
    obtain rfl := List.mem_singleton.mp hm
    obtain ⟨hfill, hstroke⟩ := h
    refine ⟨?_, by rintro s ⟨⟩⟩
    simp [Markup.tag, Marker.markup, ofClass, Value.IsLine, isLine_of_mem_values, hfill, hstroke]
  | rule r =>
    obtain rfl := List.mem_singleton.mp hm
    have hstroke : IsLine r.stroke := h
    refine ⟨?_, by rintro s ⟨⟩⟩
    cases hd : r.dashed <;>
      simp [Markup.tag, Rule.markup, Value.IsLine, isLine_of_mem_values, hstroke, hd]
  | swatch s =>
    obtain rfl := List.mem_singleton.mp hm
    have hcolor : IsLine s.color := h
    refine ⟨?_, by rintro s ⟨⟩⟩
    simp [Markup.tag, Swatch.markup, ofClass, Value.IsLine, isLine_of_mem_values, hcolor]
  | label l =>
    obtain rfl := List.mem_singleton.mp hm
    obtain ⟨htext, hcolor⟩ := h
    have hanchor : IsLine l.anchor.name := by
      refine isLine_of_mem_values _ ?_
      cases l.anchor <;> simp [Anchor.name]
    refine ⟨?_, ?_⟩
    · cases hb : l.bold <;> cases hc : l.centered <;> cases hr : l.rotation <;>
        simp [Markup.tag, Label.markup, Value.IsLine, isLine_of_mem_values, Label.isLine_transform,
          hcolor, hanchor, hb, hc, hr]
    · rintro s ⟨⟩
      exact htext

/-! ### Documents -/

namespace Document
variable {d : Document}

/-- The texts and colours of a document. -/
structure IsOneLine (d : Document) : Prop where
  title : IsLine d.title
  description : IsLine d.description
  background : ∀ color, d.background = some color → IsLine color
  elements : ∀ e ∈ d.elements, e.IsOneLine

theorem isLine_rootTag : ∀ v ∈ d.rootTag.attributes.map Prod.snd, v.IsLine := by
  have hviewBox : IsLine (phrase ["0", "0", plainNumber d.width, plainNumber d.height]) := by
    have hzero : IsCommands "0" := by decide
    refine (isCommands_phrase ?_).isLine
    simp only [List.forall_mem_cons, List.not_mem_nil, false_imp_iff, implies_true, and_true]
    exact ⟨hzero, hzero, isCommands_plainNumber _, isCommands_plainNumber _⟩
  have hfixed : IsLine "http://www.w3.org/2000/svg" ∧ IsLine "img" := by decide
  simp [rootTag, Value.IsLine, hviewBox, hfixed]

theorem IsOneLine.frame (h : d.IsOneLine) : ∀ m ∈ d.frame, m.IsOneLine := by
  have htext (name content : String) (hcontent : IsLine content) :
      (Markup.text ⟨name, []⟩ content).IsOneLine :=
    ⟨fun v hv => absurd hv List.not_mem_nil, by rintro s ⟨⟩; exact hcontent⟩
  intro m hm
  simp only [Document.frame, List.mem_append, Option.mem_toList, Option.map_eq_some_iff] at hm
  rcases hm with (hm | hm) | ⟨color, hcolor, rfl⟩
  · split at hm
    · cases hm
    · obtain rfl := List.mem_singleton.mp hm
      exact htext _ _ h.title
  · split at hm
    · cases hm
    · obtain rfl := List.mem_singleton.mp hm
      exact htext _ _ h.description
  · refine ⟨?_, by rintro s ⟨⟩⟩
    have hpercent : IsLine "100%" := by decide
    simp [Markup.tag, Value.IsLine, hpercent, h.background color hcolor]

theorem IsOneLine.pieces (h : d.IsOneLine) : ∀ p ∈ d.pieces, p.IsOneLine := by
  intro p hp
  rcases List.mem_append.mp hp with hp | hp
  · rcases List.mem_cons.mp hp with rfl | hp
    · exact ⟨by simp, Tag.isLine_read isLine_rootTag⟩
    · obtain ⟨line, hline, hp⟩ := List.mem_flatMap.mp hp
      obtain ⟨m, ⟨hm, rfl⟩ | ⟨e, he, hm, rfl⟩⟩ := mem_lines hline
      · obtain ⟨tag, rest, hpieces⟩ := m.exists_pieces_eq_cons
        have hone := (h.frame m hm).isOneLine_pieces
        rw [hpieces] at hp hone
        exact isOneLine_lead hone p hp
      · obtain ⟨tag, rest, hpieces⟩ := m.exists_pieces_eq_cons
        have hone := (Element.isOneLine_markup (h.elements e he) m hm).isOneLine_pieces
        have hreflown : ∀ q ∈ m.pieces.map Piece.reflow, q.IsOneLine := by
          intro q hq
          obtain ⟨r, hr, rfl⟩ := List.mem_map.mp hq
          exact (hone r hr).reflow
        rw [hpieces] at hp hreflown
        exact isOneLine_lead hreflown p hp
  · obtain rfl := List.mem_singleton.mp hp
    exact ⟨by simp, fun a ha => absurd ha List.not_mem_nil⟩

/-- A tag stands on every line of a document whose texts and colours are lines. -/
theorem filled_write (h : d.IsOneLine) (hplain : ∀ e ∈ d.elements, e.IsPlain) :
    Filled d.write.toList := by
  rw [toList_write hplain]
  exact filled_flatMap_write rfl fun p hp => ⟨wellFormed_pieces hplain p hp, h.pieces p hp⟩

end Document

end Svg
end ChartText
