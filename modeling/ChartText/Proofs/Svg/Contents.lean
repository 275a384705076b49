import ChartText.Proofs.Svg.Marks
import ChartText.Proofs.Text.Unescape

/-! # The texts in a drawing

`contents?` reads the texts of the elements with a given name out of the pieces of a drawing, and
`captions?` the captions of its marks, in the order in which they stand there. Out of the pieces of
a document they read the texts of its labels (`Document.contents?_pieces`) and the captions of its
bars and slices (`Document.captions?_pieces`), as they were escaped and indented again. -/

namespace ChartText

namespace Svg

/-! ### Reading texts -/

/-- The text of an element whose opening tag stands in front of the pieces, if there is a text and
nothing else in it. -/
def contentOf? (name : List Char) : List Piece → Option (List Char)
  | p :: _ => if p.tag = ⟨.closing, name, []⟩ then some p.before else none
  | [] => none

/-- The texts of the elements with a name. -/
def contents? (name : List Char) : List Piece → Option (List (List Char))
  | [] => some []
  | p :: rest =>
    if p.tag.kind = .opening ∧ p.tag.name = name then do
      let text ← contentOf? name rest
      let texts ← contents? name rest
      return text :: texts
    else contents? name rest

/-- The text of the `title` that a tag in front of the pieces has right inside of it. -/
def captionOf? : List Piece → Option (List Char)
  | p :: rest => if p.tag = ⟨.opening, "title".toList, []⟩ then contentOf? "title".toList rest else none
  | [] => none

/-- The captions of the tags that show a mark. -/
def captions? (m : Mark) : List Piece → Option (List (List Char))
  | [] => some []
  | p :: rest =>
    if 0 < p.tag.count m then do
      let caption ← captionOf? rest
      let captions ← captions? m rest
      return caption :: captions
    else captions? m rest

variable {name : List Char} {m : Mark}

theorem contents?_append {line : List Piece}
    (h : ∀ p ∈ line, ¬ (p.tag.kind = .opening ∧ p.tag.name = name)) (rest : List Piece) :
    contents? name (line ++ rest) = contents? name rest := by
  induction line with
  | nil => rfl
  | cons p line ih =>
    rw [List.cons_append, contents?, if_neg (h p List.mem_cons_self),
      ih fun q hq => h q (List.mem_cons_of_mem p hq)]

theorem tally_cons (m : Mark) (p : Piece) (pieces : List Piece) :
    tally m (p :: pieces) = p.tag.count m + tally m pieces :=
  rfl

theorem captions?_append {line : List Piece} (h : tally m line = 0) (rest : List Piece) :
    captions? m (line ++ rest) = captions? m rest := by
  induction line with
  | nil => rfl
  | cons p line ih =>
    rw [tally_cons] at h
    rw [List.cons_append, captions?, if_neg (by omega), ih (by omega)]

/-! ### Texts of elements -/

/-- A text as it stands in a document. -/
def written (text : String) : List Char :=
  Text.reflow (Text.escape text).toList

theorem unescape_written (text : String) :
    Text.unescape (written text) = Text.reflow text.toList := by
  rw [written, Text.escape, String.toList_ofList, Text.reflow_escapeChars,
    Text.unescape_escapeChars]

def Element.text? : Element → Option String
  | label l => some l.text
  | _ => none

def Element.caption? : Mark → Element → Option String
  | .bar, bar b => some (b.label ++ ": " ++ plainNumber b.value)
  | .slice, wedge w => some (w.label ++ ": " ++ plainNumber w.value)
  | _, _ => none

@[simp] theorem Element.caption?_label (m : Mark) (l : Label) : (label l).caption? m = none := by
  cases m <;> rfl

@[simp] theorem Element.caption?_rule (m : Mark) (r : Rule) : (rule r).caption? m = none := by
  cases m <;> rfl

theorem Markup.name_of_mem_pieces {n : Markup} {p : Piece} (h : p ∈ n.pieces) :
    p.tag.name = n.tag.name.toList ∨ p.tag.name = "title".toList := by
  cases n with
  | empty tag =>
    obtain rfl := List.mem_singleton.mp h
    exact .inl rfl
  | text tag content =>
    simp only [pieces, List.mem_cons, List.not_mem_nil, or_false] at h
    rcases h with rfl | rfl <;> exact .inl rfl
  | captioned tag caption =>
    simp only [pieces, List.mem_cons, List.not_mem_nil, or_false] at h
    rcases h with rfl | rfl | rfl | rfl
    · exact .inl rfl
    · exact .inr rfl
    · exact .inr rfl
    · exact .inl rfl

theorem Markup.name_ne_text {n : Markup} (h : n.tag.name ≠ "text") {p : Piece} (hp : p ∈ n.pieces) :
    p.tag.name ≠ "text".toList := by
  intro hname
  rcases name_of_mem_pieces hp with hown | htitle
  · exact h (String.toList_inj.mp (hown.symm.trans hname))
  · exact absurd (htitle.symm.trans hname) (by decide)

theorem exists_tag_of_mem_lead {before : List Char} {pieces : List Piece} {p : Piece}
    (h : p ∈ lead before pieces) : ∃ q ∈ pieces, q.tag = p.tag := by
  have hmem : p.tag ∈ (lead before pieces).map Piece.tag := List.mem_map_of_mem h
  rw [map_tag_lead] at hmem
  exact List.mem_map.mp hmem

theorem contents?_lines_of_ne {e : Element} (h : ∀ n ∈ e.markup, n.tag.name ≠ "text")
    (rest : List Piece) :
    contents? "text".toList (e.lines.flatMap (lead newLine) ++ rest) =
      contents? "text".toList rest := by
  refine contents?_append (fun p hp hopen => ?_) rest
  obtain ⟨line, hline, hp⟩ := List.mem_flatMap.mp hp
  obtain ⟨n, hn, rfl⟩ := List.mem_map.mp hline
  obtain ⟨q, hq, htag⟩ := exists_tag_of_mem_lead hp
  obtain ⟨r, hr, rfl⟩ := List.mem_map.mp hq
  refine Markup.name_ne_text (h n hn) hr ?_
  rw [← hopen.2, ← htag]
  rfl

theorem Tag.reflow_endTag (t : Tag) : t.endTag.reflow = ⟨.closing, t.name.toList, []⟩ := rfl

theorem contents?_text (tag : Tag) (content : String) (rest : List Piece) :
    contents? tag.name.toList
        (lead newLine ((Markup.text tag content).pieces.map Piece.reflow) ++ rest) =
      (contents? tag.name.toList rest).map (written content :: ·) := by
  have hpieces : lead newLine ((Markup.text tag content).pieces.map Piece.reflow) =
      [⟨newLine ++ Text.reflow [], (tag.read .opening).reflow⟩,
        ⟨written content, tag.endTag.reflow⟩] := by
    simp only [Markup.pieces, List.map_cons, List.map_nil, Piece.reflow, lead, written]
  have hopen : (tag.read .opening).reflow.kind = .opening ∧
      (tag.read .opening).reflow.name = tag.name.toList := ⟨rfl, rfl⟩
  rw [hpieces, List.cons_append, contents?, if_pos hopen, List.cons_append, contents?,
    Tag.reflow_endTag, if_neg (by simp), contentOf?, if_pos rfl, List.nil_append]
  cases contents? tag.name.toList rest <;> simp

theorem Line.name_markup (l : Line) {n : Markup} (h : n ∈ l.markup) : n.tag.name = "path" := by
  unfold markup at h
  split at h
  · rcases List.mem_append.mp h with h | h
    · obtain ⟨baseline, -, rfl⟩ := Option.map_eq_some_iff.mp (Option.mem_toList.mp h)
      rfl
    · obtain rfl := List.mem_singleton.mp h
      rfl
  · cases h

theorem Element.contents?_lines (e : Element) (rest : List Piece) :
    contents? "text".toList (e.lines.flatMap (lead newLine) ++ rest) =
      (contents? "text".toList rest).map (e.text?.toList.map written ++ ·) := by
  have hnone (hne : ∀ n ∈ e.markup, n.tag.name ≠ "text") (htext : e.text? = none) :
      contents? "text".toList (e.lines.flatMap (lead newLine) ++ rest) =
        (contents? "text".toList rest).map (e.text?.toList.map written ++ ·) := by
    rw [contents?_lines_of_ne hne, htext]
    cases contents? "text".toList rest <;> rfl
  cases e with
  | label l =>
    have hlines : (label l).lines.flatMap (lead newLine) =
        lead newLine ((Markup.text l.markup.tag l.text).pieces.map Piece.reflow) ++ [] := rfl
    rw [hlines, List.append_nil]
    exact contents?_text l.markup.tag l.text rest
  | line l => exact hnone (fun n hn => by rw [l.name_markup hn]; decide) rfl
  | bar | marker | wedge | rule | swatch =>
    refine hnone (fun n hn => ?_) rfl
    obtain rfl := List.mem_singleton.mp hn
    simp [Markup.tag, Bar.markup, Marker.markup, Wedge.markup, Rule.markup, Swatch.markup]

theorem captions?_captioned {tag : Tag} {caption : String} (hnames : tag.names ⊆ names)
    (hcount : tag.count m = 1) (rest : List Piece) :
    captions? m (lead newLine ((Markup.captioned tag caption).pieces.map Piece.reflow) ++ rest) =
      (captions? m rest).map (written caption :: ·) := by
  have hpieces : lead newLine ((Markup.captioned tag caption).pieces.map Piece.reflow) =
      ⟨newLine ++ Text.reflow [], (tag.read .opening).reflow⟩ ::
        [⟨Text.reflow newLine, (titleTag.read .opening).reflow⟩,
          ⟨written caption, titleTag.endTag.reflow⟩, ⟨Text.reflow ['\n'], tag.endTag.reflow⟩] := by
    simp only [Markup.pieces, List.map_cons, List.map_nil, Piece.reflow, lead, written]
  have hfirst : (tag.read .opening).reflow.count m = 1 :=
    (ReadTag.count_reflow_read hnames m .opening (by decide)).trans hcount
  have htally :
      tally m (lead newLine ((Markup.captioned tag caption).pieces.map Piece.reflow)) = 1 := by
    rw [tally_lead, tally_markup (n := .captioned tag caption) hnames]
    exact hcount
  rw [hpieces] at htally ⊢
  have hrest : tally m [⟨Text.reflow newLine, (titleTag.read .opening).reflow⟩,
      ⟨written caption, titleTag.endTag.reflow⟩, ⟨Text.reflow ['\n'], tag.endTag.reflow⟩] = 0 := by
    rw [tally_cons] at htally
    dsimp only at htally
    omega
  rw [List.cons_append, captions?, hfirst, if_pos Nat.one_pos, captions?_append hrest]
  have hcaption : captionOf? ([⟨Text.reflow newLine, (titleTag.read .opening).reflow⟩,
      ⟨written caption, titleTag.endTag.reflow⟩, ⟨Text.reflow ['\n'], tag.endTag.reflow⟩] ++ rest) =
      some (written caption) := by
    have hopen : (titleTag.read .opening).reflow = ⟨.opening, "title".toList, []⟩ := rfl
    have hend : titleTag.endTag.reflow = ⟨.closing, "title".toList, []⟩ := rfl
    rw [List.cons_append, captionOf?, if_pos hopen, List.cons_append, contentOf?, if_pos hend]
  rw [hcaption]
  cases captions? m rest <;> rfl

theorem Element.markup_of_caption? {e : Element} {caption : String}
    (h : e.caption? m = some caption) :
    ∃ tag, e.markup = [.captioned tag caption] ∧ e.marks.count m = 1 := by
  unfold caption? at h
  split at h
  · cases h
    exact ⟨_, rfl, rfl⟩
  · cases h
    exact ⟨_, rfl, rfl⟩
  · cases h

theorem Element.count_marks_of_caption?_eq_none (hm : m = .bar ∨ m = .slice) {e : Element}
    (h : e.caption? m = none) : e.marks.count m = 0 := by
  rw [List.count_eq_zero]
  intro hmem
  cases e with
  | bar | wedge =>
    obtain rfl := List.mem_singleton.mp hmem
    cases h
  | line l =>
    simp only [marks] at hmem
    rcases hm with rfl | rfl <;> grind
  | rule r =>
    simp only [marks] at hmem
    rcases hm with rfl | rfl <;> grind
  | marker | swatch | label =>
    obtain rfl := List.mem_singleton.mp hmem
    rcases hm with hm | hm <;> cases hm

theorem Element.captions?_lines (hm : m = .bar ∨ m = .slice) (e : Element) (rest : List Piece) :
    captions? m (e.lines.flatMap (lead newLine) ++ rest) =
      (captions? m rest).map ((e.caption? m).toList.map written ++ ·) := by
  cases hcaption : e.caption? m with
  | none =>
    have hmarks := count_marks_of_caption?_eq_none hm hcaption
    rw [captions?_append ((tally_element e m).trans hmarks)]
    cases captions? m rest <;> rfl
  | some caption =>
    obtain ⟨tag, hmarkup, hmarks⟩ := markup_of_caption? hcaption
    have hnames : tag.names ⊆ names := e.names_subset (.captioned tag caption) (by simp [hmarkup])
    have hcount : tag.count m = 1 := by
      rw [← hmarks, ← e.sum_count_markup m, hmarkup]
      rfl
    rw [lines, hmarkup, List.map_singleton, List.flatMap_singleton,
      captions?_captioned hnames hcount]
    rfl

/-! ### Texts of documents -/

namespace Document
variable {d : Document}

/-- What reads some texts of an element, one element after the other, and reads nothing off the
frame, reads these texts of all elements. -/
theorem read_pieces {f : List Piece → Option (List (List Char))} {g : Element → Option String}
    (helement : ∀ (e : Element) (rest : List Piece), f (e.lines.flatMap (lead newLine) ++ rest) =
      (f rest).map ((g e).toList.map written ++ ·))
    (hopening : ∀ rest, f (⟨[], d.rootTag.read .opening⟩ ::
      ((d.frame.map Markup.pieces).flatMap (lead newLine) ++ rest)) = f rest)
    (hclosing : f [⟨['\n'], d.rootTag.endTag⟩] = some []) :
    f d.pieces = some ((d.elements.filterMap g).map written) := by
  have helements (es : List Element) (rest : List Piece) :
      f ((es.flatMap Element.lines).flatMap (lead newLine) ++ rest) =
        (f rest).map ((es.filterMap g).map written ++ ·) := by
    induction es with
    | nil => cases h : f rest <;> simp [h]
    | cons e es ih =>
      rw [List.flatMap_cons, List.flatMap_append, List.append_assoc, helement, ih, Option.map_map]
      congr 1
      funext texts
      cases hg : g e <;> simp [hg]
  have hpieces : d.pieces = ⟨[], d.rootTag.read .opening⟩ ::
      ((d.frame.map Markup.pieces).flatMap (lead newLine) ++
        ((d.elements.flatMap Element.lines).flatMap (lead newLine) ++
          [⟨['\n'], d.rootTag.endTag⟩])) := by
    simp [pieces, lines]
  rw [hpieces, hopening, helements, hclosing, Option.map_some, List.append_nil]

theorem contents?_pieces :
    contents? "text".toList d.pieces = some ((d.elements.filterMap Element.text?).map written) := by
  refine read_pieces Element.contents?_lines (fun rest => ?_) (by simp [contents?, Tag.endTag])
  rw [← List.cons_append]
  refine contents?_append (fun p hp hopen => ?_) rest
  rcases List.mem_cons.mp hp with rfl | hp
  · exact absurd hopen.2 (by simp [Tag.read, rootTag])
  · obtain ⟨line, hline, hp⟩ := List.mem_flatMap.mp hp
    obtain ⟨n, hn, rfl⟩ := List.mem_map.mp hline
    obtain ⟨q, hq, htag⟩ := exists_tag_of_mem_lead hp
    rw [← htag] at hopen
    have hname : n.tag.name ≠ "text" := by
      obtain ⟨name, hname, content, rfl⟩ | ⟨color, rfl⟩ := cases_of_mem_frame hn
      · rcases hname with rfl | rfl <;> simp [Markup.tag]
      · simp [Markup.tag, backgroundTag]
    exact Markup.name_ne_text hname hq hopen.2

theorem captions?_pieces (hm : m = .bar ∨ m = .slice) :
    captions? m d.pieces = some ((d.elements.filterMap (Element.caption? m)).map written) := by
  refine read_pieces (Element.captions?_lines hm) (fun rest => ?_) ?_
  · rw [← List.cons_append]
    refine captions?_append ?_ rest
    rw [tally_cons, tally_frame, count_rootTag]
  · rw [captions?, ReadTag.count_endTag, if_neg (by decide), captions?]

end Document
end Svg
end ChartText
