import Mathlib.Algebra.Order.Ring.Nat
import ChartText.Proofs.Svg.Document
import ChartText.Proofs.Text.Occurrences

/-! # The marks of a drawing

A mark can be seen in the text of a drawing: a class, the dashes of a rule, or the tag of a label
stands there. In a text that is made of pieces, whatever else is in it, these stand where a tag has
them and nowhere else (`occurrences_flatMap_write`), so the text of a document shows the marks of
its elements (`Document.occurrences_write`). -/

namespace ChartText.Svg

inductive Mark
  | bar
  | line
  | point
  | swatch
  | area
  | slice
  | dash
  | label
deriving Repr, DecidableEq

/-- The value of an attribute that is a mark has the characters of names, and commas. -/
def isMarkValue (v : List Char) : Bool :=
  v.all fun c => isNameChar c || c == ','

theorem not_mem_of_isMarkValue {v : List Char} (h : isMarkValue v = true) {c : Char}
    (hc : (isNameChar c || c == ',') = false) : c ∉ v := by
  intro hmem
  rw [List.all_eq_true.mp h c hmem] at hc
  cases hc

namespace Mark

/-- What stands in the text of a drawing for a mark. -/
def text : Mark → String
  | bar => "class=\"pv-bar\""
  | line => "class=\"pv-line\""
  | point => "class=\"pv-point\""
  | swatch => "class=\"pv-swatch\""
  | area => "class=\"pv-area\""
  | slice => "class=\"pv-slice\""
  | dash => "stroke-dasharray=\"3,3\""
  | label => "<text "

/-- The attribute that a mark is. Labels are told by their tag. -/
def attribute? : Mark → Option (String × String)
  | bar => some ("class", "pv-bar")
  | line => some ("class", "pv-line")
  | point => some ("class", "pv-point")
  | swatch => some ("class", "pv-swatch")
  | area => some ("class", "pv-area")
  | slice => some ("class", "pv-slice")
  | dash => some ("stroke-dasharray", "3,3")
  | label => none

/-- How a mark that is an attribute is written. -/
structure IsAttribute (m : Mark) (name value : String) : Prop where
  text : m.text.toList = Text.quoted name.toList value.toList
  known : name = "class" ∨ name = "stroke-dasharray"
  isName : isName name.toList = true
  isValue : isMarkValue value.toList = true
  /-- The value is written as it is. -/
  kept : Text.reflow (Value.text value).write.toList = value.toList

theorem isAttribute {m : Mark} {name value : String} (h : m.attribute? = some (name, value)) :
    m.IsAttribute name value := by
  cases m with
  | label => cases h
  | bar | line | point | swatch | area | slice =>
    cases h
    exact ⟨by decide, .inl rfl, by decide, by decide, by decide⟩
  | dash =>
    cases h
    exact ⟨by decide, .inr rfl, by decide, by decide, by decide⟩

end Mark

/-! ### Tags that are marks -/

/-- How often a mark shows in a tag. -/
def ReadTag.count (m : Mark) (t : ReadTag) : Nat :=
  match m.attribute? with
  | some (name, value) =>
    t.attributes.countP fun a => decide (name.toList <:+ a.1 ∧ value.toList = a.2)
  | none => if t.kind ≠ .closing ∧ t.name = "text".toList ∧ t.attributes ≠ [] then 1 else 0

/-- How often a mark shows in the tags of some pieces. -/
def tally (m : Mark) (pieces : List Piece) : Nat :=
  (pieces.map fun p => p.tag.count m).sum

section
variable {k v : List Char}

theorem notMem_quoted (hk : isName k = true) (hv : isMarkValue v = true) {c : Char}
    (hc : c = ' ' ∨ c = '<' ∨ c = '>' ∨ c = '/') : c ∉ Text.quoted k v := by
  have hother : isNameChar c = false ∧ (isNameChar c || c == ',') = false ∧ c ≠ '=' ∧ c ≠ '"' := by
    rcases hc with rfl | rfl | rfl | rfl <;> decide
  obtain ⟨hname, hvalue, hsign⟩ := hother
  simp [Text.quoted, not_mem_of_isName hk hname, not_mem_of_isMarkValue hv hvalue, hsign]

theorem occurrences_attributes (hk : isName k = true)
    (hv : isMarkValue v = true) {attributes : List (List Char × List Char)}
    (hnames : ∀ a ∈ attributes, isName a.1 = true) (hvalues : ∀ a ∈ attributes, IsUnmarked a.2)
    (s : List Char) :
    Text.occurrences (Text.quoted k v) (s ++ attributes.flatMap writeAttribute) =
      Text.occurrences (Text.quoted k v) s +
        attributes.countP fun a => decide (k <:+ a.1 ∧ v = a.2) := by
  have hne : Text.quoted k v ≠ [] := by simp [Text.quoted]
  induction attributes generalizing s with
  | nil => simp
  | cons a attributes ih =>
    obtain ⟨name, value⟩ := a
    have hname : isName name = true := hnames _ List.mem_cons_self
    have hvalue : '"' ∉ value := fun hmem => (hvalues _ List.mem_cons_self _ hmem).2.2.1 rfl
    have htext : s ++ ((name, value) :: attributes).flatMap writeAttribute =
        s ++ ' ' :: (Text.quoted name value ++ attributes.flatMap writeAttribute) := by
      simp [writeAttribute, Text.quoted]
    have hspace := notMem_quoted hk hv (c := ' ') (.inl rfl)
    have hquoted : Text.occurrences (Text.quoted k v) (Text.quoted name value) =
        if k <:+ name ∧ v = value then 1 else 0 :=
      Text.occurrences_quoted
        ⟨not_mem_of_isName hk (by decide), not_mem_of_isName hk (by decide)⟩
        (not_mem_of_isName hname (by decide)) (not_mem_of_isMarkValue hv (by decide)) hvalue
    rw [htext, Text.occurrences_append_cons hne hspace,
      ih (fun b hb => hnames b (List.mem_cons_of_mem _ hb))
        (fun b hb => hvalues b (List.mem_cons_of_mem _ hb)),
      hquoted, List.countP_cons]
    simp only [decide_eq_true_eq]
    omega

theorem occurrences_body (hk : isName k = true) (hv : isMarkValue v = true) {t : ReadTag}
    (h : t.WellFormed) :
    Text.occurrences (Text.quoted k v) t.body =
      t.attributes.countP fun a => decide (k <:+ a.1 ∧ v = a.2) := by
  have hne : Text.quoted k v ≠ [] := by simp [Text.quoted]
  have hquote : '"' ∈ Text.quoted k v := by simp [Text.quoted]
  have hname : Text.occurrences (Text.quoted k v) t.name = 0 :=
    Text.occurrences_eq_zero_of_notMem hquote (not_mem_of_isName h.name (by decide))
  have hnamed : Text.occurrences (Text.quoted k v) t.named =
      t.attributes.countP fun a => decide (k <:+ a.1 ∧ v = a.2) := by
    rw [ReadTag.named, occurrences_attributes hk hv h.names h.values, hname, Nat.zero_add]
  unfold ReadTag.body
  cases hkind : t.kind with
  | opening => exact hnamed
  | closing =>
    have hslash : '"' ∉ '/' :: t.name := by
      simp [not_mem_of_isName h.name (c := '"') (by decide)]
    rw [h.closing hkind, List.countP_nil]
    exact Text.occurrences_eq_zero_of_notMem hquote hslash
  | empty =>
    have hslash := notMem_quoted hk hv (c := '/') (.inr (.inr (.inr rfl)))
    show Text.occurrences (Text.quoted k v) (t.named ++ '/' :: []) = _
    rw [Text.occurrences_append_cons hne hslash, hnamed]
    rfl

end

theorem isPrefix_body_iff {t : ReadTag} (h : t.WellFormed) {name : List Char}
    (hname : isName name = true) :
    name ++ [' '] <+: t.body ↔ t.kind ≠ .closing ∧ t.name = name ∧ t.attributes ≠ [] := by
  have hspace : ∀ {s : List Char}, isName s = true → ' ' ∉ s := fun hs =>
    not_mem_of_isName hs (by decide)
  have hnamed : ∀ s : List Char, ' ' ∉ s →
      (name ++ [' '] <+: t.named ++ s ↔ t.name = name ∧ t.attributes ≠ []) := by
    intro s hs
    unfold ReadTag.named
    cases t.attributes with
    | nil =>
      have hno : ¬ name ++ [' '] <+: t.name ++ s := fun hbegins => by
        have hmem : ' ' ∈ t.name ++ s := hbegins.subset (by simp)
        exact (List.mem_append.mp hmem).elim (hspace h.name) hs
      simp [hno]
    | cons a attributes =>
      have htext : t.name ++ (a :: attributes).flatMap writeAttribute ++ s =
          t.name ++ ' ' :: (a.1 ++ '=' :: '"' :: a.2 ++ ['"'] ++
            attributes.flatMap writeAttribute ++ s) := by
        simp [writeAttribute]
      rw [htext, Text.append_cons_isPrefix_iff (hspace hname) (hspace h.name)]
      simp [eq_comm]
  unfold ReadTag.body
  cases t.kind with
  | opening =>
    have := hnamed [] List.not_mem_nil
    rw [List.append_nil] at this
    simp [this]
  | closing =>
    have hno : ¬ name ++ [' '] <+: '/' :: t.name := fun hbegins => by
      have hmem : ' ' ∈ '/' :: t.name := hbegins.subset (by simp)
      exact (List.mem_cons.mp hmem).elim (by decide) (hspace h.name)
    simp [hno]
  | empty =>
    have := hnamed ['/'] (by decide)
    simp [this]

/-- A mark shows in the text of a piece as often as in its tag, whatever stands in front of it. -/
theorem occurrences_piece (m : Mark) {p : Piece} (h : p.WellFormed) :
    Text.occurrences m.text.toList (p.before ++ '<' :: p.tag.body) = p.tag.count m := by
  unfold ReadTag.count
  cases hm : m.attribute? with
  | none =>
    obtain rfl : m = .label := by
      cases m <;> first | rfl | cases hm
    have htext : Mark.label.text.toList = '<' :: ("text".toList ++ [' ']) := by decide
    have hbefore : '<' ∉ p.before := fun hmem => (h.before _ hmem).1 rfl
    have hbody := ReadTag.notMem_body h.tag (.inl rfl)
    rw [htext, Text.occurrences_bracket hbefore hbody]
    exact if_congr (isPrefix_body_iff h.tag (by decide)) rfl rfl
  | some pair =>
    obtain ⟨name, value⟩ := pair
    obtain ⟨htext, -, hname, hvalue, -⟩ := Mark.isAttribute hm
    have hne : Text.quoted name.toList value.toList ≠ [] := by simp [Text.quoted]
    have hbracket := notMem_quoted hname hvalue (c := '<') (.inr (.inl rfl))
    have hbefore : Text.occurrences (Text.quoted name.toList value.toList) p.before = 0 := by
      refine Text.occurrences_eq_zero_of_notMem (d := '"') (by simp [Text.quoted]) fun hmem => ?_
      exact (h.before _ hmem).2.2.1 rfl
    rw [htext, Text.occurrences_append_cons hne hbracket, hbefore,
      occurrences_body hname hvalue h.tag, Nat.zero_add]

/-- No text can add to the marks of the tags around it. -/
theorem occurrences_flatMap_write (m : Mark) {pieces : List Piece}
    (h : ∀ p ∈ pieces, p.WellFormed) :
    Text.occurrences m.text.toList (pieces.flatMap Piece.write) = tally m pieces := by
  have hpattern : m.text.toList ≠ [] ∧ '>' ∉ m.text.toList := by
    cases m <;> decide
  induction pieces with
  | nil => rfl
  | cons p pieces ih =>
    have htext : (p :: pieces).flatMap Piece.write =
        (p.before ++ '<' :: p.tag.body) ++ '>' :: pieces.flatMap Piece.write := by
      simp [Piece.write]
    rw [htext, Text.occurrences_append_cons hpattern.1 hpattern.2,
      occurrences_piece m (h p List.mem_cons_self), ih fun q hq => h q (List.mem_cons_of_mem p hq)]
    rfl

/-! ### Elements -/

theorem tally_append (m : Mark) (ps qs : List Piece) :
    tally m (ps ++ qs) = tally m ps + tally m qs := by
  unfold tally
  rw [List.map_append, List.sum_append]

theorem tally_lead (m : Mark) (before : List Char) (pieces : List Piece) :
    tally m (lead before pieces) = tally m pieces := by
  cases pieces <;> rfl

theorem tally_flatMap_lead (m : Mark) (lines : List (List Piece)) :
    tally m (lines.flatMap (lead newLine)) = (lines.map (tally m)).sum := by
  induction lines with
  | nil => rfl
  | cons line lines ih =>
    rw [List.flatMap_cons, tally_append, tally_lead, ih, List.map_cons, List.sum_cons]

/-- How often a mark shows in a tag that is indented again. -/
def Tag.count (m : Mark) (t : Tag) : Nat :=
  match m.attribute? with
  | some (name, value) => t.attributes.countP fun a =>
      decide (a.1 = name ∧ Text.reflow a.2.write.toList = value.toList)
  | none => if t.name = "text" ∧ t.attributes ≠ [] then 1 else 0

/-- No name of a drawing ends in that of a mark but this name itself. -/
theorem isSuffix_iff_of_attribute? {m : Mark} {name value : String}
    (h : m.attribute? = some (name, value)) {other : String} (hother : other ∈ names) :
    name.toList <:+ other.toList ↔ other = name := by
  have hnames : ∀ n ∈ ["class", "stroke-dasharray"], ∀ other ∈ names,
      n.toList <:+ other.toList → other = n := by
    decide
  have hname : name ∈ ["class", "stroke-dasharray"] := by
    simpa using (Mark.isAttribute h).known
  exact ⟨hnames name hname other hother, fun heq => heq ▸ List.suffix_refl _⟩

theorem ReadTag.count_reflow_read {t : Tag} (h : t.names ⊆ names) (m : Mark) (kind : TagKind)
    (hk : kind ≠ .closing) : (t.read kind).reflow.count m = t.count m := by
  unfold ReadTag.count Tag.count
  cases hm : m.attribute? with
  | none =>
    have hlabel : (kind ≠ .closing ∧ t.name.toList = "text".toList ∧
        ((t.read kind).reflow).attributes ≠ []) ↔ t.name = "text" ∧ t.attributes ≠ [] := by
      rw [String.toList_inj]
      simp only [reflow, Tag.read, ne_eq, List.map_eq_nil_iff]
      exact and_iff_right hk
    exact if_congr hlabel rfl rfl
  | some pair =>
    obtain ⟨name, value⟩ := pair
    simp only [reflow, Tag.read, List.map_map, List.countP_map]
    refine List.countP_congr fun a ha => ?_
    have hmem : a.1 ∈ names := h (List.mem_cons_of_mem _ (List.mem_map.mpr ⟨a, ha, rfl⟩))
    simp only [Function.comp_apply, decide_eq_true_eq, isSuffix_iff_of_attribute? hm hmem]
    exact and_congr_right fun _ => eq_comm

theorem ReadTag.count_endTag (m : Mark) (t : Tag) : t.endTag.count m = 0 := by
  unfold ReadTag.count
  cases m.attribute? <;> rfl

/-! ### Marks of tags -/

/-- The tag has no mark: it is not a label's, and its attributes have other names. -/
structure Tag.Unmarked (t : Tag) : Prop where
  name : t.name ≠ "text"
  names : ∀ n ∈ t.attributes.map Prod.fst, n ≠ "class" ∧ n ≠ "stroke-dasharray"

theorem Mark.eq_of_attribute? {k m : Mark} (h : k.attribute? = m.attribute?) : k = m := by
  cases k <;> cases m <;> first | rfl | exact absurd h (by decide)

theorem Mark.eq_label {m : Mark} (h : m.attribute? = none) : m = .label :=
  Mark.eq_of_attribute? h

theorem countP_eq_zero_of_names {attributes : List (String × Value)} {m : Mark}
    {name value : String} (hm : m.attribute? = some (name, value))
    (h : ∀ n ∈ attributes.map Prod.fst, n ≠ "class" ∧ n ≠ "stroke-dasharray") :
    (attributes.countP fun a =>
      decide (a.1 = name ∧ Text.reflow a.2.write.toList = value.toList)) = 0 := by
  rw [List.countP_eq_zero]
  intro a ha hmark
  have hother := h a.1 (List.mem_map.mpr ⟨a, ha, rfl⟩)
  have hname : a.1 = name := (of_decide_eq_true hmark).1
  rcases (Mark.isAttribute hm).known with rfl | rfl
  · exact hother.1 hname
  · exact hother.2 hname

namespace Tag
variable {t : Tag}

theorem Unmarked.count_eq_zero (h : t.Unmarked) (m : Mark) : t.count m = 0 := by
  unfold count
  cases hm : m.attribute? with
  | none => exact if_neg fun hlabel => h.name hlabel.1
  | some pair => exact countP_eq_zero_of_names hm h.names

theorem count_of_attribute {k : Mark} {name value : String}
    (hk : k.attribute? = some (name, value)) {before after : List (String × Value)}
    (ht : t.attributes = before ++ (name, .text value) :: after)
    (hrest : Unmarked ⟨t.name, before ++ after⟩) (m : Mark) : t.count m = [k].count m := by
  have hbefore : ∀ n ∈ before.map Prod.fst, n ≠ "class" ∧ n ≠ "stroke-dasharray" := fun n hn =>
    hrest.names n (by rw [List.map_append]; exact List.mem_append_left _ hn)
  have hafter : ∀ n ∈ after.map Prod.fst, n ≠ "class" ∧ n ≠ "stroke-dasharray" := fun n hn =>
    hrest.names n (by rw [List.map_append]; exact List.mem_append_right _ hn)
  rw [List.count_singleton]
  unfold count
  cases hm : m.attribute? with
  | none =>
    obtain rfl := Mark.eq_label hm
    have hne : k ≠ .label := by
      rintro rfl
      cases hk
    rw [if_neg fun hlabel => hrest.name hlabel.1, if_neg (by simpa using hne)]
  | some pair =>
    obtain ⟨name', value'⟩ := pair
    have hiff : (name = name' ∧
        Text.reflow (Value.text value).write.toList = value'.toList) ↔ k = m := by
      rw [(Mark.isAttribute hk).kept, String.toList_inj]
      constructor
      · rintro ⟨rfl, rfl⟩
        exact Mark.eq_of_attribute? (hk.trans hm.symm)
      · rintro rfl
        rw [hk] at hm
        cases hm
        exact ⟨rfl, rfl⟩
    show t.attributes.countP _ = _
    rw [ht, List.countP_append, List.countP_cons, countP_eq_zero_of_names hm hbefore,
      countP_eq_zero_of_names hm hafter]
    simp only [hiff, decide_eq_true_eq, beq_iff_eq, Nat.zero_add]

theorem count_of_label (hname : t.name = "text") (hne : t.attributes ≠ [])
    (h : ∀ n ∈ t.attributes.map Prod.fst, n ≠ "class" ∧ n ≠ "stroke-dasharray") (m : Mark) :
    t.count m = [Mark.label].count m := by
  unfold count
  cases hm : m.attribute? with
  | none =>
    obtain rfl := Mark.eq_label hm
    exact if_pos ⟨hname, hne⟩
  | some pair =>
    have hother : Mark.label ≠ m := by
      rintro rfl
      cases hm
    have hzero : [Mark.label].count m = 0 := by
      rw [List.count_singleton]
      exact if_neg (by simpa using hother)
    rw [hzero]
    exact countP_eq_zero_of_names hm h

end Tag

/-! ### Marks of elements -/

/-- The marks of an element. A line without points is not drawn. -/
def Element.marks : Element → List Mark
  | bar _ => [.bar]
  | line l =>
    if l.points.isEmpty then [] else (if l.baseline.isSome then [.area] else []) ++ [.line]
  | marker _ => [.point]
  | wedge _ => [.slice]
  | rule r => if r.dashed then [.dash] else []
  | swatch _ => [.swatch]
  | label _ => [.label]

theorem Line.count_strokeMarkup (l : Line) (m : Mark) :
    l.strokeMarkup.tag.count m = [Mark.line].count m := by
  refine Tag.count_of_attribute rfl (List.nil_append _).symm ⟨?_, ?_⟩ m
  · simp [Markup.tag, strokeMarkup]
  · simp

theorem Line.count_areaMarkup (l : Line) (first last : Point Float) (baseline : Float) (m : Mark) :
    (l.areaMarkup first last baseline).tag.count m = [Mark.area].count m := by
  refine Tag.count_of_attribute rfl (List.nil_append _).symm ⟨?_, ?_⟩ m
  · simp [Markup.tag, areaMarkup]
  · simp

theorem Line.sum_count_markup (l : Line) (m : Mark) :
    (l.markup.map fun n => n.tag.count m).sum = (Element.line l).marks.count m := by
  have hstroke := l.count_strokeMarkup m
  cases hpoints : l.points with
  | nil =>
    have hmarkup : l.markup = [] := by simp [markup, hpoints]
    have hmarks : (Element.line l).marks = [] := by simp [Element.marks, hpoints]
    rw [hmarkup, hmarks]
    rfl
  | cons first rest =>
    obtain ⟨last, hlast⟩ : ∃ last, l.points.getLast? = some last :=
      ⟨_, List.getLast?_eq_getLast_of_ne_nil (hpoints ▸ List.cons_ne_nil first rest)⟩
    have hfirst : l.points.head? = some first := by rw [hpoints, List.head?_cons]
    cases hbaseline : l.baseline with
    | none =>
      have hmarkup : l.markup = [l.strokeMarkup] := by simp [markup, hfirst, hlast, hbaseline]
      have hmarks : (Element.line l).marks = [.line] := by
        simp [Element.marks, hpoints, hbaseline]
      rw [hmarkup, hmarks, List.map_singleton, List.sum_singleton, hstroke]
    | some baseline =>
      have hmarkup : l.markup = [l.areaMarkup first last baseline, l.strokeMarkup] := by
        simp [markup, hfirst, hlast, hbaseline]
      have hmarks : (Element.line l).marks = [.area] ++ [.line] := by
        simp [Element.marks, hpoints, hbaseline]
      rw [hmarkup, hmarks, List.count_append, ← hstroke,
        ← l.count_areaMarkup first last baseline m]
      simp

theorem Element.sum_count_markup (e : Element) (m : Mark) :
    (e.markup.map fun n => n.tag.count m).sum = e.marks.count m := by
  cases e with
  | line l => exact l.sum_count_markup m
  | bar b =>
    refine Tag.count_of_attribute (k := .bar) rfl (List.nil_append _).symm ⟨?_, ?_⟩ m
    · simp [Markup.tag, Bar.markup]
    · simp
  | marker p =>
    refine Tag.count_of_attribute (k := .point) rfl (List.nil_append _).symm ⟨?_, ?_⟩ m
    · simp [Markup.tag, Marker.markup]
    · simp
  | swatch s =>
    refine Tag.count_of_attribute (k := .swatch) rfl (List.nil_append _).symm ⟨?_, ?_⟩ m
    · simp [Markup.tag, Swatch.markup]
    · simp
  | wedge w =>
    refine Tag.count_of_attribute (k := .slice) rfl (List.nil_append _).symm ⟨?_, ?_⟩ m
    · simp [Markup.tag, Wedge.markup]
    · cases w.isRing <;> simp
  | rule r =>
    obtain ⟨start, stop, stroke, dashed⟩ := r
    cases dashed with
    | false =>
      refine Tag.Unmarked.count_eq_zero ⟨?_, ?_⟩ m
      · simp [Markup.tag, Rule.markup]
      · simp [Markup.tag, Rule.markup]
    | true =>
      refine Tag.count_of_attribute (k := .dash) rfl rfl ⟨?_, ?_⟩ m
      · simp [Markup.tag, Rule.markup]
      · simp
  | label l =>
    refine Tag.count_of_label rfl (by simp [Markup.tag, Label.markup]) ?_ m
    cases hb : l.bold <;> cases hc : l.centered <;> cases hr : l.rotation <;>
      simp [Markup.tag, Label.markup, hb, hc, hr]

/-! ### Marks of documents -/

theorem tally_markup {n : Markup} (h : n.tag.names ⊆ names) (m : Mark) :
    tally m (n.pieces.map Piece.reflow) = n.tag.count m := by
  have hend : ∀ t : Tag, t.endTag.reflow.count m = 0 := fun t => ReadTag.count_endTag m t
  have htitle : (titleTag.read .opening).reflow.count m = 0 := by
    rw [ReadTag.count_reflow_read (by simp [Tag.names, titleTag, names]) m .opening (by decide)]
    exact Tag.Unmarked.count_eq_zero ⟨by simp [titleTag], by simp [titleTag]⟩ m
  cases n with
  | empty tag =>
    have hread := ReadTag.count_reflow_read (t := tag) h m .empty (by decide)
    simpa [tally, Markup.tag, Markup.pieces, Piece.reflow] using hread
  | text tag content =>
    have hread := ReadTag.count_reflow_read (t := tag) h m .opening (by decide)
    simpa [tally, Markup.tag, Markup.pieces, Piece.reflow, hend] using hread
  | captioned tag caption =>
    have hread := ReadTag.count_reflow_read (t := tag) h m .opening (by decide)
    simpa [tally, Markup.tag, Markup.pieces, Piece.reflow, hend, htitle] using hread

theorem tally_element (e : Element) (m : Mark) :
    tally m (e.lines.flatMap (lead newLine)) = e.marks.count m := by
  have hlines : e.lines.map (tally m) = e.markup.map fun n => n.tag.count m := by
    rw [Element.lines, List.map_map]
    exact List.map_congr_left fun n hn => tally_markup (e.names_subset n hn) m
  rw [tally_flatMap_lead, hlines, e.sum_count_markup m]

theorem ReadTag.count_read_of_unmarked {t : Tag} (hnames : t.names ⊆ names) (h : t.Unmarked)
    (m : Mark) (kind : TagKind) : (t.read kind).count m = 0 := by
  unfold ReadTag.count
  cases hm : m.attribute? with
  | none =>
    refine if_neg fun hlabel => h.name ?_
    exact String.toList_inj.mp hlabel.2.1
  | some pair =>
    obtain ⟨name, value⟩ := pair
    show (t.read kind).attributes.countP _ = 0
    rw [List.countP_eq_zero]
    intro a ha hmark
    obtain ⟨b, hb, rfl⟩ := List.mem_map.mp ha
    have hfst : b.1 ∈ t.attributes.map Prod.fst := List.mem_map.mpr ⟨b, hb, rfl⟩
    have hother := h.names b.1 hfst
    have hsuffix : name.toList <:+ b.1.toList := (of_decide_eq_true hmark).1
    have hname : b.1 = name :=
      (isSuffix_iff_of_attribute? hm (hnames (List.mem_cons_of_mem _ hfst))).mp hsuffix
    rcases (Mark.isAttribute hm).known with rfl | rfl
    · exact hother.1 hname
    · exact hother.2 hname

namespace Document
variable {d : Document}

theorem tally_frame (m : Mark) :
    tally m ((d.frame.map Markup.pieces).flatMap (lead newLine)) = 0 := by
  have hframe : ∀ n ∈ d.frame, tally m n.pieces = 0 := by
    intro n hn
    obtain ⟨name, hname, content, rfl⟩ | ⟨color, rfl⟩ := cases_of_mem_frame hn
    · have hread : (Tag.read ⟨name, []⟩ .opening).count m = 0 := by
        refine ReadTag.count_read_of_unmarked ?_ ⟨?_, by simp⟩ m .opening
        · rcases hname with rfl | rfl <;> simp [Tag.names, names]
        · rcases hname with rfl | rfl <;> simp
      simp [tally, Markup.pieces, hread, ReadTag.count_endTag]
    · have hread : ((backgroundTag color).read .empty).count m = 0 :=
        ReadTag.count_read_of_unmarked (by simp [Tag.names, backgroundTag, names])
          ⟨by simp [backgroundTag], by simp [backgroundTag]⟩ m .empty
      simpa [tally, Markup.pieces] using hread
  have hzero : d.frame.map (tally m ∘ Markup.pieces) = d.frame.map fun _ => 0 :=
    List.map_congr_left hframe
  rw [tally_flatMap_lead, List.map_map, hzero]
  simp

theorem count_rootTag (m : Mark) : (d.rootTag.read .opening).count m = 0 := by
  refine ReadTag.count_read_of_unmarked ?_ ⟨?_, ?_⟩ m .opening
  · simp [rootTag, Tag.names, names]
  · simp [rootTag]
  · simp [rootTag]

theorem tally_pieces (m : Mark) :
    tally m d.pieces = (d.elements.flatMap Element.marks).count m := by
  have helements : ∀ es : List Element,
      tally m ((es.flatMap Element.lines).flatMap (lead newLine)) =
        (es.flatMap Element.marks).count m := by
    intro es
    induction es with
    | nil => rfl
    | cons e es ih =>
      rw [List.flatMap_cons, List.flatMap_append, tally_append, tally_element, ih,
        List.flatMap_cons, List.count_append]
  have hlines : tally m (d.lines.flatMap (lead newLine)) =
      (d.elements.flatMap Element.marks).count m := by
    rw [lines, List.flatMap_append, tally_append, tally_frame, helements, Nat.zero_add]
  have hpieces : d.pieces = [⟨[], d.rootTag.read .opening⟩] ++ d.lines.flatMap (lead newLine) ++
      [⟨['\n'], d.rootTag.endTag⟩] := rfl
  rw [hpieces, tally_append, tally_append, hlines]
  simp [tally, count_rootTag, ReadTag.count_endTag]

/-- The marks in the text of a document are those of its elements. -/
theorem occurrences_write (h : ∀ e ∈ d.elements, e.IsPlain) (m : Mark) :
    Text.occurrences m.text.toList d.write.toList = (d.elements.flatMap Element.marks).count m := by
  rw [toList_write h, occurrences_flatMap_write m (wellFormed_pieces h), tally_pieces]

end Document
end ChartText.Svg
