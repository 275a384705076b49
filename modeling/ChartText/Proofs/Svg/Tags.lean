import ChartText.Proofs.Lists
import ChartText.Text.Lines

/-! # Reading markup

`read?` takes a text apart at the characters that open and close tags, and every tag at the double
quotes around its attribute values. It knows nothing of how a drawing is written. What is written
from pieces whose texts contain none of these characters is read as these pieces
(`read?_flatMap_write`), so whatever stands in such a text stays a text. -/

namespace ChartText.Svg

inductive TagKind
  | opening
  | closing
  /-- A tag of an element without contents. -/
  | empty
deriving Repr, DecidableEq

/-- A tag as it is read. -/
structure ReadTag where
  kind : TagKind
  name : List Char
  attributes : List (List Char × List Char)
deriving Repr, DecidableEq

/-- A tag with the text in front of it. -/
structure Piece where
  before : List Char
  tag : ReadTag
deriving Repr, DecidableEq

/-! ### Reading -/

def isNameChar (c : Char) : Bool :=
  c.isAlphanum || c == '-'

/-- What names a tag or an attribute. -/
def isName (s : List Char) : Bool :=
  !s.isEmpty && s.all isNameChar

/-- The name in what stands before a quoted value: a space, the name and an equals sign. -/
def attributeName? : List Char → Option (List Char)
  | ' ' :: s =>
    match Text.splitOnce? (· == '=') s with
    | some (name, []) => if isName name then some name else none
    | _ => none
  | _ => none

/-- The attributes in a text that has been cut at its double quotes: what comes before a value and
the value in turn, and nothing after the last value. -/
def attributes? : List (List Char) → Option (List (List Char × List Char))
  | [] => none
  | [rest] => if rest.isEmpty then some [] else none
  | key :: value :: parts =>
    match attributeName? key, attributes? parts with
    | some name, some others => some ((name, value) :: others)
    | _, _ => none

/-- The name and the attributes in the text of a tag. -/
def named? (kind : TagKind) (s : List Char) : Option ReadTag :=
  let name := s.takeWhile isNameChar
  if isName name then
    (attributes? (Text.cutAt (· == '"') (s.dropWhile isNameChar))).map fun attributes =>
      { kind, name, attributes }
  else none

/-- The tag with a given text between its angle brackets. -/
def ReadTag.ofBody? (s : List Char) : Option ReadTag :=
  if s.head? = some '/' then
    if isName s.tail then some { kind := .closing, name := s.tail, attributes := [] } else none
  else if s.getLast? = some '/' then named? .empty s.dropLast
  else named? .opening s

def Piece.ofChars? (s : List Char) : Option Piece := do
  let (before, body) ← Text.splitOnce? (· == '<') s
  let tag ← ReadTag.ofBody? body
  return { before, tag }

/-- The tags of a text that ends in a tag, each with the text in front of it. -/
def read? (s : List Char) : Option (List Piece) :=
  let parts := Text.cutAt (· == '>') s
  if (parts.getLastD []).isEmpty then parts.dropLast.mapM Piece.ofChars? else none

/-! ### Writing -/

def writeAttribute (a : List Char × List Char) : List Char :=
  ' ' :: a.1 ++ '=' :: '"' :: a.2 ++ ['"']

namespace ReadTag

def named (t : ReadTag) : List Char :=
  t.name ++ t.attributes.flatMap writeAttribute

def body (t : ReadTag) : List Char :=
  match t.kind with
  | .opening => t.named
  | .closing => '/' :: t.name
  | .empty => t.named ++ ['/']

end ReadTag

def Piece.write (p : Piece) : List Char :=
  p.before ++ '<' :: p.tag.body ++ ['>']

/-! ### Texts between markup -/

/-- No character of the text opens or closes a tag or an attribute value. -/
def IsUnmarked (s : List Char) : Prop :=
  ∀ c ∈ s, c ≠ '<' ∧ c ≠ '>' ∧ c ≠ '"' ∧ c ≠ '\''

-- given by hand, so that no instance that goes through all characters is found
instance decidableIsUnmarked (s : List Char) : Decidable (IsUnmarked s) :=
  List.decidableBAll _ s

structure ReadTag.WellFormed (t : ReadTag) : Prop where
  name : isName t.name = true
  names : ∀ a ∈ t.attributes, isName a.1 = true
  values : ∀ a ∈ t.attributes, IsUnmarked a.2
  /-- Closing tags have a name and nothing else. -/
  closing : t.kind = .closing → t.attributes = []

structure Piece.WellFormed (p : Piece) : Prop where
  before : IsUnmarked p.before
  tag : p.tag.WellFormed

-- The anonymous constructor would compare `Piece.before ⟨before, tag⟩` with `before` by evaluation.
theorem Piece.wellFormed_mk {before : List Char} {tag : ReadTag} (hbefore : IsUnmarked before)
    (htag : tag.WellFormed) : Piece.WellFormed ⟨before, tag⟩ :=
  ⟨hbefore, htag⟩

theorem IsUnmarked.append {s t : List Char} (hs : IsUnmarked s) (ht : IsUnmarked t) :
    IsUnmarked (s ++ t) := by
  intro c hc
  exact (List.mem_append.mp hc).elim (hs c) (ht c)

theorem isUnmarked_nil : IsUnmarked [] := fun _ hc => absurd hc List.not_mem_nil

theorem not_mem_of_isName {s : List Char} (h : isName s = true) {c : Char}
    (hc : isNameChar c = false) : c ∉ s := by
  intro hmem
  simp only [isName, Bool.and_eq_true, List.all_eq_true] at h
  rw [h.2 c hmem] at hc
  cases hc

theorem isNameChar_of_isName {s : List Char} (h : isName s = true) :
    ∀ c ∈ s, isNameChar c = true := by
  simp only [isName, Bool.and_eq_true, List.all_eq_true] at h
  exact h.2

/-! ### Reading what was written -/

theorem attributeName?_of_isName {name : List Char} (h : isName name = true) :
    attributeName? (' ' :: name ++ ['=']) = some name := by
  have hne : ∀ c ∈ name, (c == '=') = false := fun c hc =>
    beq_false_of_ne (ne_of_mem_of_not_mem hc (not_mem_of_isName h (by decide)))
  have hsplit : Text.splitOnce? (· == '=') (name ++ ['=']) = some (name, []) :=
    Text.splitOnce?_append [] hne rfl
  simp [attributeName?, hsplit, h]

theorem attributes?_flatMap_writeAttribute {attributes : List (List Char × List Char)}
    (hnames : ∀ a ∈ attributes, isName a.1 = true)
    (hvalues : ∀ a ∈ attributes, IsUnmarked a.2) :
    attributes? (Text.cutAt (· == '"') (attributes.flatMap writeAttribute)) = some attributes := by
  induction attributes with
  | nil => rfl
  | cons a attributes ih =>
    obtain ⟨name, value⟩ := a
    have hname : isName name = true := hnames _ List.mem_cons_self
    have hkey : ∀ c ∈ ' ' :: name ++ ['='], (c == '"') = false := by
      intro c hc
      have hquote : '"' ∉ name := not_mem_of_isName hname (by decide)
      refine beq_false_of_ne (ne_of_mem_of_not_mem hc ?_)
      simp [hquote]
    have hvalue : ∀ c ∈ value, (c == '"') = false := fun c hc =>
      beq_false_of_ne (hvalues _ List.mem_cons_self c hc).2.2.1
    have htext : ((name, value) :: attributes).flatMap writeAttribute =
        (' ' :: name ++ ['=']) ++ '"' :: (value ++ '"' :: attributes.flatMap writeAttribute) := by
      simp [writeAttribute]
    have ih := ih (fun b hb => hnames b (List.mem_cons_of_mem _ hb))
      fun b hb => hvalues b (List.mem_cons_of_mem _ hb)
    rw [htext, Text.cutAt_append_cons hkey rfl, Text.cutAt_append_cons hvalue rfl, attributes?,
      attributeName?_of_isName hname, ih]

namespace ReadTag
variable {t : ReadTag}

theorem named?_named (h : t.WellFormed) : named? t.kind t.named = some t := by
  have hname := isNameChar_of_isName h.name
  have hrest : (t.attributes.flatMap writeAttribute).takeWhile isNameChar = [] ∧
      (t.attributes.flatMap writeAttribute).dropWhile isNameChar =
        t.attributes.flatMap writeAttribute := by
    cases t.attributes with
    | nil => exact ⟨rfl, rfl⟩
    | cons a rest => exact ⟨rfl, rfl⟩
  have htake : t.named.takeWhile isNameChar = t.name := by
    rw [named, List.takeWhile_append_of_pos hname, hrest.1, List.append_nil]
  have hdrop : t.named.dropWhile isNameChar = t.attributes.flatMap writeAttribute := by
    rw [named, List.dropWhile_append_of_pos hname, hrest.2]
  unfold named?
  simp only [htake, hdrop, h.name, if_true,
    attributes?_flatMap_writeAttribute h.names h.values, Option.map_some]

theorem head?_named_ne (h : t.WellFormed) (s : List Char) : (t.named ++ s).head? ≠ some '/' := by
  have hne : t.name ≠ [] := by
    rintro hnil
    have := h.name
    rw [hnil] at this
    cases this
  obtain ⟨c, rest, hc⟩ := List.exists_cons_of_ne_nil hne
  have hslash : '/' ∉ t.name := not_mem_of_isName h.name (by decide)
  intro hhead
  rw [named, hc] at hhead
  obtain rfl : c = '/' := by simpa using hhead
  exact hslash (hc ▸ List.mem_cons_self)

theorem getLast?_named_ne (h : t.WellFormed) : t.named.getLast? ≠ some '/' := by
  intro hlast
  unfold named at hlast
  rcases t.attributes.eq_nil_or_concat with hnil | ⟨rest, a, hconcat⟩
  · rw [hnil, List.flatMap_nil, List.append_nil] at hlast
    exact not_mem_of_isName h.name (by decide) (List.mem_of_getLast? hlast)
  · rw [hconcat, List.concat_eq_append, List.flatMap_append, List.flatMap_singleton,
      writeAttribute, ← List.append_assoc, ← List.append_assoc, List.getLast?_concat] at hlast
    cases hlast

theorem ofBody?_body (h : t.WellFormed) : ofBody? t.body = some t := by
  have hnamed := named?_named h
  unfold ofBody? body
  cases hk : t.kind with
  | opening =>
    rw [hk] at hnamed
    have hhead := head?_named_ne h []
    rw [List.append_nil] at hhead
    simp only [hhead, getLast?_named_ne h, if_false, hnamed]
  | closing =>
    obtain ⟨kind, name, attributes⟩ := t
    obtain rfl : kind = .closing := hk
    obtain rfl : attributes = [] := h.closing rfl
    have hname : isName name = true := h.name
    simp [hname]
  | empty =>
    rw [hk] at hnamed
    simp only [head?_named_ne h, if_false, List.getLast?_append, List.getLast?_singleton,
      Option.some_or, if_true, List.dropLast_concat, hnamed]

theorem notMem_body (h : t.WellFormed) {c : Char} (hc : c = '<' ∨ c = '>') : c ∉ t.body := by
  have hchar : isNameChar c = false ∧ c ≠ ' ' ∧ c ≠ '=' ∧ c ≠ '"' ∧ c ≠ '/' := by
    rcases hc with rfl | rfl <;> decide
  have hname : c ∉ t.name := not_mem_of_isName h.name hchar.1
  have hattributes : c ∉ t.attributes.flatMap writeAttribute := by
    rw [List.mem_flatMap]
    rintro ⟨a, ha, hmem⟩
    have hkey : c ∉ a.1 := not_mem_of_isName (h.names a ha) hchar.1
    have hvalue : c ∉ a.2 := fun hmem => by
      have := h.values a ha c hmem
      exact hc.elim this.1 this.2.1
    simp [writeAttribute, hkey, hvalue, hchar] at hmem
  unfold body
  cases t.kind <;> simp [named, hname, hattributes, hchar]

end ReadTag

theorem Piece.ofChars?_write {p : Piece} (h : p.WellFormed) :
    Piece.ofChars? (p.before ++ '<' :: p.tag.body) = some p := by
  have hsplit : Text.splitOnce? (· == '<') (p.before ++ '<' :: p.tag.body) =
      some (p.before, p.tag.body) :=
    Text.splitOnce?_append _ (fun c hc => beq_false_of_ne (h.before c hc).1) rfl
  simp [ofChars?, hsplit, ReadTag.ofBody?_body h.tag]

theorem cutAt_flatMap_write {pieces : List Piece} (h : ∀ p ∈ pieces, p.WellFormed) :
    Text.cutAt (· == '>') (pieces.flatMap Piece.write) =
      pieces.map (fun p => p.before ++ '<' :: p.tag.body) ++ [[]] := by
  induction pieces with
  | nil => rfl
  | cons p pieces ih =>
    have hp := h p List.mem_cons_self
    have hno : ∀ c ∈ p.before ++ '<' :: p.tag.body, (c == '>') = false := by
      intro c hc
      refine beq_false_of_ne (ne_of_mem_of_not_mem hc ?_)
      have hbefore : '>' ∉ p.before := fun hmem => (hp.before _ hmem).2.1 rfl
      have hbody := ReadTag.notMem_body hp.tag (.inr rfl)
      simp [hbefore, hbody]
    have htext : (p :: pieces).flatMap Piece.write =
        (p.before ++ '<' :: p.tag.body) ++ '>' :: pieces.flatMap Piece.write := by
      simp [Piece.write]
    rw [htext, Text.cutAt_append_cons hno rfl, ih fun q hq => h q (List.mem_cons_of_mem p hq)]
    rfl

theorem read?_flatMap_write {pieces : List Piece} (h : ∀ p ∈ pieces, p.WellFormed) :
    read? (pieces.flatMap Piece.write) = some pieces := by
  unfold read?
  simp only [cutAt_flatMap_write h, List.getLastD_concat, List.isEmpty_nil, if_true,
    List.dropLast_concat]
  rw [mapM_eq_some_iff, List.map_map]
  exact List.map_congr_left fun p hp => Piece.ofChars?_write (h p hp)

/-! ### Nesting -/

/-- What is open after a tag, the innermost first. A closing tag has to fit. -/
def ReadTag.step (opened : List (List Char)) (t : ReadTag) : Option (List (List Char)) :=
  match t.kind, opened with
  | .opening, _ => some (t.name :: opened)
  | .empty, _ => some opened
  | .closing, name :: outer => if name = t.name then some outer else none
  | .closing, [] => none

/-- Every tag that is opened is closed, the last opened first. -/
def IsNested (pieces : List Piece) : Prop :=
  (pieces.map Piece.tag).foldlM ReadTag.step [] = some []

end ChartText.Svg
