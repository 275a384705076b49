import ChartText.Proofs.Svg.Tags
import ChartText.Proofs.Text.Reflow

/-! # Drawings as pieces

The text of a document is the text of its pieces (`Document.toList_write`): a piece for every tag
of its markup, with escaped texts in front of some of them. The pieces are well formed if the names
and the drawing commands are (`Document.wellFormed_pieces`), and they are nested in any case
(`Document.isNested_pieces`). -/

namespace ChartText

/-! ### Numbers -/

theorem NumberStyle.mem_positional {style : NumberStyle} {digits : List Char} {point : Int}
    {c : Char} (h : c ∈ style.positional digits point) : c = '0' ∨ c = '.' ∨ c ∈ digits := by
  have hzeros : ∀ {n : Nat}, c ∈ zeros n → c = '0' := fun hc => (List.mem_replicate.mp hc).2
  unfold positional at h
  split at h
  · simp only [List.mem_cons, List.mem_append, List.cons_append] at h
    rcases h with h | h | h | h
    · exact .inl h
    · exact .inr (.inl h)
    · exact .inl (hzeros h)
    · exact .inr (.inr h)
  · split at h
    · simp only [List.mem_append] at h
      rcases h with (h | h) | h
      · exact .inr (.inr h)
      · exact .inl (hzeros h)
      · split at h
        · simp only [List.mem_cons, List.not_mem_nil, or_false] at h
          exact h.symm.imp_right .inl
        · cases h
    · rcases List.mem_append.mp h with h | h
      · exact .inr (.inr (List.mem_of_mem_take h))
      · rcases List.mem_cons.mp h with h | h
        · exact .inr (.inl h)
        · exact .inr (.inr (List.mem_of_mem_drop h))

theorem NumberStyle.mem_decimal_plain {d : Decimal} {c : Char} (h : c ∈ plain.decimal d) :
    c = '.' ∨ c.isDigit = true := by
  have hpositional : plain.decimal d = plain.positional (Nat.toDigits 10 d.coefficient)
      (d.exponent + (Nat.toDigits 10 d.coefficient).length) := rfl
  rw [hpositional] at h
  rcases mem_positional h with rfl | rfl | hdigit
  · exact .inr rfl
  · exact .inl rfl
  · exact .inr (Nat.isDigit_of_mem_toDigits (by decide) (by decide) hdigit)

namespace Svg

/-- What numbers and drawing commands are written with: letters, digits, signs, points and
spaces. -/
def isCommandChar (c : Char) : Bool :=
  isNameChar c || c == '.' || c == ' '

def IsCommands (s : String) : Prop :=
  ∀ c ∈ s.toList, isCommandChar c = true

-- given by hand, so that no instance that goes through all characters is found
instance decidableIsCommands (s : String) : Decidable (IsCommands s) :=
  List.decidableBAll _ s.toList

theorem IsCommands.notMem {s : String} (h : IsCommands s) {c : Char}
    (hc : isCommandChar c = false) : c ∉ s.toList := by
  intro hmem
  rw [h c hmem] at hc
  cases hc

theorem IsCommands.isUnmarked {s : String} (h : IsCommands s) : IsUnmarked s.toList := by
  intro c hc
  refine ⟨?_, ?_, ?_, ?_⟩ <;> (rintro rfl; exact h.notMem (by decide) hc)

theorem isCommands_plainNumber (x : Float) : IsCommands (plainNumber x) := by
  unfold plainNumber NumberStyle.format
  split
  · decide
  · split
    · split <;> decide
    · dsimp only
      intro c hc
      rw [String.toList_ofList] at hc
      rcases List.mem_append.mp hc with hsign | hdigits
      · split at hsign
        · obtain rfl := List.mem_singleton.mp hsign
          decide
        · cases hsign
      · split at hdigits
        · obtain rfl := List.mem_singleton.mp hdigits
          decide
        · rcases NumberStyle.mem_decimal_plain hdigits with rfl | hdigit
          · decide
          · simp [isCommandChar, isNameChar, Char.isAlphanum, hdigit]

theorem isCommands_toString (n : Int) : IsCommands (toString n) := by
  have hdigits (m : Nat) : IsCommands (Nat.repr m) := by
    intro c hc
    rw [Nat.toList_repr] at hc
    have hdigit := Nat.isDigit_of_mem_toDigits (by decide) (by decide) hc
    simp [isCommandChar, isNameChar, Char.isAlphanum, hdigit]
  cases n with
  | ofNat m => exact hdigits m
  | negSucc m =>
    intro c hc
    have hc : c ∈ ("-" ++ Nat.repr (m + 1)).toList := hc
    rw [String.toList_append] at hc
    rcases List.mem_append.mp hc with hsign | hc
    · obtain rfl : c = '-' := by simpa using hsign
      decide
    · exact hdigits (m + 1) c hc

theorem isCommands_phrase {words : List String} (h : ∀ w ∈ words, IsCommands w) :
    IsCommands (phrase words) := by
  intro c hc
  by_contra hother
  refine absurd hc ?_
  rw [phrase, String.toList_intercalate]
  refine notMem_intercalate ?_ fun t ht hct => ?_
  · intro hspace
    obtain rfl : c = ' ' := by simpa using hspace
    exact hother (by decide)
  · obtain ⟨w, hw, rfl⟩ := List.mem_map.mp ht
    exact hother (h w hw c hct)

theorem isCommands_pointWords (p : Point Float) : ∀ w ∈ pointWords p, IsCommands w := by
  intro w hw
  simp only [pointWords, List.mem_cons, List.not_mem_nil, or_false] at hw
  rcases hw with rfl | rfl
  · exact isCommands_plainNumber p.x
  · exact isCommands_plainNumber p.y

theorem isUnmarked_escape (s : String) : IsUnmarked (Text.escape s).toList := by
  rw [Text.escape, String.toList_ofList]
  intro c hc
  refine ⟨?_, ?_, ?_, ?_⟩ <;> (rintro rfl; exact Text.not_mem_escapeChars (by decide) s.toList hc)

/-! ### Markup -/

def Tag.read (t : Tag) (kind : TagKind) : ReadTag where
  kind
  name := t.name.toList
  attributes := t.attributes.map fun (name, value) => (name.toList, value.write.toList)

def Tag.endTag (t : Tag) : ReadTag where
  kind := .closing
  name := t.name.toList
  attributes := []

/-- A new line with an indent, as it stands between the lines of a document. -/
def newLine : List Char :=
  '\n' :: Text.margin

theorem isUnmarked_newLine : IsUnmarked newLine := by
  decide

theorem isUnmarked_lineFeed : IsUnmarked ['\n'] := by
  decide

/-- The tag around a caption. -/
def titleTag : Tag := ⟨"title", []⟩

namespace Markup

def tag : Markup → Tag
  | empty tag | text tag _ | captioned tag _ => tag

def pieces : Markup → List Piece
  | empty tag => [⟨[], tag.read .empty⟩]
  | text tag content => [⟨[], tag.read .opening⟩, ⟨(Text.escape content).toList, tag.endTag⟩]
  | captioned tag caption =>
    [⟨[], tag.read .opening⟩, ⟨newLine, titleTag.read .opening⟩,
      ⟨(Text.escape caption).toList, titleTag.endTag⟩, ⟨['\n'], tag.endTag⟩]

end Markup

/-- Drawing commands are written as they are, so they have to be free of markup. -/
def Value.IsPlain : Value → Prop
  | .commands s => IsUnmarked s.toList
  | .number _ | .text _ => True

structure Tag.WellFormed (t : Tag) : Prop where
  name : isName t.name.toList = true
  names : ∀ a ∈ t.attributes, isName a.1.toList = true
  values : ∀ a ∈ t.attributes, a.2.IsPlain

theorem Value.IsPlain.isUnmarked {v : Value} (h : v.IsPlain) : IsUnmarked v.write.toList := by
  cases v with
  | number x => exact (isCommands_plainNumber x).isUnmarked
  | text s => exact isUnmarked_escape s
  | commands s => exact h

namespace Tag
variable {t : Tag}

theorem toList_body (t : Tag) (kind : TagKind) : t.body.toList = (t.read kind).named := by
  have hattribute : ∀ a : String × Value, (writeAttribute a).toList =
      Svg.writeAttribute (a.1.toList, a.2.write.toList) := by
    intro a
    simp [writeAttribute, Svg.writeAttribute]
  simp [body, ReadTag.named, read, List.flatMap_map, hattribute]

theorem toList_opening (t : Tag) : t.opening.toList = '<' :: (t.read .opening).body ++ ['>'] := by
  have hbody : (t.read .opening).body = (t.read .opening).named := rfl
  simp [opening, hbody, toList_body t .opening]

theorem toList_closing (t : Tag) : t.closing.toList = '<' :: t.endTag.body ++ ['>'] := by
  have hbody : t.endTag.body = '/' :: t.name.toList := rfl
  simp [closing, hbody]

theorem WellFormed.read (h : t.WellFormed) {kind : TagKind} (hk : kind ≠ .closing) :
    (t.read kind).WellFormed where
  name := h.name
  names := by
    intro a ha
    obtain ⟨b, hb, rfl⟩ := List.mem_map.mp ha
    exact h.names b hb
  values := by
    intro a ha
    obtain ⟨b, hb, rfl⟩ := List.mem_map.mp ha
    exact (h.values b hb).isUnmarked
  closing := fun hclosing => absurd hclosing hk

theorem WellFormed.endTag (h : t.WellFormed) : t.endTag.WellFormed where
  name := h.name
  names := fun _ ha => absurd ha List.not_mem_nil
  values := fun _ ha => absurd ha List.not_mem_nil
  closing := fun _ => rfl

end Tag

theorem wellFormed_titleTag : titleTag.WellFormed where
  name := by decide
  names := fun _ ha => absurd ha List.not_mem_nil
  values := fun _ ha => absurd ha List.not_mem_nil

namespace Markup

theorem toList_write (m : Markup) : m.write.toList = m.pieces.flatMap Piece.write := by
  cases m with
  | empty tag =>
    have hbody : (tag.read .empty).body = (tag.read .empty).named ++ ['/'] := rfl
    simp [write, pieces, Piece.write, hbody, Tag.toList_body tag .empty]
  | text tag content =>
    simp [write, pieces, Piece.write, Tag.toList_opening, Tag.toList_closing]
  | captioned tag caption =>
    have hopening : "<title>".toList = '<' :: (titleTag.read .opening).body ++ ['>'] := by
      decide
    have hclosing : "</title>\n".toList = '<' :: titleTag.endTag.body ++ ['>', '\n'] := by
      decide
    have hindent : indent.toList = Text.margin := by decide
    simp [write, pieces, Piece.write, Tag.toList_opening, Tag.toList_closing, hopening, hclosing,
      hindent, newLine]

theorem wellFormed_pieces {m : Markup} (h : m.tag.WellFormed) :
    ∀ p ∈ m.pieces, p.WellFormed := by
  intro p hp
  cases m with
  | empty tag =>
    obtain rfl : p = ⟨[], tag.read .empty⟩ := by simpa [pieces] using hp
    exact ⟨isUnmarked_nil, h.read (by decide)⟩
  | text tag content =>
    simp only [pieces, List.mem_cons, List.not_mem_nil, or_false] at hp
    rcases hp with rfl | rfl
    · exact ⟨isUnmarked_nil, h.read (by decide)⟩
    · exact Piece.wellFormed_mk (isUnmarked_escape content) h.endTag
  | captioned tag caption =>
    simp only [pieces, List.mem_cons, List.not_mem_nil, or_false] at hp
    rcases hp with rfl | rfl | rfl | rfl
    · exact ⟨isUnmarked_nil, h.read (by decide)⟩
    · exact ⟨isUnmarked_newLine, wellFormed_titleTag.read (by decide)⟩
    · exact Piece.wellFormed_mk (isUnmarked_escape caption) wellFormed_titleTag.endTag
    · exact ⟨isUnmarked_lineFeed, h.endTag⟩

theorem pieces_ne_nil (m : Markup) : m.pieces ≠ [] := by
  cases m <;> simp [pieces]

/-- Markup closes what it opens. -/
theorem foldlM_step_pieces (m : Markup) (opened : List (List Char)) :
    (m.pieces.map Piece.tag).foldlM ReadTag.step opened = some opened := by
  cases m <;> simp [pieces, ReadTag.step, Tag.read, Tag.endTag]

end Markup

end Svg
end ChartText
