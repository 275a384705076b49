import ChartText.Markdown.Cursor

/-! # Markers of blocks

The openings of blocks that a line can begin with: block quotes, list items, thematic breaks,
headings and fences. -/

namespace ChartText.Markdown

/-! ### Containers -/

inductive Container
  | quote
  /-- The lines of an item are indented by at least so many columns. -/
  | item (indent : Nat)
deriving Repr, DecidableEq

/-- After the mark of a block quote and one column of blanks. -/
def quoteMark? (c : Cursor) : Option Cursor :=
  let (c', _) := c.skip 3
  if c'.pending = 0 && c'.rest.head? == some '>' then some ((c'.advance 1).skip 1).1 else none

/-- After the part of a line that belongs to the container itself. An item also goes on over blank
lines. -/
def Container.enter? (k : Container) (c : Cursor) : Option Cursor :=
  match k with
  | quote => quoteMark? c
  | item indent =>
    let (c', missing) := c.skip indent
    if missing = 0 || c'.isAtLineEnd then some c' else none

/-- The containers that go on at the start of a line, and the place after their marks. -/
def enter : List Container → Cursor → List Container × Cursor
  | [], c => ([], c)
  | k :: ks, c =>
    match k.enter? c with
    | none => ([], c)
    | some c' =>
      let (entered, c'') := enter ks c'
      (k :: entered, c'')

/-! ### Thematic breaks and headings -/

/-- A line of three or more equal marks, with blanks anywhere among them. -/
def isThematicBreak (s : List Char) : Bool :=
  let line := s.takeWhile (!isLineEnd ·)
  match line with
  | [] => false
  | mark :: _ =>
    (mark == '*' || mark == '-' || mark == '_') && 3 ≤ line.count mark &&
      line.all fun c => c == mark || c == ' ' || c == '\t'

/-- One to six number signs and a blank. -/
def isHeading (s : List Char) : Bool :=
  let level := (s.takeWhile (· == '#')).length
  1 ≤ level && level ≤ 6 && (s.drop level).head?.all isBlank

/-- A line of equals signs, or of hyphens, makes a heading of the paragraph above it. -/
def isHeadingUnderline (s : List Char) : Bool :=
  match s with
  | mark :: _ =>
    (mark == '=' || mark == '-') && (blankLine? (s.dropWhile (· == mark))).isSome
  | [] => false

/-! ### List items -/

def isBullet (c : Char) : Bool :=
  c == '-' || c == '+' || c == '*'

/-- The length of a list marker, and the number that it gives the item, if it has one. -/
def listMark? (s : List Char) : Option (Nat × Option Nat) :=
  match s with
  | [] => none
  | c :: _ =>
    if isBullet c then some (1, none)
    else
      let digits := (s.take 9).takeWhile Char.isDigit
      match s.drop digits.length with
      | delimiter :: _ =>
        if !digits.isEmpty && (delimiter == '.' || delimiter == ')') then
          some (digits.length + 1, some (Nat.ofDigitChars 10 digits 0))
        else none
      | [] => none

/-- A list item at the place, and the place of its content. The content is indented by up to four
columns against the marker; deeper content, or none, counts as indented by one. -/
def listItem? (c : Cursor) : Option (Container × Cursor) := do
  let (start, missing) := c.skip 4
  if missing = 0 || isThematicBreak start.rest then none
  let (length, _) ← listMark? start.rest
  let (content, short) := (start.advance length).skip 1
  if short ≠ 0 && !content.isAtLineEnd then none
  let indent := 4 - missing + length + 1
  if (blankLine? content.rest).isSome then return (.item indent, content)
  match content.skip 4 with
  | (_, 0) => return (.item indent, content)
  | (deeper, left) => return (.item (indent + (4 - left)), deeper)

def isBeforeTwoBlankLines (s : List Char) : Bool :=
  ((blankLine? s).bind fun n => blankLine? (s.drop n)).isSome

/-- A list item that breaks a paragraph. In the paragraph's own containers it has to have content
and a bullet or the number 1. -/
def startsItemInParagraph (s : List Char) (isContained : Bool) : Bool :=
  match listMark? s with
  | none => false
  | some (length, number) =>
    let after := s.drop length
    let isMark := after.head?.all fun c => c == ' ' || c == '\t' || isLineEnd c
    isMark && (!isContained || (number.all (· == 1) && !isBeforeTwoBlankLines after))

/-! ### Fences -/

/-- The mark of a fence and how often it is repeated. The line of a fence of backticks has no
further backticks. -/
def fence? (s : List Char) : Option (Char × Nat) :=
  match s with
  | [] => none
  | mark :: _ =>
    let width := (s.takeWhile (· == mark)).length
    let info := (s.drop width).takeWhile (· != '\n')
    if width < 3 then none
    else if mark == '~' || (mark == '\x60' && !info.contains '\x60') then some (mark, width)
    else none

/-- The length of a closing fence with the spaces after it. The end of the text closes every
fence. -/
def closingFence? (mark : Char) (width : Nat) (s : List Char) : Option Nat :=
  if s.isEmpty then some 0
  else
    let marks := (s.takeWhile (· == mark)).length
    let spaces := ((s.drop marks).takeWhile (· == ' ')).length
    if width ≤ marks && (lineEnding? (s.drop (marks + spaces))).isSome then some (marks + spaces)
    else none

end ChartText.Markdown
