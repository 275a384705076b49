import ChartText.Text.Bytes

/-! # Places in a Markdown text

A `Cursor` is a place in a text. Blanks are passed column by column, because a tab reaches to the
next tab stop and may be passed in part. -/

namespace ChartText.Markdown

def isLineEnd (c : Char) : Bool :=
  c == '\n' || c == '\r'

/-- Blanks that do not end a line: space, tab, vertical tab and form feed. -/
def isInnerBlank (c : Char) : Bool :=
  c == ' ' || c == '\t' || c.toNat == 0x0B || c.toNat == 0x0C

def isBlank (c : Char) : Bool :=
  isInnerBlank c || isLineEnd c

/-- The length of the line ending at the start of a text. The end of the text is one of length
zero. -/
def lineEnding? : List Char → Option Nat
  | [] => some 0
  | '\r' :: '\n' :: _ => some 2
  | c :: _ => if isLineEnd c then some 1 else none

/-- The length of a blank rest of a line, with its line ending. -/
def blankLine? (s : List Char) : Option Nat :=
  (lineEnding? (s.dropWhile isInnerBlank)).map ((s.takeWhile isInnerBlank).length + ·)

structure Cursor where
  rest : List Char
  /-- How many bytes stand before the place. -/
  offset : Nat
  /-- The column, from the start of the line or from the last tab stop. -/
  column : Nat := 0
  /-- The columns of a tab before the place that have not been passed yet. -/
  pending : Nat := 0

namespace Cursor

def advance (c : Cursor) (n : Nat) : Cursor where
  rest := c.rest.drop n
  offset := c.offset + Text.byteLength (c.rest.take n)
  column := c.column + n

def tabWidth : Nat := 4

/-- Passes up to `n` columns of blanks. Also gives the number of columns that are missing. -/
def skip : (n : Nat) → Cursor → Cursor × Nat
  | 0, c => (c, 0)
  | n + 1, c =>
    if 0 < c.pending then skip n { c with pending := c.pending - 1 }
    else
      match c.rest with
      | ' ' :: rest => skip n { rest, offset := c.offset + 1, column := c.column + 1 }
      | '\t' :: rest =>
        skip n { rest, offset := c.offset + 1, pending := tabWidth - c.column % tabWidth - 1 }
      | _ => (c, n + 1)

def isAtLineEnd (c : Cursor) : Bool :=
  (lineEnding? c.rest).isSome

def isBeforeSpaces (c : Cursor) : Bool :=
  (lineEnding? (c.rest.dropWhile fun c => c == ' ' || c == '\t')).isSome

def afterBlankLine? (c : Cursor) : Option Cursor :=
  (blankLine? c.rest).map fun n => { c.advance n with column := 0 }

def nextLine (c : Cursor) : Cursor :=
  let n := (c.rest.takeWhile (!isLineEnd ·)).length
  let atEnd := c.advance n
  { atEnd.advance ((lineEnding? atEnd.rest).getD 0) with column := 0 }

/-- The rest of a line of raw text, which only a line feed ends, and the start of the next one. -/
def takeRawLine (c : Cursor) : List Char × Cursor :=
  let n := (c.rest.takeWhile (· != '\n')).length
  (c.rest.take (n + 1), { c.advance (n + 1) with column := 0 })

end Cursor
end ChartText.Markdown
