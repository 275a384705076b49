import ChartText.Markdown.Html
import ChartText.Markdown.Marker

/-! # Paragraphs and link reference definitions

A paragraph goes on until a blank line or the start of another block. Text at the start of a block
may also define a link reference, which ends with its line. -/

namespace ChartText.Markdown

/-- The text, which is indented by less than a block of code, cannot go on a paragraph. -/
def breaksParagraph (s : List Char) (isContained : Bool) : Bool :=
  (lineEnding? s).isSome || isThematicBreak s || isHeading s || (fence? s).isSome ||
    s.head? == some '>' || startsItemInParagraph s isContained || (strongHtml? s).isSome

inductive ParagraphLine
  | continuation
  /-- The underline that makes the paragraph a heading. -/
  | underline
  | other
deriving Repr, DecidableEq

/-- A line that is not in all containers of the paragraph may still go on the paragraph. -/
def paragraphLine (containers : List Container) (c : Cursor) : ParagraphLine :=
  let (entered, inside) := enter containers c
  let isContained := entered.length == containers.length
  let (text, missing) := inside.skip 4
  if 0 < missing && isContained && isHeadingUnderline text.rest then .underline
  else if 0 < missing && breaksParagraph text.rest isContained then .other
  else if text.isBeforeSpaces then .other
  else .continuation

/-! ### Link reference definitions -/

/-- The text on the next line, if the paragraph goes on there. -/
def nextTextLine? (containers : List Container) (c : Cursor) : Option Cursor :=
  let next := c.nextLine
  match paragraphLine containers next with
  | .continuation =>
    if next.rest.isEmpty then none
    else
      let inside := (enter containers next).2
      some (inside.advance (inside.rest.takeWhile isInnerBlank).length)
  | _ => none

/-- The place after blanks with at most one line ending among them. -/
def acrossBlanks? (containers : List Container) (c : Cursor) : Option Cursor :=
  let next := c.advance (c.rest.takeWhile isInnerBlank).length
  if next.isAtLineEnd then nextTextLine? containers next else some next

/-- The closing bracket of a label that has some text; every round takes at least one
character. -/
def labelEnd? (containers : List Container) :
    (rounds : Nat) → (hasText : Bool) → Cursor → Option Cursor
  | 0, _, _ => none
  | rounds + 1, hasText, c =>
    match c.rest with
    | [] => none
    | d :: _ =>
      if d == '[' then none
      else if d == ']' then (if hasText then some c else none)
      else if d == '\\' then labelEnd? containers rounds true (c.advance 2)
      else if isBlank d then (acrossBlanks? containers c).bind (labelEnd? containers rounds hasText)
      else labelEnd? containers rounds true (c.advance 1)

/-- The length of a destination between angle brackets, after the first of them. -/
def bracketedLength? : List Char → Option Nat
  | [] => none
  | '\\' :: _ :: s => (bracketedLength? s).map (· + 2)
  | c :: s =>
    if c == '>' then some 1
    else if c == '<' || isLineEnd c then none
    else (bracketedLength? s).map (· + 1)

/-- The length of a destination without brackets, inside so many open parentheses. -/
def bareLength? (depth : Nat) : List Char → Option Nat
  | [] => if depth = 0 then some 0 else none
  | '\\' :: c :: s =>
    if c.toNat ≤ 0x20 then (bareLength? depth (c :: s)).map (· + 1)
    else (bareLength? depth s).map (· + 2)
  | c :: s =>
    if c.toNat ≤ 0x20 then (if depth = 0 then some 0 else none)
    else if c == '(' then (if 1 < depth then none else (bareLength? (depth + 1) s).map (· + 1))
    else if c == ')' then (if depth = 0 then some 0 else (bareLength? (depth - 1) s).map (· + 1))
    else (bareLength? depth s).map (· + 1)

def destinationLength? (s : List Char) : Option Nat :=
  match s with
  | '<' :: rest => (bracketedLength? rest).map (· + 1)
  | s => bareLength? 0 s

def titleEnd? (containers : List Container) (close : Char) :
    (rounds : Nat) → Cursor → Option Cursor
  | 0, _ => none
  | rounds + 1, c =>
    match c.rest with
    | [] => none
    | d :: _ =>
      if d == close then some (c.advance 1)
      else if d == '(' && close == ')' then none
      else if d == '\\' then titleEnd? containers close rounds (c.advance 2)
      else if isLineEnd d then
        (nextTextLine? containers c).bind (titleEnd? containers close rounds)
      else titleEnd? containers close rounds (c.advance 1)

def title? (containers : List Container) (c : Cursor) : Option Cursor :=
  let close? : Option Char := match c.rest with
    | '"' :: _ => some '"'
    | '\'' :: _ => some '\''
    | '(' :: _ => some ')'
    | _ => none
  close?.bind fun close => titleEnd? containers close c.rest.length (c.advance 1)

def definition? (containers : List Container) (c : Cursor) : Option Cursor := do
  if c.rest.head? ≠ some '[' then none
  let label ← labelEnd? containers c.rest.length false (c.advance 1)
  if label.rest[1]? ≠ some ':' then none
  let start ← acrossBlanks? containers (label.advance 2)
  let length ← destinationLength? start.rest
  if length = 0 then none
  let stop := start.advance length
  let titled : Option Cursor := do
    let opening ← acrossBlanks? containers stop
    if opening.offset = stop.offset then none
    (← title? containers opening).afterBlankLine?
  titled <|> stop.afterBlankLine?

end ChartText.Markdown
