import ChartText.Markdown.Info
import ChartText.Markdown.Paragraph

/-! # Fenced blocks of a Markdown text

`fencedBlocks` finds the fenced code blocks of a text. The text is read line by line: the containers
that are open are entered first, and what is left of the line goes on the open block or begins a new
one. -/

namespace ChartText.Markdown

structure FencedBlock where
  /-- Where the opening fence begins, in bytes. -/
  start : Nat
  stop : Nat
  info : List Char
  text : List Char
deriving Repr, DecidableEq

/-- A fenced code block whose end has not been reached. -/
structure OpenFence where
  start : Nat
  /-- The columns before the opening fence. -/
  indent : Nat
  mark : Char
  width : Nat
  info : List Char
  /-- The lines so far, the last one first. -/
  lines : List (List Char) := []

def OpenFence.close (f : OpenFence) (stop : Nat) : FencedBlock :=
  ⟨f.start, stop, f.info, f.lines.reverse.flatten⟩

/-- The block that the lines so far leave open inside the containers. -/
inductive Leaf
  | none
  | paragraph
  | indentedCode
  | html (stop : HtmlEnd)
  | fence (f : OpenFence)

structure State where
  containers : List Container := []
  leaf : Leaf := .none
  /-- The innermost container is a list item that has no content yet. -/
  atEmptyItem : Bool := false
  /-- The blocks that are complete, the last one first. -/
  done : List FencedBlock := []

/-! ### Starting blocks -/

/-- The containers that the rest of a line opens, the place after their marks. -/
def openContainers : (rounds : Nat) → Cursor → List Container × Cursor
  | 0, c => ([], c)
  | rounds + 1, c =>
    let first? := match listItem? c with
      | some result => some result
      | none => (quoteMark? c).map fun c' => (Container.quote, c')
    match first? with
    | none => ([], c)
    | some (k, c') =>
      let (ks, c'') := openContainers rounds c'
      (k :: ks, c'')

/-- The block of HTML that is open after one of its lines. -/
def leafAfterHtml (stop : HtmlEnd) (line : List Char) : Leaf :=
  match stop with
  | .afterMark mark => if occursIn mark line then .none else .html stop
  | .atBlankLine => .html stop

/-- The block that begins with the rest of a line that is not blank, and the start of the next
line. -/
def openLeaf (containers : List Container) (c : Cursor) : Leaf × Cursor :=
  let (start, missing) := c.skip 4
  if missing = 0 then (.indentedCode, start.takeRawLine.2)
  else
    match html? start.rest with
    | some stop =>
      let (line, next) := start.takeRawLine
      (leafAfterHtml stop line, next)
    | none =>
      if isThematicBreak start.rest || isHeading start.rest then (.none, start.nextLine)
      else
        match fence? start.rest with
        | some (mark, width) =>
          let (line, next) := (start.advance width).takeRawLine
          let indent := 4 - missing
          (.fence { start := start.offset, indent, mark, width, info := infoOf line }, next)
        | none =>
          match definition? containers start with
          | some next => (.none, next)
          | none => (.paragraph, start.nextLine)

namespace State

def isInItem (containers : List Container) : Bool :=
  match containers.getLast? with
  | some (.item _) => true
  | _ => false

/-- A blank line. It ends a list item that has no content yet. -/
def blankLine (s : State) (entered opened : List Container) : State :=
  let isEmptyItem := isInItem (entered ++ opened)
  if !opened.isEmpty then
    { s with containers := entered ++ opened, leaf := .none, atEmptyItem := isEmptyItem }
  else if s.atEmptyItem && isEmptyItem then
    { s with containers := entered.dropLast, leaf := .none, atEmptyItem := false }
  else { s with containers := entered, leaf := .none }

/-- Reads a line that does not go on any block but containers. -/
def startLine (s : State) (c : Cursor) : State × Cursor :=
  let (entered, inside) := enter s.containers c
  let (opened, content) :=
    openContainers (inside.rest.takeWhile (!isLineEnd ·)).length inside
  match content.afterBlankLine? with
  | some next => (s.blankLine entered opened, next)
  | none =>
    let containers := entered ++ opened
    let (leaf, next) := openLeaf containers content
    ({ s with containers, leaf, atEmptyItem := false }, next)

/-! ### Going on -/

/-- A line of code. The part of a tab that belongs to it becomes spaces. A carriage return before
the last character is dropped, which makes line feeds of all line endings. -/
def codeLine (c : Cursor) : List Char × Cursor :=
  let (line, next) := c.takeRawLine
  let text := match line.reverse with
    | last :: '\r' :: others =>
      if last.toNat < 0x80 then (last :: others).reverse else line
    | _ => line
  (List.replicate c.pending ' ' ++ text, next)

def fenceLine (s : State) (f : OpenFence) (c : Cursor) : State × Cursor :=
  let (text, _) := c.skip f.indent
  let (mark, missing) := text.skip (4 - f.indent)
  match if 0 < missing then closingFence? f.mark f.width mark.rest else none with
  | some n =>
    let stop := mark.advance n
    ({ s with leaf := .none, done := f.close stop.offset :: s.done },
      stop.afterBlankLine?.getD stop)
  | none =>
    let (line, next) := codeLine text
    ({ s with leaf := .fence { f with lines := line :: f.lines } }, next)

def step (s : State) (c : Cursor) : State × Cursor :=
  let (entered, inside) := enter s.containers c
  let isContained := entered.length == s.containers.length
  match s.leaf with
  | .none => s.startLine c
  | .paragraph =>
    match paragraphLine s.containers c with
    | .continuation => (s, c.nextLine)
    | .underline => ({ s with leaf := .none }, c.nextLine)
    | .other => s.startLine c
  | .indentedCode =>
    let (text, missing) := inside.skip 4
    if isContained && (missing = 0 || text.isAtLineEnd) then (s, text.takeRawLine.2)
    else s.startLine c
  | .html stop =>
    let ends := stop == .atBlankLine && (Markdown.blankLine? inside.rest).isSome
    if isContained && !ends then
      let (line, next) := inside.takeRawLine
      ({ s with leaf := leafAfterHtml stop line }, next)
    else s.startLine c
  | .fence f =>
    if isContained then s.fenceLine f inside
    else { s with done := f.close c.offset :: s.done }.startLine c

def blocks (s : State) (stop : Nat) : List FencedBlock :=
  match s.leaf with
  | .fence f => (f.close stop :: s.done).reverse
  | _ => s.done.reverse

/-- Reads line after line; every line takes a round. -/
def run : (rounds : Nat) → State → Cursor → List FencedBlock
  | 0, s, c => s.blocks c.offset
  | rounds + 1, s, c =>
    if c.rest.isEmpty then s.blocks c.offset
    else
      let (s', c') := s.step c
      run rounds s' c'

end State

def fencedBlocks (text : List Char) : List FencedBlock :=
  State.run text.length {} ⟨text, 0, 0, 0⟩

end ChartText.Markdown
