import ChartText.Markdown.Cursor
import ChartText.Text.Case
import ChartText.Text.Lines

/-! # Blocks of HTML

A block of HTML begins with a tag or another piece of markup at the start of a line. It ends with
the line that holds its end mark, or else before the next blank line. -/

namespace ChartText.Markdown

inductive HtmlEnd
  | afterMark (mark : List Char)
  | atBlankLine
deriving Repr, DecidableEq

def occursIn (part : List Char) : List Char → Bool
  | [] => part.isEmpty
  | c :: s => part.isPrefixOf (c :: s) || occursIn part s

/-! ### Raw elements, comments and declarations -/

/-- Elements whose content is not markup. -/
def rawElements : List String := ["pre", "style", "script", "textarea"]

/-- Openings and the marks that end them. -/
def enclosures : List (String × String) :=
  [("!--", "-->"), ("?", "?>"), ("![CDATA[", "]]>")]

def startsWithWord (word : String) (s : List Char) : Bool :=
  Text.sameIgnoringCase (s.take word.length) word.toList

/-- The end mark of a block that goes on over blank lines. The text begins after the `<`. -/
def endMark? (s : List Char) : Option (List Char) :=
  let isRaw (name : String) : Bool :=
    startsWithWord name s && (s.drop name.length).head?.all fun c => isBlank c || c == '>'
  match rawElements.find? isRaw with
  | some name => some ("</" ++ name ++ ">").toList
  | none =>
    match enclosures.find? fun (start, _) => start.toList.isPrefixOf s with
    | some (_, stop) => some stop.toList
    | none =>
      match s with
      | '!' :: c :: _ => if c.isAlpha then some ['>'] else none
      | _ => none

/-! ### Block elements -/

def blockElements : List String :=
  ["address", "article", "aside", "base", "basefont", "blockquote", "body", "caption", "center",
    "col", "colgroup", "dd", "details", "dialog", "dir", "div", "dl", "dt", "fieldset",
    "figcaption", "figure", "footer", "form", "frame", "frameset", "h1", "h2", "h3", "h4", "h5",
    "h6", "head", "header", "hr", "html", "iframe", "legend", "li", "link", "main", "menu",
    "menuitem", "nav", "noframes", "ol", "optgroup", "option", "p", "param", "search", "section",
    "summary", "table", "tbody", "td", "tfoot", "th", "thead", "title", "tr", "track", "ul"]

def dropSlash : List Char → List Char
  | '/' :: s => s
  | s => s

/-- The text, which begins after the `<`, is an opening or closing tag of a block element. -/
def startsBlockElement (s : List Char) : Bool :=
  let tag := dropSlash s
  let name := tag.takeWhile Char.isAlphanum
  let after := tag.drop name.length
  blockElements.any (fun element => Text.sameIgnoringCase element.toList name) &&
    (after.head?.all (fun c => c == ' ' || c == '\t' || isLineEnd c || c == '>') ||
      "/>".toList.isPrefixOf after)

/-! ### Complete tags -/

def isAttributeStart (c : Char) : Bool :=
  c.isAlpha || c == '_' || c == ':'

def isAttributePart (c : Char) : Bool :=
  c.isAlphanum || c == '_' || c == '.' || c == ':' || c == '-'

/-- The rest after the value of an attribute. A value in quotes ends on its line. -/
def dropValue? (s : List Char) : Option (List Char) :=
  match s with
  | [] => none
  | c :: rest =>
    if c == '"' || c == '\'' then
      match rest.dropWhile fun d => d != c && !isLineEnd d with
      | d :: after => if d == c then some after else none
      | [] => none
    else if c == ' ' || c == '=' || c == '<' || c == '>' || c == '\x60' || isLineEnd c then none
    else some ((c :: rest).dropWhile fun d =>
      !(isBlank d || d == '"' || d == '\'' || d == '=' || d == '<' || d == '>' || d == '\x60'))

def dropAttribute? (s : List Char) : Option (List Char) :=
  match s with
  | [] => none
  | c :: rest =>
    if isAttributeStart c then
      let after := rest.dropWhile isAttributePart
      match after.dropWhile isInnerBlank with
      | '=' :: written => dropValue? (written.dropWhile isInnerBlank)
      | next => if next.head?.any isLineEnd then none else some after
    else none

/-- The rest after the attributes of a tag, each of them after a blank. -/
def dropAttributes? : (rounds : Nat) → List Char → Option (List Char)
  | 0, _ => none
  | rounds + 1, s =>
    let next := s.dropWhile isInnerBlank
    match next with
    | [] => none
    | c :: _ =>
      if c == '/' || c == '>' then some next
      else if next.length == s.length then none
      else (dropAttribute? next).bind (dropAttributes? rounds)

/-- The text, which begins after the `<`, is a complete tag with nothing but blanks after it on
its line. -/
def isTagLine (s : List Char) : Bool :=
  let tag := dropSlash s
  let isClosing := tag.length != s.length
  match tag with
  | c :: _ =>
    if c.isAlpha then
      let afterName := tag.dropWhile fun c => c.isAlphanum || c == '-'
      let afterAttributes :=
        if isClosing then some (afterName.dropWhile isInnerBlank)
        else (dropAttributes? (afterName.length + 1) afterName).map fun rest =>
          dropSlash (rest.dropWhile isInnerBlank)
      match afterAttributes with
      | some ('>' :: after) => (blankLine? after).isSome
      | _ => false
    else false
  | [] => false

/-! ### Blocks -/

/-- How the block of HTML ends that a text begins, if it begins one that may break a paragraph. -/
def strongHtml? (s : List Char) : Option HtmlEnd :=
  match s with
  | '<' :: rest =>
    match endMark? rest with
    | some mark => some (.afterMark mark)
    | none => if startsBlockElement rest then some .atBlankLine else none
  | _ => none

def html? (s : List Char) : Option HtmlEnd :=
  match strongHtml? s with
  | some stop => some stop
  | none =>
    match s with
    | '<' :: rest => if isTagLine rest then some .atBlankLine else none
    | _ => none

end ChartText.Markdown
