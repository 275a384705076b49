import ChartText.Text.Digits

/-! # Blanks, comments and strings of TOML

The readers of this module take a text with line feeds alone as line endings and give what they read
together with the rest. -/

namespace ChartText.Toml

/-- Makes every line ending a line feed. A carriage return has no other use. -/
def normalizeLines? (done : List Char) : List Char → Option (List Char)
  | [] => some done.reverse
  | '\r' :: '\n' :: rest => normalizeLines? ('\n' :: done) rest
  | c :: rest => if c == '\r' then none else normalizeLines? (c :: done) rest

/-- Characters that may stand in strings and comments as they are. -/
def isPlain (c : Char) : Bool :=
  c == '\t' || (0x20 ≤ c.toNat && c.toNat ≠ 0x7F)

def isSpace (c : Char) : Bool :=
  c == ' ' || c == '\t'

def skipSpaces (s : List Char) : List Char :=
  s.dropWhile isSpace

/-- The rest after a comment, if there is one. The comment ends before the line feed. -/
def skipComment? (s : List Char) : Option (List Char) :=
  match s with
  | '#' :: rest =>
    match rest.dropWhile isPlain with
    | [] => some []
    | '\n' :: after => some ('\n' :: after)
    | _ => none
  | _ => some s

/-- The rest after blanks, line feeds and comments; `rounds` bounds the number of lines. -/
def skipLines? : (rounds : Nat) → List Char → Option (List Char)
  | 0, s => some s
  | rounds + 1, s =>
    match skipComment? (s.dropWhile fun c => isSpace c || c == '\n') with
    | some ('\n' :: rest) => skipLines? rounds rest
    | other => other

/-- The rest after the blanks and the comment at the end of a line, with its line feed. -/
def endLine? (s : List Char) : Option (List Char) :=
  match skipComment? (skipSpaces s) with
  | some [] => some []
  | some ('\n' :: rest) => some rest
  | _ => none

/-! ### Strings -/

def charOfHex? (digits : List Char) : Option Char :=
  (Text.natOfHex? digits).bind Text.charOfCode?

/-- The character of an escape, without its backslash, and the rest. -/
def escape? : List Char → Option (Char × List Char)
  | 'b' :: rest => some (Char.ofNat 0x08, rest)
  | 't' :: rest => some ('\t', rest)
  | 'n' :: rest => some ('\n', rest)
  | 'f' :: rest => some (Char.ofNat 0x0C, rest)
  | 'r' :: rest => some ('\r', rest)
  | 'e' :: rest => some (Char.ofNat 0x1B, rest)
  | '"' :: rest => some ('"', rest)
  | '\\' :: rest => some ('\\', rest)
  | c :: rest =>
    let width := if c == 'x' then 2 else if c == 'u' then 4 else if c == 'U' then 8 else 0
    if width = 0 || rest.length < width then none
    else (charOfHex? (rest.take width)).map fun character => (character, rest.drop width)
  | [] => none

structure StringForm where
  quote : Char
  hasEscapes : Bool
  isMultiline : Bool

/-- After a backslash at the end of a line: the rest after all blanks and line feeds. -/
def joinLines? (s : List Char) : Option (List Char) :=
  match skipSpaces s with
  | '\n' :: rest => some (rest.dropWhile fun c => isSpace c || c == '\n')
  | _ => none

def countQuotes (quote : Char) (s : List Char) : Nat :=
  (s.takeWhile (· == quote)).length

/-- The text of a string up to its closing quotes, and the rest. Up to two quotes before the closing
ones of a multi-line string belong to its text. -/
def stringText? (form : StringForm) :
    (rounds : Nat) → (done : List Char) → List Char → Option (String × List Char)
  | 0, _, _ => none
  | _, _, [] => none
  | rounds + 1, done, c :: rest =>
    if c == form.quote then
      if !form.isMultiline then some (String.ofList done.reverse, rest)
      else
        let n := countQuotes c (c :: rest)
        if n < 3 then stringText? form rounds (c :: done) rest
        else if n ≤ 5 then
          some (String.ofList (List.replicate (n - 3) c ++ done).reverse, rest.drop (n - 1))
        else none
    else if c == '\\' && form.hasEscapes then
      match escape? rest with
      | some (character, after) => stringText? form rounds (character :: done) after
      | none =>
        match if form.isMultiline then joinLines? rest else none with
        | some after => stringText? form rounds done after
        | none => none
    else if isPlain c || (c == '\n' && form.isMultiline) then
      stringText? form rounds (c :: done) rest
    else none

def readString? (form : StringForm) (s : List Char) : Option (String × List Char) :=
  stringText? form (s.length + 1) [] s

def lineString? : List Char → Option (String × List Char)
  | '"' :: rest => readString? ⟨'"', true, false⟩ rest
  | '\'' :: rest => readString? ⟨'\'', false, false⟩ rest
  | _ => none

/-- A line feed right after the opening quotes does not count. -/
def dropFirstLine : List Char → List Char
  | '\n' :: rest => rest
  | s => s

def string? : List Char → Option (String × List Char)
  | '"' :: '"' :: '"' :: rest => readString? ⟨'"', true, true⟩ (dropFirstLine rest)
  | '\'' :: '\'' :: '\'' :: rest => readString? ⟨'\'', false, true⟩ (dropFirstLine rest)
  | s => lineString? s

/-! ### Keys -/

def isBareKeyChar (c : Char) : Bool :=
  c.isAlphanum || c == '_' || c == '-'

/-- A key without dots. -/
def simpleKey? (s : List Char) : Option (String × List Char) :=
  match lineString? s with
  | some result => some result
  | none =>
    match s.takeWhile isBareKeyChar with
    | [] => none
    | bare => some (String.ofList bare, s.dropWhile isBareKeyChar)

/-- A key, cut at its dots, and the rest after the blanks behind it. -/
def key? : (rounds : Nat) → List Char → Option (List String × List Char)
  | 0, _ => none
  | rounds + 1, s => do
    let (first, rest) ← simpleKey? (skipSpaces s)
    match skipSpaces rest with
    | '.' :: after =>
      let (others, final) ← key? rounds after
      return (first :: others, final)
    | after => return ([first], after)

end ChartText.Toml
