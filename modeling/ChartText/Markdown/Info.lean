import ChartText.Markdown.Cursor
import ChartText.Markdown.Entity

/-! # The info of a fence

The text after an opening fence. Backslashes before punctuation are dropped, and character
references stand for their characters. -/

namespace ChartText.Markdown

/-- ASCII punctuation, every character of which can be escaped. -/
def isPunctuation (c : Char) : Bool :=
  let n := c.toNat
  (0x21 ≤ n && n ≤ 0x2F) || (0x3A ≤ n && n ≤ 0x40) || (0x5B ≤ n && n ≤ 0x60) ||
    (0x7B ≤ n && n ≤ 0x7E)

/-- The character with a code, where zero stands for the replacement character. -/
def referencedChar? (n : Nat) : Option Char :=
  if n = 0 then some '\uFFFD' else Text.charOfCode? n

/-- Digits, up to so many, and a semicolon: their value, and the rest. -/
def code? (base : Nat) (isDigit : Char → Bool) (limit : Nat) (s : List Char) :
    Option (Char × List Char) :=
  let digits := (s.take limit).takeWhile isDigit
  match s.drop digits.length with
  | ';' :: rest =>
    if digits.isEmpty then none
    else (referencedChar? (Text.natInBase base digits)).map fun c => (c, rest)
  | _ => none

/-- What a character reference stands for, and the rest. The text begins after the ampersand. -/
def reference? (s : List Char) : Option (List Char × List Char) :=
  match s with
  | '#' :: c :: digits =>
    let result := if c == 'x' || c == 'X' then code? 16 Text.isHexDigit 6 digits
      else code? 10 Char.isDigit 7 (c :: digits)
    result.map fun (c, rest) => ([c], rest)
  | s =>
    let name := s.takeWhile Char.isAlphanum
    match s.drop name.length with
    | ';' :: rest => (entity? name).map fun text => (text, rest)
    | _ => none

/-- Undoes escapes; every round takes at least one character. Carriage returns are dropped. -/
def unescapeRounds : (rounds : Nat) → List Char → List Char
  | 0, s => s
  | _, [] => []
  | rounds + 1, c :: rest =>
    if c == '\r' then unescapeRounds rounds rest
    else if c == '\\' then
      match rest with
      | d :: after =>
        if isPunctuation d then d :: unescapeRounds rounds after else c :: unescapeRounds rounds rest
      | [] => [c]
    else if c == '&' then
      match reference? rest with
      | some (text, after) => text ++ unescapeRounds rounds after
      | none => c :: unescapeRounds rounds rest
    else c :: unescapeRounds rounds rest

def unescape (s : List Char) : List Char :=
  unescapeRounds s.length s

def infoOf (line : List Char) : List Char :=
  unescape ((line.dropWhile isInnerBlank).reverse.dropWhile isBlank).reverse

end ChartText.Markdown
