import ChartText.Number.Literal
import ChartText.Text.Digits

/-! # The tokens of a JSON text

`Json.tokens?` cuts a text into tokens. Strings are decoded on the way and numbers are only
checked. -/

namespace ChartText.Json

inductive Token
  | openBrace
  | closeBrace
  | openBracket
  | closeBracket
  | colon
  | comma
  | null
  | bool (b : Bool)
  | number (literal : List Char)
  /-- As for a string value, there may be no text. -/
  | string (s : Option String)
deriving Repr, DecidableEq

def isSpace (c : Char) : Bool :=
  c == ' ' || c == '\t' || c == '\n' || c == '\r'

/-! ### Strings -/

def simpleEscape? : Char → Option Nat
  | '"' => some 0x22
  | '\\' => some 0x5C
  | '/' => some 0x2F
  | 'b' => some 0x08
  | 'f' => some 0x0C
  | 'n' => some 0x0A
  | 'r' => some 0x0D
  | 't' => some 0x09
  | _ => none

/-- The codes of a string up to its closing quote, and the rest. An escape of six characters gives
a UTF-16 unit, everything else a code point. `done` holds the codes so far, the last one first. -/
def stringCodes? (done : List Nat) : List Char → Option (List Nat × List Char)
  | [] => none
  | '"' :: rest => some (done.reverse, rest)
  | '\\' :: 'u' :: a :: b :: c :: d :: rest =>
    match Text.natOfHex? [a, b, c, d] with
    | some unit => stringCodes? (unit :: done) rest
    | none => none
  | '\\' :: e :: rest =>
    match simpleEscape? e with
    | some code => stringCodes? (code :: done) rest
    | none => none
  | c :: rest => if c.toNat < 0x20 || c == '\\' then none else stringCodes? (c.toNat :: done) rest

def isHighSurrogate (n : Nat) : Bool :=
  0xD800 ≤ n && n < 0xDC00

def isLowSurrogate (n : Nat) : Bool :=
  0xDC00 ≤ n && n < 0xE000

/-- The characters of codes, with each surrogate pair as one character. -/
def charsOfCodes? (done : List Char) : List Nat → Option (List Char)
  | [] => some done.reverse
  | high :: low :: rest =>
    if isHighSurrogate high then
      if isLowSurrogate low then
        charsOfCodes? (Char.ofNat (0x10000 + (high - 0xD800) * 0x400 + (low - 0xDC00)) :: done) rest
      else none
    else if isLowSurrogate high then none
    else charsOfCodes? (Char.ofNat high :: done) (low :: rest)
  | [code] =>
    if isHighSurrogate code || isLowSurrogate code then none
    else some (Char.ofNat code :: done).reverse

def textOfCodes? (codes : List Nat) : Option String :=
  (charsOfCodes? [] codes).map String.ofList

/-! ### Numbers -/

def spanDigits (s : List Char) : List Char × List Char :=
  (s.takeWhile Char.isDigit, s.dropWhile Char.isDigit)

/-- The whole part of a number: a zero, or digits that begin with another one. -/
def spanWhole : List Char → List Char × List Char
  | '0' :: rest => (['0'], rest)
  | s => spanDigits s

def spanFraction : List Char → List Char × List Char
  | '.' :: rest =>
    match spanDigits rest with
    | ([], _) => ([], '.' :: rest)
    | (digits, after) => ('.' :: digits, after)
  | s => ([], s)

def spanExponent (s : List Char) : List Char × List Char :=
  match s with
  | e :: rest =>
    if e == 'e' || e == 'E' then
      let (sign, unsigned) := match rest with
        | '+' :: r => (['+'], r)
        | '-' :: r => (['-'], r)
        | r => ([], r)
      match spanDigits unsigned with
      | ([], _) => ([], s)
      | (digits, after) => (e :: sign ++ digits, after)
    else ([], s)
  | [] => ([], s)

/-- A number and the rest. A number is not followed by what cannot end it. -/
def number? (s : List Char) : Option (List Char × List Char) :=
  let (sign, unsigned) := match s with
    | '-' :: rest => (['-'], rest)
    | _ => ([], s)
  let (whole, afterWhole) := spanWhole unsigned
  let (fraction, afterFraction) := spanFraction afterWhole
  let (exponent, rest) := spanExponent afterFraction
  if whole.isEmpty then none else some (sign ++ whole ++ fraction ++ exponent, rest)

/-! ### Tokens -/

def dropWord? (word : String) (s : List Char) : Option (List Char) :=
  if word.toList.isPrefixOf s then some (s.drop word.length) else none

def token? : List Char → Option (Token × List Char)
  | [] => none
  | '\x7b' :: rest => some (.openBrace, rest)
  | '\x7d' :: rest => some (.closeBrace, rest)
  | '[' :: rest => some (.openBracket, rest)
  | ']' :: rest => some (.closeBracket, rest)
  | ':' :: rest => some (.colon, rest)
  | ',' :: rest => some (.comma, rest)
  | '"' :: rest =>
    (stringCodes? [] rest).map fun (codes, after) => (.string (textOfCodes? codes), after)
  | 'n' :: rest => (dropWord? "ull" rest).map fun after => (.null, after)
  | 't' :: rest => (dropWord? "rue" rest).map fun after => (.bool true, after)
  | 'f' :: rest => (dropWord? "alse" rest).map fun after => (.bool false, after)
  | s => (number? s).map fun (literal, after) => (.number literal, after)

/-- The tokens of a text, after those that are already known. Every token has a character, so as
many rounds as there are characters are enough. -/
def tokensFrom? : (rounds : Nat) → (done : List Token) → List Char → Option (List Token)
  | 0, done, s => if s.all isSpace then some done.reverse else none
  | rounds + 1, done, s =>
    match s.dropWhile isSpace with
    | [] => some done.reverse
    | s' =>
      match token? s' with
      | some (t, rest) => tokensFrom? rounds (t :: done) rest
      | none => none

def tokens? (s : List Char) : Option (List Token) :=
  tokensFrom? s.length [] s

end ChartText.Json
