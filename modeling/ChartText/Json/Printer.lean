import ChartText.Json.Value
import ChartText.Number.Numeral

/-! # Writing JSON

`Json.pretty` writes a value with every element on a line of its own and two blanks for each level.
-/

namespace ChartText

/-- Whole numbers keep a point, and very large and very small numbers have an exponent. There is no
number for an infinity. -/
def NumberStyle.json : NumberStyle where
  tie := .even
  marksWhole := true
  isPositional point := -4 ≤ point && point ≤ 16
  nan := "null"
  infinity := "null"
  negativeInfinity := "null"

namespace Json

def ofFloat (x : Float) : Json :=
  .number (NumberStyle.json.format x).toList

def ofNat (n : Nat) : Json :=
  .number (Nat.toDigits 10 n)

/-! ### Strings -/

def hexDigits (n : Nat) : List Char :=
  let digits := Nat.toDigits 16 n
  List.replicate (4 - digits.length) '0' ++ digits

def escapeChar (c : Char) : List Char :=
  match c with
  | '"' => ['\\', '"']
  | '\\' => ['\\', '\\']
  | '\n' => ['\\', 'n']
  | '\r' => ['\\', 'r']
  | '\t' => ['\\', 't']
  | c =>
    if c.toNat = 0x08 then ['\\', 'b']
    else if c.toNat = 0x0C then ['\\', 'f']
    else if c.toNat < 0x20 then '\\' :: 'u' :: hexDigits c.toNat
    else [c]

def quote (s : String) : List Char :=
  '"' :: s.toList.flatMap escapeChar ++ ['"']

/-- A string without a text is written as the empty string. -/
def writeString (s : Option String) : List Char :=
  quote (s.getD "")

/-! ### Values -/

def newline (level : Nat) : List Char :=
  '\n' :: List.replicate (2 * level) ' '

mutual

def writePretty (level : Nat) : Json → List Char
  | .null => "null".toList
  | .bool b => (if b then "true" else "false").toList
  | .number literal => literal
  | .string s => writeString s
  | .array [] => "[]".toList
  | .array elements =>
    '[' :: prettyElements (level + 1) elements ++ newline level ++ [']']
  | .object [] => ['\x7b', '\x7d']
  | .object fields =>
    '\x7b' :: prettyFields (level + 1) fields ++ newline level ++ ['\x7d']

def prettyElements (level : Nat) : List Json → List Char
  | [] => []
  | [v] => newline level ++ writePretty level v
  | v :: rest => newline level ++ writePretty level v ++ ',' :: prettyElements level rest

def prettyFields (level : Nat) : List (Option String × Json) → List Char
  | [] => []
  | [(key, v)] => newline level ++ writeString key ++ ": ".toList ++ writePretty level v
  | (key, v) :: rest =>
    newline level ++ writeString key ++ ": ".toList ++ writePretty level v ++
      ',' :: prettyFields level rest

end

def pretty (v : Json) : String :=
  String.ofList (writePretty 0 v)

end Json
end ChartText
