import ChartText.Text.Visible

/-! # Quoted texts

A text between quotes on one line, with escapes for everything that would not show. -/

namespace ChartText.Text

def quoteChar (c : Char) : List Char :=
  match c with
  | '"' => ['\\', '"']
  | '\\' => ['\\', '\\']
  | '\n' => ['\\', 'n']
  | '\r' => ['\\', 'r']
  | '\t' => ['\\', 't']
  | '\x00' => ['\\', '0']
  | c =>
    if isVisible c then [c]
    else ['\\', 'u', '\x7b'] ++ Nat.toDigits 16 c.toNat ++ ['\x7d']

def quote (s : String) : String :=
  String.ofList ('"' :: s.toList.flatMap quoteChar ++ ['"'])

def quoteList (ss : List String) : String :=
  "[" ++ ", ".intercalate (ss.map quote) ++ "]"

end ChartText.Text
