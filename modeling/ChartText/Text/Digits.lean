/-! # Digits and codes of characters -/

namespace ChartText.Text

def digitValue? (c : Char) : Option Nat :=
  if c.isDigit then some (c.toNat - '0'.toNat)
  else if 'a' ≤ c && c ≤ 'f' then some (c.toNat - 'a'.toNat + 10)
  else if 'A' ≤ c && c ≤ 'F' then some (c.toNat - 'A'.toNat + 10)
  else none

def isHexDigit (c : Char) : Bool :=
  (digitValue? c).isSome

def natInBase (base : Nat) (digits : List Char) : Nat :=
  digits.foldl (fun n c => base * n + (digitValue? c).getD 0) 0

def natOfHex? (digits : List Char) : Option Nat :=
  if digits.all isHexDigit then some (natInBase 16 digits) else none

/-- The character with a code, unless the code is half of a surrogate pair or too large. -/
def charOfCode? (n : Nat) : Option Char :=
  if n < 0xD800 || (0xE000 ≤ n && n < 0x110000) then some (Char.ofNat n) else none

end ChartText.Text
