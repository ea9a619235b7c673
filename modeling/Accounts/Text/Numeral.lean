/-!
Numerals: natural numbers and integers in a base up to sixteen, and the reading of decimal ones.
-/
namespace Accounts.Text

def decimal (n : Nat) : List Char := Nat.toDigits 10 n

def decimalInt : Int → List Char
  | .ofNat n => decimal n
  | .negSucc n => '-' :: decimal (n + 1)

/-- At least `width` characters, zeros put in front. -/
def zeroPad (width : Nat) (digits : List Char) : List Char :=
  List.replicate (width - digits.length) '0' ++ digits

def decimalValue (c : Char) : Nat := c.toNat - 0x30

def ofDecimal (digits : List Char) : Nat := digits.foldl (fun n c => 10 * n + decimalValue c) 0

def hex4 (n : Nat) : List Char := zeroPad 4 (Nat.toDigits 16 n)

def hexValue? (c : Char) : Option Nat :=
  let n := c.toNat
  if 0x30 ≤ n ∧ n ≤ 0x39 then some (n - 0x30)
  else if 0x41 ≤ n ∧ n ≤ 0x46 then some (n - 0x37)
  else if 0x61 ≤ n ∧ n ≤ 0x66 then some (n - 0x57)
  else none

def ofHex? (digits : List Char) : Option Nat :=
  digits.foldlM (fun n c => (hexValue? c).map (16 * n + ·)) 0

def codePoints (s : String) : List Nat := s.toList.map Char.toNat

end Accounts.Text
