import Accounts.Text.Numeral
import Accounts.Text.Printable

/-!
Quoted texts: a text between quotes, with escapes for what cannot be shown, so that it can be read
back from one line.
-/
namespace Accounts.Text

/-- Which characters a quoted text shows as they are, quotes and backslashes apart. -/
inductive Showing where
  /-- Everything printable. -/
  | printable
  /-- Printable ASCII only. -/
  | ascii
  deriving DecidableEq, Repr

def hexDigits (width n : Nat) : List Char := zeroPad width (Nat.toDigits 16 n)

/-- The shortest escape that can hold the number. -/
def numericEscape (c : Nat) : List Char :=
  if c < 0x100 then '\\' :: 'x' :: hexDigits 2 c
  else if c < 0x10000 then '\\' :: 'u' :: hexDigits 4 c
  else '\\' :: 'U' :: hexDigits 8 c

def Showing.shows : Showing → Char → Bool
  | .printable, c => if c.toNat < 0x7F then 0x20 ≤ c.toNat else isPrintable c.toNat
  | .ascii, c => 0x20 ≤ c.toNat && c.toNat < 0x7F

def quotedChar (showing : Showing) (quote c : Char) : List Char :=
  if c = quote ∨ c = '\\' then ['\\', c]
  else if c = '\t' then ['\\', 't']
  else if c = '\n' then ['\\', 'n']
  else if c = '\r' then ['\\', 'r']
  else if showing.shows c then [c]
  else numericEscape c.toNat

/-- Single quotes, unless the text has some and no double quotes. -/
def quoteFor (s : List Char) : Char := if s.contains '\'' && !s.contains '"' then '"' else '\''

def quoted (showing : Showing) (s : List Char) : List Char :=
  let q := quoteFor s
  q :: (s.flatMap (quotedChar showing q) ++ [q])

def quote (s : String) : String := String.ofList (quoted .printable s.toList)

/-- Bytes in quotes behind the letter b. -/
def quotedBytes (bytes : List UInt8) : List Char :=
  'b' :: quoted .ascii (bytes.map fun b => Char.ofNat b.toNat)

end Accounts.Text
