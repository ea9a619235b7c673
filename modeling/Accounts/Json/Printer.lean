import Accounts.Json.Value

/-!
JSON in one line of printable ASCII: a blank follows each comma and colon, and every character that
is not printable ASCII is written as an escape.
-/
namespace Accounts.Json

/-- The escape of one UTF-16 unit. -/
def unitEscape (n : Nat) : List Char := '\\' :: 'u' :: Text.hex4 n

/-- A code point above U+FFFF takes two units. -/
def pairEscape (c : Nat) : List Char :=
  let v := c - 0x10000
  unitEscape (0xD800 + v / 0x400) ++ unitEscape (0xDC00 + v % 0x400)

def escape (c : Nat) : List Char :=
  if c = 0x22 then ['\\', '"']
  else if c = 0x5C then ['\\', '\\']
  else if c = 0x08 then ['\\', 'b']
  else if c = 0x09 then ['\\', 't']
  else if c = 0x0A then ['\\', 'n']
  else if c = 0x0C then ['\\', 'f']
  else if c = 0x0D then ['\\', 'r']
  else if 0x20 ≤ c ∧ c ≤ 0x7E then [Char.ofNat c]
  else if c < 0x10000 then unitEscape c
  else pairEscape c

def quote (codePoints : List Nat) : List Char :=
  '"' :: codePoints.flatMap escape ++ ['"']

mutual

def print : Json → List Char
  | .null => ['n', 'u', 'l', 'l']
  | .bool true => ['t', 'r', 'u', 'e']
  | .bool false => ['f', 'a', 'l', 's', 'e']
  | .number written => written
  | .text cs => quote cs
  | .array items => '[' :: printItems items ++ [']']
  | .object members => '\x7b' :: printMembers members ++ ['\x7d']

def printItems : List Json → List Char
  | [] => []
  | [item] => print item
  | item :: items => print item ++ ',' :: ' ' :: printItems items

def printMembers : List (List Nat × Json) → List Char
  | [] => []
  | [(name, value)] => quote name ++ ':' :: ' ' :: print value
  | (name, value) :: members =>
    quote name ++ ':' :: ' ' :: (print value ++ ',' :: ' ' :: printMembers members)

end

def render (j : Json) : String := String.ofList j.print

end Accounts.Json
