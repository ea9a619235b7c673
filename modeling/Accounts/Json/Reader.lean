import Accounts.Json.Value

/-!
Reading JSON. The reader works on a list of characters and gives back what it leaves. Nesting is
bounded by a depth that the length of the text provides. Beyond the grammar it takes the words that
the log writes for doubles that are not finite.
-/
namespace Accounts.Json

namespace Reader

def isSpace (c : Char) : Bool := c == ' ' || c == '\t' || c == '\n' || c == '\r'

def skipSpace (s : List Char) : List Char := s.dropWhile isSpace

/-- Drop a given beginning. -/
def expect : List Char → List Char → Option (List Char)
  | [], s => some s
  | c :: cs, d :: s => if c = d then expect cs s else none
  | _ :: _, [] => none

/-! ## Numbers -/

/-- A run of digits and the rest. -/
def digitRun (s : List Char) : List Char × List Char := s.span Char.isDigit

def someDigits (s : List Char) : Option (List Char × List Char) :=
  match digitRun s with
  | ([], _) => none
  | r => some r

/-- Digits without a superfluous zero in front. -/
def wholePart (s : List Char) : Option (List Char × List Char) :=
  match s with
  | '0' :: rest => some (['0'], rest)
  | _ => someDigits s

def fraction (s : List Char) : Option (List Char × List Char) :=
  match s with
  | '.' :: rest => (someDigits rest).map fun r => ('.' :: r.1, r.2)
  | _ => some ([], s)

def exponentSign : List Char → List Char × List Char
  | '+' :: rest => (['+'], rest)
  | '-' :: rest => (['-'], rest)
  | s => ([], s)

def exponent (s : List Char) : Option (List Char × List Char) :=
  match s with
  | [] => some ([], [])
  | c :: rest =>
    if c = 'e' ∨ c = 'E' then
      let (sign, rest') := exponentSign rest
      (someDigits rest').map fun r => (c :: (sign ++ r.1), r.2)
    else some ([], s)

def unsigned (s : List Char) : Option (List Char × List Char) :=
  match wholePart s with
  | none => none
  | some (w, s) =>
    match fraction s with
    | none => none
    | some (f, s) =>
      match exponent s with
      | none => none
      | some (e, s) => some (w ++ (f ++ e), s)

def word (w s : List Char) : Option (List Char × List Char) := (expect w s).map fun r => (w, r)

def infinityWord : List Char := "Infinity".toList
def nanWord : List Char := ['N', 'a', 'N']

/-- A size is a number without its sign, or infinite. -/
def size (s : List Char) : Option (List Char × List Char) :=
  match s with
  | 'I' :: _ => word infinityWord s
  | _ => unsigned s

/-- A number as JSON has it, or one of the words for doubles that are none. -/
def number (s : List Char) : Option (List Char × List Char) :=
  match s with
  | '-' :: rest => (size rest).map fun r => ('-' :: r.1, r.2)
  | 'N' :: _ => word nanWord s
  | _ => size s

/-! ## Strings -/

/-- The code point that a one-letter escape stands for. -/
def shortEscape (c : Char) : Option Nat :=
  match c with
  | '"' => some 0x22
  | '\\' => some 0x5C
  | '/' => some 0x2F
  | 'b' => some 0x08
  | 'f' => some 0x0C
  | 'n' => some 0x0A
  | 'r' => some 0x0D
  | 't' => some 0x09
  | _ => none

/-- A high surrogate in front of a low one makes one code point with it. -/
def joinSurrogates (unit : Nat) : List Nat → List Nat
  | low :: rest =>
    if 0xD800 ≤ unit ∧ unit < 0xDC00 ∧ 0xDC00 ≤ low ∧ low < 0xE000 then
      (0x10000 + (unit - 0xD800) * 0x400 + (low - 0xDC00)) :: rest
    else unit :: low :: rest
  | [] => [unit]

/-- The inside of a string up to its closing quote. -/
def stringBody : List Char → Option (List Nat × List Char)
  | [] => none
  | '"' :: rest => some ([], rest)
  | '\\' :: 'u' :: a :: b :: c :: d :: rest =>
    match Text.ofHex? [a, b, c, d], stringBody rest with
    | some unit, some (cs, after) => some (joinSurrogates unit cs, after)
    | _, _ => none
  | '\\' :: e :: rest =>
    match shortEscape e, stringBody rest with
    | some c, some (cs, after) => some (c :: cs, after)
    | _, _ => none
  | c :: rest =>
    if c.toNat < 0x20 ∨ c = '\\' then none
    else
      match stringBody rest with
      | some (cs, after) => some (c.toNat :: cs, after)
      | none => none

/-! ## Values -/

mutual

def value : Nat → List Char → Option (Json × List Char)
  | 0, _ => none
  | depth + 1, s =>
    match s with
    | 'n' :: _ => (expect ['n', 'u', 'l', 'l'] s).map fun r => (.null, r)
    | 't' :: _ => (expect ['t', 'r', 'u', 'e'] s).map fun r => (.bool true, r)
    | 'f' :: _ => (expect ['f', 'a', 'l', 's', 'e'] s).map fun r => (.bool false, r)
    | '"' :: rest => (stringBody rest).map fun r => (.text r.1, r.2)
    | '[' :: rest =>
      match skipSpace rest with
      | ']' :: rest' => some (.array [], rest')
      | rest' => (items depth rest').map fun r => (.array r.1, r.2)
    | '\x7b' :: rest =>
      match skipSpace rest with
      | '\x7d' :: rest' => some (.object [], rest')
      | rest' => (members depth rest').map fun r => (.object r.1, r.2)
    | _ => (number s).map fun r => (.number r.1, r.2)

/-- One or more items up to the closing bracket. -/
def items : Nat → List Char → Option (List Json × List Char)
  | 0, _ => none
  | depth + 1, s =>
    match value depth s with
    | none => none
    | some (item, rest) =>
      match skipSpace rest with
      | ',' :: rest' => (items depth (skipSpace rest')).map fun r => (item :: r.1, r.2)
      | ']' :: rest' => some ([item], rest')
      | _ => none

/-- One or more members up to the closing brace. -/
def members : Nat → List Char → Option (List (List Nat × Json) × List Char)
  | 0, _ => none
  | depth + 1, s =>
    match s with
    | '"' :: rest =>
      match stringBody rest with
      | none => none
      | some (name, rest) =>
        match skipSpace rest with
        | ':' :: rest =>
          match value depth (skipSpace rest) with
          | none => none
          | some (item, rest) =>
            match skipSpace rest with
            | ',' :: rest' =>
              (members depth (skipSpace rest')).map fun r => ((name, item) :: r.1, r.2)
            | '\x7d' :: rest' => some ([(name, item)], rest')
            | _ => none
        | _ => none
    | _ => none

end

end Reader

/-- The value that a text stands for, if it is well-formed. -/
def parse? (s : List Char) : Option Json :=
  match Reader.value (2 * s.length + 2) (Reader.skipSpace s) with
  | some (j, rest) => if Reader.skipSpace rest = [] then some j else none
  | none => none

end Accounts.Json
