import Accounts.Label.Encoding
import Accounts.Text.Blank

/-!
Mail addresses. An address is a local part, an at sign, and a host of exactly two labels; both parts
are encoded in ASCII before their characters are looked at. Only the form is checked, never whether
the host exists.
-/
namespace Accounts.Address

/-- How labels are encoded: strictly as in host names, or leniently as in local parts. -/
inductive Mode where
  | strict | lenient
  deriving DecidableEq, Repr

/-! ## Encoding -/

def isAsciiChar (c : Char) : Bool := Nat.blt c.toNat 0x80

/-- An ASCII label stays as it is. -/
def encodeLabel (mode : Mode) (label : List Char) : Except LabelError (List Char) :=
  if label.all isAsciiChar then .ok label
  else
    match mode with
    | .strict => Label.encodeStrict (label.map Char.toNat)
    | .lenient => Label.encodeLenient (label.map Char.toNat)

/-- Labels from left to right; the first one that cannot be encoded gives the error. -/
def encodeLabels (mode : Mode) : List (List Char) → Except LabelError (List (List Char))
  | [] => .ok []
  | label :: rest =>
    match encodeLabel mode label with
    | .error e => .error e
    | .ok encoded =>
      match encodeLabels mode rest with
      | .error e => .error e
      | .ok labels => .ok (encoded :: labels)

/-- The encoded form of a dotted text. -/
def encode (mode : Mode) (text : List Char) : Except LabelError (List Char) :=
  match encodeLabels mode (Text.splitOn '.' text) with
  | .error e => .error e
  | .ok labels => .ok (Text.joinWith '.' labels)

def toAscii (text : String) (mode : Mode) : Except LabelError String :=
  match encode mode text.toList with
  | .error e => .error e
  | .ok cs => .ok (String.ofList cs)

/-! ## The two parts -/

def localLimit : Nat := 64
def domainLimit : Nat := 255
def extensionLimit : Nat := 24

/-- Between one and `limit` characters. -/
def hasLength (limit : Nat) (text : List Char) : Bool := !text.isEmpty && Nat.ble text.length limit

/-- Characters of an encoded local part, the dot apart. -/
def isAtomChar (c : Char) : Bool :=
  c.isAlphanum || ['!', '#', '$', '%', '&', '\'', '*', '+', '/', '=', '?', '^', '_', '\x60', '\x7b',
    '|', '\x7d', '~', '-'].contains c

def hasDoubleDot : List Char → Bool
  | '.' :: '.' :: _ => true
  | _ :: cs => hasDoubleDot cs
  | [] => false

/-- An encoded local part has no dot at an end, no two dots together, and no strange character. -/
def isLocalPart (text : List Char) : Bool :=
  text.head? != some '.' && text.getLast? != some '.' && !hasDoubleDot text &&
    !text.isEmpty && text.all fun c => isAtomChar c || c == '.'

/-- An encoded host has no blank and a dot that is neither first nor last. -/
def isHost (text : List Char) : Bool :=
  text.all (fun c => !Text.isBlank c) && text.tail.dropLast.contains '.'

/-! ## The whole address -/

/-- The parts around the only at sign. -/
def parts? (text : List Char) : Option (List Char × List Char) :=
  match Text.splitOn '@' text with
  | [localPart, host] => some (localPart, host)
  | _ => none

/-- The labels around the only dot. -/
def labels? (host : List Char) : Option (List Char × List Char) :=
  match Text.splitOn '.' host with
  | [domain, extension] => some (domain, extension)
  | _ => none

/-- The raw parts are within their limits. -/
def fits (localPart host : List Char) : Bool :=
  hasLength localLimit localPart &&
    match labels? host with
    | some (domain, extension) => hasLength domainLimit domain && hasLength extensionLimit extension
    | none => false

/-- A well-formed address, as a list of characters. -/
def accepts (text : List Char) : Bool :=
  match parts? text with
  | none => false
  | some (localPart, host) =>
    fits localPart host &&
      match encode .lenient localPart, encode .strict host with
      | .ok l, .ok h => isLocalPart l && isHost h
      | _, _ => false

def isEmail (text : String) : Bool := accepts text.toList

end Accounts.Address
