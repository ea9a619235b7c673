import Accounts.Label.Mapping
import Accounts.Label.Punycode
import Accounts.Label.Rules
import Accounts.Text.Split

/-!
The encoding of labels in ASCII. A strict label is mapped, may fall apart at full stops that the
mapping brings in, and every piece must keep the rules of `Label.check`. A lenient label is mapped
and encoded whatever it contains.
-/
namespace Accounts.Label

def acePrefix : List Char := ['x', 'n', '-', '-']
def labelLimit : Nat := 63
def nameLimit : Nat := 253
def fullStop : Nat := 0x2E

def isAscii (label : List Nat) : Bool := label.all (Nat.blt · 0x80)

def toChars (label : List Nat) : List Char := label.map Char.ofNat

/-- The encoded form of a text, whether it needs one or not. -/
def ace (label : List Nat) : List Char := acePrefix ++ Punycode.encode label

/-- What an encoded label stands for must encode to it and keep the rules. -/
def checkEncoded (tail : List Char) : Except LabelError Unit :=
  if tail = [] ∨ tail.getLast? = some '-' then .error .malformed
  else
    match Punycode.decode? tail with
    | none => .error .malformed
    | some label => if Punycode.encode label = tail then check label else .error .malformed

def checkAscii (label : List Nat) : Except LabelError Unit :=
  let lowered := (toChars label).map Char.toLower
  if acePrefix.isPrefixOf lowered then checkEncoded (lowered.drop acePrefix.length)
  else check (lowered.map Char.toNat)

def encodePiece (label : List Nat) : Except LabelError (List Char) :=
  match if isAscii label then checkAscii label else check label with
  | .error e => .error e
  | .ok () =>
    let encoded := if isAscii label then toChars label else ace label
    if labelLimit < encoded.length then .error .malformed else .ok encoded

/-- The pieces from left to right. An empty one is only allowed at the end, as a trailing dot. -/
def encodePieces : List (List Nat) → Except LabelError (List (List Char))
  | [] => .ok []
  | [[]] => .ok [[]]
  | label :: rest =>
    match encodePiece label with
    | .error e => .error e
    | .ok encoded =>
      match encodePieces rest with
      | .error e => .error e
      | .ok pieces => .ok (encoded :: pieces)

def encodeStrict (label : List Nat) : Except LabelError (List Char) :=
  match map label with
  | .error e => .error e
  | .ok mapped =>
    if mapped = [] ∨ nameLimit + 1 < mapped.length then .error .malformed
    else
      match encodePieces (Text.splitOn fullStop mapped) with
      | .error e => .error e
      | .ok pieces =>
        let name := Text.joinWith '.' pieces
        let limit := if pieces.getLast? = some [] then nameLimit + 1 else nameLimit
        if limit < name.length then .error .malformed else .ok name

def encodeLenient (label : List Nat) : Except LabelError (List Char) :=
  match map label with
  | .error e => .error e
  | .ok mapped => .ok (if isAscii mapped then toChars mapped else ace mapped)

end Accounts.Label
