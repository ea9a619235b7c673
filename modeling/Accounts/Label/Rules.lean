import Accounts.Label.Direction
import Accounts.Label.Error
import Accounts.Label.Joining
import Accounts.Label.Nameless
import Accounts.Label.Permitted
import Accounts.Label.Script
import Accounts.Text.Mark
import Accounts.Text.Normal

/-!
What a label must look like to be encoded: its length, its normal form, its hyphens, its first
code point, every code point in its context, and the directions of writing.
-/
namespace Accounts.Label

open Text.Normal (combiningClass viramaClass composed)

/-! ## Joiners -/

def nonJoiner : Nat := 0x200C
def joiner : Nat := 0x200D

/-- The nearest code point that joining does not look through. -/
def joiningNeighbour (cs : List Nat) : Option Nat :=
  cs.find? fun c => !Joining.transparent.contains c

def joinsRight (c : Nat) : Bool := Joining.leftJoining.contains c || Joining.dualJoining.contains c
def joinsLeft (c : Nat) : Bool := Joining.rightJoining.contains c || Joining.dualJoining.contains c

/-- A non-joiner may separate two letters that would join. `before` is read backwards. -/
def separatesJoining (before after : List Nat) : Bool :=
  (joiningNeighbour before).any joinsRight && (joiningNeighbour after).any joinsLeft

/-- Both joiners may follow a virama, and a non-joiner may stand where letters would join. The
combining class of a code point without a name cannot be relied on, so a joiner behind it is
malformed. -/
def checkJoiner (before : List Nat) (c : Nat) (after : List Nat) : Except LabelError Unit :=
  match before with
  | [] => .error .context
  | p :: _ =>
    if combiningClass p = viramaClass then .ok ()
    else if combiningClass p = 0 ∧ isNameless p then .error .malformed
    else if c = nonJoiner ∧ separatesJoining before after then .ok ()
    else .error .context

/-! ## Punctuation and digits in context -/

def isArabicDigit (c : Nat) : Bool := Nat.ble 0x660 c && Nat.ble c 0x669
def isExtendedArabicDigit (c : Nat) : Bool := Nat.ble 0x6F0 c && Nat.ble c 0x6F9
def katakanaDot : Nat := 0x30FB

def isJapanese (c : Nat) : Bool :=
  Script.hiragana.contains c || Script.katakana.contains c || Script.han.contains c

/-- Code points that are allowed in some contexts only, the joiners apart. -/
def isContextual (c : Nat) : Bool :=
  c == 0xB7 || c == 0x375 || c == 0x5F3 || c == 0x5F4 || c == katakanaDot ||
    isArabicDigit c || isExtendedArabicDigit c

/-- The middle dot stands between two letters l, the Greek numeral sign before a Greek letter, the
Hebrew marks after a Hebrew letter, the katakana dot with a Japanese character anywhere; Arabic
digits of the two kinds do not mix. -/
def contextHolds (label before : List Nat) (c : Nat) (after : List Nat) : Bool :=
  if c = 0xB7 then before.head? == some 0x6C && after.head? == some 0x6C
  else if c = 0x375 then after.head?.any Script.greek.contains
  else if c = 0x5F3 ∨ c = 0x5F4 then before.head?.any Script.hebrew.contains
  else if c = katakanaDot then label.any fun d => d != katakanaDot && isJapanese d
  else if isArabicDigit c then !label.any isExtendedArabicDigit
  else !label.any isArabicDigit

/-- One code point, with what stands before it (backwards) and after it. -/
def checkCodePoint (label before : List Nat) (c : Nat) (after : List Nat) :
    Except LabelError Unit :=
  if Permitted.isPermitted c then .ok ()
  else if c = nonJoiner ∨ c = joiner then checkJoiner before c after
  else if isContextual c then
    if contextHolds label before c after then .ok () else .error .context
  else .error .disallowed

/-- The code points from left to right; the first fault counts. -/
def checkCodePoints (label before : List Nat) : List Nat → Except LabelError Unit
  | [] => .ok ()
  | c :: after =>
    match checkCodePoint label before c after with
    | .ok () => checkCodePoints label (c :: before) after
    | .error e => .error e

/-! ## Directions -/

namespace Direction

def isRightward : Direction → Bool
  | .right | .arabic | .arabicNumber => true
  | _ => false

/-- May end a label that runs right to left, marks after it apart. -/
def endsRight : Direction → Bool
  | .right | .arabic | .europeanNumber | .arabicNumber => true
  | _ => false

/-- May end a label that runs left to right, marks after it apart. -/
def endsLeft : Direction → Bool
  | .left | .europeanNumber => true
  | _ => false

/-- The last direction that is not a mark's passes the test. -/
def endsWith (ok : Direction → Bool) (ds : List Direction) : Bool :=
  (ds.reverse.find? (· != .mark)).any ok

/-- A label that runs right to left has no left-to-right letter and numbers of one kind. -/
def rightLabel (ds : List Direction) : Bool :=
  ds.all (· != .left) && endsWith endsRight ds &&
    !(ds.contains .arabicNumber && ds.contains .europeanNumber)

/-- A label that runs left to right has no right-to-left letter. -/
def leftLabel (ds : List Direction) : Bool :=
  !ds.any isRightward && endsWith endsLeft ds

/-- Every direction is on record, and a label with anything that runs right to left starts with a
letter and keeps to its direction. -/
def consistent (ds : List Direction) : Bool :=
  !ds.contains .unknown &&
    (!ds.any isRightward ||
      match ds.head? with
      | some .right | some .arabic => rightLabel ds
      | some .left => leftLabel ds
      | _ => false)

end Direction

/-! ## The whole label -/

def hyphen : Nat := 0x2D
def checkLimit : Nat := 254

/-- Hyphens third and fourth are kept for encoded labels, and none stands at an end. -/
def hyphensMisplaced (label : List Nat) : Bool :=
  (label.drop 2).take 2 == [hyphen, hyphen] ||
    label.head? == some hyphen || label.getLast? == some hyphen

/-- The rules for a label, in the order in which their faults are reported. -/
def check (label : List Nat) : Except LabelError Unit :=
  if label = [] ∨ checkLimit < label.length then .error .malformed
  else if composed label ≠ label then .error .malformed
  else if hyphensMisplaced label then .error .malformed
  else if label.head?.any Text.isMark then .error .malformed
  else
    match checkCodePoints label [] label with
    | .error e => .error e
    | .ok () =>
      if Direction.consistent (label.map Direction.ofCodePoint) then .ok () else .error .direction

end Accounts.Label
