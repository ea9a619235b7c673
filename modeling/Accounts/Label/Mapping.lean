import Accounts.Label.Error
import Accounts.Label.Mapping.Disallowed
import Accounts.Label.Mapping.Several
import Accounts.Label.Mapping.Single
import Accounts.Text.Normal

/-!
Mapping of a label: upper case and compatibility forms are replaced, some code points are dropped,
and the result is brought into composed normal form.
-/
namespace Accounts.Label

namespace Mapping

/-- Every code point with one replacement that is in no run. -/
def Single.table : List (Nat × Nat) := alphabets ++ symbols ++ presentations ++ supplementary

/-- Every code point with several replacements. -/
def Several.table : List (Nat × List Nat) := letters ++ symbols ++ presentations

def Single.run (c : Nat) : Option (Nat × Nat × Nat × Nat) :=
  runs.find? fun r => Nat.ble r.1 c && Nat.ble c r.2.1 && Nat.beq ((c - r.1) % r.2.2.1) 0

end Mapping

open Mapping

/-- What replaces a code point; nothing if it is disallowed. Of ASCII only the capitals change. -/
def mapCodePoint (c : Nat) : Option (List Nat) :=
  if c < 0x80 then some [if 0x41 ≤ c ∧ c ≤ 0x5A then c + 0x20 else c]
  else if Disallowed.isDisallowed c then none
  else if Several.ignored.contains c then some []
  else
    match Several.table.lookup c with
    | some cs => some cs
    | none =>
      match Single.run c with
      | some (first, _, _, image) => some [image + (c - first)]
      | none =>
        match Single.table.lookup c with
        | some d => some [d]
        | none => some [c]

def mapAll : List Nat → Option (List Nat)
  | [] => some []
  | c :: cs =>
    match mapCodePoint c, mapAll cs with
    | some ds, some es => some (ds ++ es)
    | _, _ => none

def mapLimit : Nat := 1024

/-- The mapped form of a text of at most `mapLimit` code points. -/
def map (text : List Nat) : Except LabelError (List Nat) :=
  if mapLimit < text.length then .error .malformed
  else
    match mapAll text with
    | some mapped => .ok (Text.Normal.composed mapped)
    | none => .error .disallowed

end Accounts.Label
