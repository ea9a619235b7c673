import Accounts.Text.Normal.CombiningClass
import Accounts.Text.Normal.Decomposition

/-!
The composed normal form of a text, as a function on code points: every code point is taken apart,
the marks after a starter are put in the order of their classes, and what fits together is
composed again.
-/
namespace Accounts.Text.Normal

/-! Hangul syllables follow from arithmetic on the parts: 19 leading consonants, 21 vowels and
27 trailing consonants, where trailing part 0 is none. -/

def leadBase : Nat := 0x1100
def vowelBase : Nat := 0x1161
def trailBase : Nat := 0x11A7
def syllableBase : Nat := 0xAC00
def leadCount : Nat := 19
def vowelCount : Nat := 21
def trailCount : Nat := 28
def syllableCount : Nat := leadCount * vowelCount * trailCount

def isSyllable (c : Nat) : Bool :=
  Nat.ble syllableBase c && Nat.blt c (syllableBase + syllableCount)

/-- The two or three parts of a syllable. -/
def syllableParts (c : Nat) : List Nat :=
  let i := c - syllableBase
  let lead := leadBase + i / (vowelCount * trailCount)
  let vowel := vowelBase + i % (vowelCount * trailCount) / trailCount
  if i % trailCount = 0 then [lead, vowel] else [lead, vowel, trailBase + i % trailCount]

/-- A lead and a vowel make a syllable, and so do a syllable without a trail and a trail. -/
def joinParts (a b : Nat) : Option Nat :=
  if leadBase ≤ a ∧ a < leadBase + leadCount ∧ vowelBase ≤ b ∧ b < vowelBase + vowelCount then
    some (syllableBase + ((a - leadBase) * vowelCount + (b - vowelBase)) * trailCount)
  else if isSyllable a ∧ (a - syllableBase) % trailCount = 0 ∧
      trailBase < b ∧ b < trailBase + trailCount then
    some (a + (b - trailBase))
  else none

/-- One step of taking apart. Nothing below U+00C0 has parts. -/
def parts (c : Nat) : List Nat :=
  if c < 0xC0 then [c]
  else if isSyllable c then syllableParts c
  else
    match pairs.find? fun r => Nat.beq r.1 c with
    | some (_, a, b) => [a, b]
    | none =>
      match equivalents.find? fun r => Nat.beq r.1 c with
      | some (_, d) => [d]
      | none => [c]

/-- Taking apart, `depth` times over. -/
def decomposeTo : Nat → Nat → List Nat
  | 0, c => [c]
  | depth + 1, c => (parts c).flatMap (decomposeTo depth)

/-- Taking apart as far as possible: no code point needs more than four steps. -/
def decompose (c : Nat) : List Nat := decomposeTo 4 c

/-- Put a code point before an ordered tail; it moves behind marks of a lower class. -/
def insertOrdered (c : Nat) : List Nat → List Nat
  | [] => [c]
  | d :: ds =>
    if combiningClass d ≠ 0 ∧ combiningClass d < combiningClass c then d :: insertOrdered c ds
    else c :: d :: ds

/-- Marks between two starters in ascending order of class, equal classes as they were. -/
def reorder (cs : List Nat) : List Nat := cs.foldr insertOrdered []

/-- The code point that two compose to. Nothing below U+0300 is a second part. -/
def composePair (a b : Nat) : Option Nat :=
  if b < 0x300 then none
  else
    match joinParts a b with
    | some c => some c
    | none =>
      (pairs.find? fun r => Nat.beq r.2.1 a && Nat.beq r.2.2 b && !excluded.contains r.1).map (·.1)

/-- Compose onto `starter`. The marks seen since then wait, last first; a mark of the same or a
higher class that waits keeps a code point from the starter. -/
def composeFrom (starter : Nat) (waiting : List Nat) : List Nat → List Nat
  | [] => starter :: waiting.reverse
  | c :: cs =>
    let blocked := match waiting with
      | [] => false
      | d :: _ => Nat.ble (combiningClass c) (combiningClass d)
    match if blocked then none else composePair starter c with
    | some whole => composeFrom whole waiting cs
    | none =>
      if combiningClass c = 0 then starter :: (waiting.reverse ++ composeFrom c [] cs)
      else composeFrom starter (c :: waiting) cs

def compose : List Nat → List Nat
  | [] => []
  | c :: cs => composeFrom c [] cs

def composed (cs : List Nat) : List Nat := compose (reorder (cs.flatMap decompose))

@[simp] theorem composed_nil : composed [] = [] := rfl

end Accounts.Text.Normal
