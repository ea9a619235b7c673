/-!
Punycode writes any list of code points in ASCII: first the ASCII ones as they stand, then, after
a hyphen, where the others go. The others are put in one at a time, lowest code point first and
from left to right. The distance from one place to the next, counted over all code points and
all places, is a number, and the numbers are written in digits of base 36 whose thresholds
follow the numbers seen so far.

Encoding goes through three layers, each undone by its counterpart in `decode?`: the placements,
their distances, and the digits of the distances.
-/
namespace Accounts.Label.Punycode

def basicLimit : Nat := 0x80
def initialBias : Nat := 72

/-! ## Placements -/

/-- Insert into an ascending list unless it is there. -/
def insertAscending (c : Nat) : List Nat → List Nat
  | [] => [c]
  | d :: ds => if c < d then c :: d :: ds else if c = d then d :: ds else d :: insertAscending c ds

/-- The code points that are not ASCII, ascending and each once. -/
def extended (text : List Nat) : List Nat :=
  (text.filter (basicLimit ≤ ·)).foldr insertAscending []

/-- Where the occurrences of `m` go, when everything below `m` is in place already. `seen` counts
what is in place to the left. -/
def places (m : Nat) : Nat → List Nat → List Nat
  | _, [] => []
  | seen, c :: cs =>
    if c < m then places m (seen + 1) cs
    else if c = m then seen :: places m (seen + 1) cs
    else places m seen cs

/-- Every code point to put in, with its place at that time. -/
def placements (text : List Nat) : List (Nat × Nat) :=
  (extended text).flatMap fun m => (places m 0 text).map (m, ·)

/-! ## Distances -/

/-- How far each placement is from the one before. Of a list of `length` code points there are
`length + 1` places for each code point; the last placement was of `m`, just before place `i`. -/
def distances (length m i : Nat) : List (Nat × Nat) → List Nat
  | [] => []
  | (m', i') :: rest =>
    ((m' - m) * (length + 1) + i' - i) :: distances (length + 1) m' (i' + 1) rest

/-! ## Digits -/

/-- A letter for 0 to 25 and a decimal digit for 26 to 35. -/
def digitChar (d : Nat) : Char := if d < 26 then Char.ofNat (0x61 + d) else Char.ofNat (0x16 + d)

def digitValue (c : Char) : Option Nat :=
  let n := c.toNat
  if 0x61 ≤ n ∧ n ≤ 0x7A then some (n - 0x61)
  else if 0x41 ≤ n ∧ n ≤ 0x5A then some (n - 0x41)
  else if 0x30 ≤ n ∧ n ≤ 0x39 then some (n - 0x16)
  else none

theorem digitValue_digitChar {d : Nat} (h : d < 36) : digitValue (digitChar d) = some d := by
  have all : ∀ e < 36, digitValue (digitChar e) = some e := by decide
  exact all d h

/-- A digit below the threshold ends a number; `k` grows by 36 with each digit. -/
def threshold (k bias : Nat) : Nat :=
  if k ≤ bias then 1 else if bias + 26 ≤ k then 26 else k - bias

theorem threshold_pos (k bias : Nat) : 1 ≤ threshold k bias := by
  unfold threshold; split
  · omega
  · split <;> omega

theorem threshold_le (k bias : Nat) : threshold k bias ≤ 26 := by
  unfold threshold; split
  · omega
  · split <;> omega

/-- Divide by 35 until at most 455 is left. The divisions count 36 each. -/
def scaleDown (delta count : Nat) : Nat × Nat :=
  if 455 < delta then scaleDown (delta / 35) (count + 36) else (delta, count)
termination_by delta
decreasing_by omega

/-- The bias after a distance, when `length` code points are in place. -/
def adapt (delta : Nat) (first : Bool) (length : Nat) : Nat :=
  let damped := if first then delta / 700 else delta / 2
  let scaled := scaleDown (damped + damped / length) 0
  scaled.2 + 36 * scaled.1 / (scaled.1 + 38)

/-- The digits of a number, lowest first. -/
def digits (bias k q : Nat) : List Char :=
  let t := threshold k bias
  if q < t then [digitChar q]
  else digitChar (t + (q - t) % (36 - t)) :: digits bias (k + 36) ((q - t) / (36 - t))
termination_by q
decreasing_by
  have := threshold_pos k bias
  have := Nat.div_le_self (q - threshold k bias) (36 - threshold k bias)
  omega

/-- The digits of all distances, the bias following them. -/
def allDigits (length bias : Nat) (first : Bool) : List Nat → List Char
  | [] => []
  | d :: ds => digits bias 36 d ++ allDigits (length + 1) (adapt d first (length + 1)) false ds

/-! ## Encoding and decoding -/

def basic (text : List Nat) : List Nat := text.filter (· < basicLimit)

/-- The part after the hyphen. -/
def tail (text : List Nat) : List Char :=
  allDigits (basic text).length initialBias true
    (distances (basic text).length basicLimit 0 (placements text))

/-- The hyphen is there only when something stands before it. -/
def encode (text : List Nat) : List Char :=
  match basic text with
  | [] => tail text
  | bs => bs.map Char.ofNat ++ '-' :: tail text

/-- How far reading the digits has come: what is in place, the last code point put in and the
place after it, and the number whose digits are being read. -/
structure Progress where
  out : List Nat
  codePoint : Nat := basicLimit
  place : Nat := 0
  bias : Nat := initialBias
  first : Bool := true
  value : Nat := 0
  weight : Nat := 1
  k : Nat := 36

/-- A number has been read: put its code point in. -/
def Progress.insert (p : Progress) (delta : Nat) : Option Progress :=
  let reached := p.place + delta
  let length := p.out.length + 1
  let c := p.codePoint + reached / length
  if c ≤ 0x10FFFF then
    some { out := p.out.insertIdx (reached % length) c, codePoint := c,
           place := reached % length + 1, bias := adapt delta p.first length, first := false }
  else none

def Progress.read (p : Progress) (c : Char) : Option Progress :=
  match digitValue c with
  | none => none
  | some d =>
    let t := threshold p.k p.bias
    if d < t then p.insert (p.value + d * p.weight)
    else
      some { p with
        value := p.value + d * p.weight
        weight := p.weight * (36 - t)
        k := p.k + 36 }

/-- Split at the last hyphen. Without one, everything is digits. -/
def splitLast (text : List Char) : List Char × List Char :=
  match text.reverse.span (· ≠ '-') with
  | (after, []) => ([], after.reverse)
  | (after, _ :: before) => (before.reverse, after.reverse)

/-- The text that a list of characters stands for, unless a character is no digit, the last number
breaks off, or a code point is too large. -/
def decode? (text : List Char) : Option (List Nat) :=
  let (before, after) := splitLast text
  match after.foldlM Progress.read { out := before.map Char.toNat } with
  | some p => if p.k = 36 then some p.out else none
  | none => none

end Accounts.Label.Punycode
