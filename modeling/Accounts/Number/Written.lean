import Accounts.Number.Digits

/-!
How doubles are written: the shortest form, and the forms with a fixed number of digits.
-/
namespace Accounts.Written

open Digits (Placed)

def nanText : List Char := ['n', 'a', 'n']
def infinityText : List Char := ['i', 'n', 'f']

def minus (negative : Bool) (body : List Char) : List Char := if negative then '-' :: body else body

/-- Digits in front of the point, filled up with zeros, and digits behind it. -/
def positional (p : Placed) : List Char × List Char :=
  if p.point ≤ 0 then (['0'], List.replicate (-p.point).toNat '0' ++ p.digits)
  else
    let before := p.point.toNat
    (p.digits.take before ++ List.replicate (before - p.digits.length) '0', p.digits.drop before)

/-- An exponent has a sign and at least two digits. -/
def exponentPart (e : Int) : List Char :=
  'e' :: (if e < 0 then '-' else '+') :: Text.zeroPad 2 (Text.decimal e.natAbs)

/-- One digit, the others behind a point, and the exponent. -/
def scientific (p : Placed) (point : Bool) : List Char :=
  p.digits.take 1 ++ (if point then ['.'] else []) ++ p.digits.drop 1 ++ exponentPart (p.point - 1)

/-- The shortest form: positional from 0.0001 up to below 10 ^ 16, always with a fraction there, and
scientific elsewhere. -/
def shortestForm (p : Placed) : List Char :=
  if -4 < p.point ∧ p.point ≤ 16 then
    let (whole, frac) := positional p
    whole ++ '.' :: (if frac = [] then ['0'] else frac)
  else scientific p (1 < p.digits.length)

def shortest (x : Double) : List Char :=
  match x.magnitude with
  | .undefined => nanText
  | .infinite s => minus s infinityText
  | .finite s 0 _ => minus s ['0', '.', '0']
  | .finite s m e => minus s (shortestForm (Digits.shortest m e))

/-! ## Fixed numbers of digits -/

def ratio (m : Nat) (e : Int) : Nat × Nat := (m * twoPow e.toNat, twoPow (-e).toNat)

/-- The point is left out when nothing follows it, unless it is asked for. -/
def withFraction (point : Bool) (whole frac : List Char) : List Char :=
  if frac = [] ∧ !point then whole else whole ++ '.' :: frac

/-- `places` digits behind the point. -/
def fixed (point : Bool) (places m : Nat) (e : Int) : List Char :=
  let (n, d) := ratio m e
  let digits := Text.zeroPad (places + 1) (Text.decimal (Double.roundDiv (n * tenPow places) d))
  let before := digits.length - places
  withFraction point (digits.take before) (digits.drop before)

/-- `count` significant digits; zero has its point behind the first. -/
def placed (count m : Nat) (e : Int) : Placed :=
  if m = 0 then { digits := List.replicate count '0', point := 1 }
  else
    let (n, d) := ratio m e
    Digits.significant count n d

/-- One digit, `places` digits behind the point, and an exponent. -/
def exponential (point : Bool) (places m : Nat) (e : Int) : List Char :=
  scientific (placed (places + 1) m e) (point || 0 < places)

/-- `count` significant digits, positional where the exponent is between -4 and `count`. Zeros at
the end go, unless the point is asked for. -/
def general (point : Bool) (count m : Nat) (e : Int) : List Char :=
  let p := placed count m e
  let q : Placed := if point then p else
    { p with digits := match Digits.trimZeros p.digits with | [] => ['0'] | ds => ds }
  if -4 < p.point ∧ p.point ≤ count then
    let (whole, frac) := positional q
    withFraction point whole frac
  else scientific q (point || 1 < q.digits.length)

end Accounts.Written
