import Accounts.Number.Power

/-!
Double-precision numbers in exact integer arithmetic. A double is its 64 bits; what it stands for is
read off them, sums are formed exactly and rounded to the nearest double, a tie to the even one.
-/
namespace Accounts

/-- A double by its bit pattern: sign, eleven bits of exponent, 52 bits of fraction. -/
structure Double where
  bits : UInt64
  deriving DecidableEq, Repr, Inhabited

/-- What a number stands for. A finite one is `m * 2 ^ e` with a sign, also for zero. -/
inductive Magnitude where
  | undefined
  | infinite (negative : Bool)
  | finite (negative : Bool) (m : Nat) (e : Int)
  deriving DecidableEq, Repr

namespace Double

def infiniteExponent : Nat := 2047
def fractionSize : Nat := twoPow 52
def signBit : Nat := twoPow 63
def leastExponent : Int := -1074

def isNegative (x : Double) : Bool := Nat.ble signBit x.bits.toNat

def magnitude (x : Double) : Magnitude :=
  let exponent := x.bits.toNat / fractionSize % 2048
  let fraction := x.bits.toNat % fractionSize
  if exponent = infiniteExponent then
    if fraction = 0 then .infinite x.isNegative else .undefined
  else if exponent = 0 then .finite x.isNegative fraction leastExponent
  else .finite x.isNegative (fractionSize + fraction) (exponent - 1075)

def nan : Double := ⟨0x7FF8000000000000⟩

def withSign (negative : Bool) (bits : Nat) : Double :=
  ⟨UInt64.ofNat (if negative then signBit + bits else bits)⟩

def infinity (negative : Bool) : Double := withSign negative (infiniteExponent * fractionSize)

def zero : Double := ⟨0⟩

def isNaN (x : Double) : Bool := x.magnitude == .undefined

/-- The quotient rounded to nearest, a tie to the even number. -/
def roundDiv (num den : Nat) : Nat :=
  let q := num / den
  let r := num % den
  if 2 * r < den then q else if den < 2 * r then q + 1 else if q % 2 = 0 then q else q + 1

/-- The bits, without sign, of the double nearest to `m * 2 ^ e`; too large a value is infinite. -/
def nearest (m : Nat) (e : Int) : Nat :=
  if m = 0 then 0
  else
    let e' := max (e + (Nat.log2 m + 1) - 53) leastExponent
    let k := if e' ≤ e then m * twoPow (e - e').toNat else roundDiv m (twoPow (e' - e).toNat)
    if k < fractionSize then k
    else
      min ((e' + 1075).toNat * fractionSize + (k - fractionSize)) (infiniteExponent * fractionSize)

/-- The double nearest to `m * 2 ^ e`, with a sign. -/
def round (negative : Bool) (m : Nat) (e : Int) : Double := withSign negative (nearest m e)

def neg (x : Double) : Double :=
  match x.magnitude with
  | .undefined => x
  | _ => withSign (!x.isNegative) (x.bits.toNat % signBit)

end Double

namespace Magnitude

def signed (negative : Bool) (m : Nat) : Int := if negative then -m else m

def ofInt (n : Int) : Magnitude := .finite (n < 0) n.natAbs 0

/-- Two finite magnitudes as multiples of one power of two. -/
def align (s : Bool) (m : Nat) (e : Int) (t : Bool) (n : Nat) (f : Int) : Int × Int :=
  let g := min e f
  (signed s (m * twoPow (e - g).toNat), signed t (n * twoPow (f - g).toNat))

/-- Strictly less. Nothing compares with an undefined value. -/
def lt : Magnitude → Magnitude → Bool
  | .undefined, _ | _, .undefined => false
  | .infinite s, .infinite t => s && !t
  | .infinite s, .finite .. => s
  | .finite .., .infinite t => !t
  | .finite s m e, .finite t n f => (align s m e t n f).1 < (align s m e t n f).2

/-- Equal as numbers; the two zeros are. -/
def eq : Magnitude → Magnitude → Bool
  | .infinite s, .infinite t => s == t
  | .finite s m e, .finite t n f => (align s m e t n f).1 == (align s m e t n f).2
  | _, _ => false

def le (a b : Magnitude) : Bool := a.lt b || a.eq b

def floor : Magnitude → Option Int
  | .finite s m e =>
    if 0 ≤ e then some (signed s (m * twoPow e.toNat))
    else some (Int.fdiv (signed s m) (twoPow (-e).toNat))
  | _ => none

end Magnitude

namespace Double

open Magnitude

/-- The sum, rounded once. A zero sum is positive unless both terms are negative. -/
def add (x y : Double) : Double :=
  match x.magnitude, y.magnitude with
  | .undefined, _ | _, .undefined => nan
  | .infinite s, .infinite t => if s = t then infinity s else nan
  | .infinite s, .finite .. => infinity s
  | .finite .., .infinite t => infinity t
  | .finite s m e, .finite t n f =>
    let sum := (align s m e t n f).1 + (align s m e t n f).2
    if sum = 0 then withSign (s && t) 0 else round (sum < 0) sum.natAbs (min e f)

def sub (x y : Double) : Double := x.add y.neg

/-- The double nearest to an integer, unless that is infinite. -/
def ofInt? (n : Int) : Option Double :=
  let x := round (n < 0) n.natAbs 0
  match x.magnitude with
  | .finite .. => some x
  | _ => none

end Double

end Accounts
