import Accounts.Number.Double
import Accounts.Text.Numeral

/-!
Decimal digits of a positive number `n / d`: the shortest ones that read back as a given double,
and a given count of them, rounded to nearest with ties to even.
-/
namespace Accounts.Digits

/-- Digits with the place of the decimal point: `0.d₁d₂… * 10 ^ point`. -/
structure Placed where
  digits : List Char
  point : Int
  deriving DecidableEq, Repr

/-- More decimal places than the smallest double has leading zeros. -/
def manyPlaces : Nat := 400

/-- The place of the decimal point of `n / d`: its first digit stands right behind. -/
def pointOf (n d : Nat) : Int :=
  ((Text.decimal (n * tenPow manyPlaces / d)).length : Int) - manyPlaces

/-- The numerator and denominator of `n / d` in units of `10 ^ k`. -/
def inUnits (n d : Nat) (k : Int) : Nat × Nat := (n * tenPow (-k).toNat, d * tenPow k.toNat)

def trimZeros (digits : List Char) : List Char := (digits.reverse.dropWhile (· == '0')).reverse

/-- The whole number `q` in units of `10 ^ k`. -/
def place (q : Nat) (k : Int) : Placed :=
  { digits := Text.decimal q, point := (Text.decimal q).length + k }

/-- `count` significant digits, rounded. Rounding up to a power of ten gives one digit more. -/
def significant (count n d : Nat) : Placed :=
  let k := pointOf n d - count
  let (a, b) := inUnits n d k
  let q := Double.roundDiv a b
  if (Text.decimal q).length = count then place q k
  else { digits := (Text.decimal q).take count, point := (Text.decimal q).length + k }

/-! ## Shortest digits -/

/-- The reals that round to one double, as numerators over one denominator: the double itself, the
two ends, and whether these belong to it. -/
structure Interval where
  value : Nat
  low : Nat
  high : Nat
  den : Nat
  closed : Bool

/-- The interval of `m * 2 ^ e`. Below a power of two the doubles lie half as far apart. -/
def Interval.of (m : Nat) (e : Int) : Interval :=
  let s := twoPow (e - 2).toNat
  { value := 4 * m * s
    low := (4 * m - if m = Double.fractionSize ∧ Double.leastExponent < e then 1 else 2) * s
    high := (4 * m + 2) * s
    den := twoPow (2 - e).toNat
    closed := m % 2 == 0 }

def Interval.holds (i : Interval) (k : Int) (q : Nat) : Bool :=
  let c := q * (i.den * tenPow k.toNat)
  let up := tenPow (-k).toNat
  if i.closed then Nat.ble (i.low * up) c && Nat.ble c (i.high * up)
  else Nat.blt (i.low * up) c && Nat.blt c (i.high * up)

/-- The nearer of the two multiples of `10 ^ k` around the value that lie in the interval. -/
def Interval.onGrid (i : Interval) (k : Int) : Option Nat :=
  let (a, b) := inUnits i.value i.den k
  let q := a / b
  match i.holds k q, i.holds k (q + 1) with
  | true, true => some (Double.roundDiv a b)
  | true, false => some q
  | false, true => some (q + 1)
  | false, false => none

/-- Try 1, 2, … digits; `left` bounds their number. -/
def Interval.shortest (i : Interval) (point : Int) : Nat → Nat → Placed
  | 0, count => place (Double.roundDiv (inUnits i.value i.den (point - count)).1
      (inUnits i.value i.den (point - count)).2) (point - count)
  | left + 1, count =>
    match i.onGrid (point - count) with
    | some q => place q (point - count)
    | none => i.shortest point left (count + 1)

/-- The fewest digits that read back as the positive double `m * 2 ^ e`. -/
def shortest (m : Nat) (e : Int) : Placed :=
  let i := Interval.of m e
  let p := i.shortest (pointOf i.value i.den) 17 1
  { p with digits := trimZeros p.digits }

end Accounts.Digits
