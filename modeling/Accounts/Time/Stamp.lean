import Accounts.Time.Calendar
import Accounts.Time.Moment

/-!
Timestamps of the log: a moment in seconds since 1970, to the microsecond, in a year that can be
written.
-/
namespace Accounts

inductive StampError where
  | undefined
  /-- More seconds than 64 bits hold. -/
  | secondRange
  /-- More years than the calendar of the machine counts. -/
  | calendarRange
  | year (y : Int)
  deriving DecidableEq, Repr

namespace StampError

def name : StampError → String
  | .undefined | .year _ => "ValueError"
  | .secondRange => "OverflowError"
  | .calendarRange => "OSError"

def message : StampError → List Char
  | .undefined => "Invalid value NaN (not a number)".toList
  | .secondRange => "timestamp out of range for platform time_t".toList
  | .calendarRange => "[Errno 75] Value too large for defined data type".toList
  | .year y => "year ".toList ++ Text.decimalInt y ++ " is out of range".toList

end StampError

namespace Moment

/-- Whole seconds and microseconds of `m * 2 ^ e` seconds. The part behind the point is taken times
a million as a double and then rounded, a half to the even number. -/
def splitSeconds (negative : Bool) (m : Nat) (e : Int) : Int × Nat :=
  let den := twoPow (-e).toNat
  let num := m * twoPow e.toNat
  let whole := Magnitude.signed negative (num / den)
  let scaled := Double.round false (num % den * 1000000) (-((-e).toNat : Int))
  let micro := match scaled.magnitude with
    | .finite _ n f => Double.roundDiv (n * twoPow f.toNat) (twoPow (-f).toNat)
    | _ => 0
  if negative then
    if micro = 0 then (whole, 0)
    else if 1000000 ≤ micro then (whole - 1, 0)
    else (whole - 1, 1000000 - micro)
  else if 1000000 ≤ micro then (whole + 1, micro - 1000000)
  else (whole, micro)

def seconds : Moment → Except StampError (Int × Nat)
  | .whole n => .ok (n, 0)
  | .real x =>
    match x.magnitude with
    | .undefined => .error .undefined
    | .infinite _ => .error .secondRange
    | .finite s m e => .ok (splitSeconds s m e)

/-- The date and time of a moment. Years count from 1900 in words of 32 bits. -/
def stamp (t : Moment) : Except StampError DateTime :=
  match t.seconds with
  | .error e => .error e
  | .ok (s, micro) =>
    if s < -(twoPow 63 : Int) ∨ (twoPow 63 : Int) ≤ s then .error .secondRange
    else
      let d := DateTime.ofSeconds s micro
      let year := d.date.year
      if year - 1900 < -(twoPow 31 : Int) ∨ (twoPow 31 : Int) ≤ year - 1900 then
        .error .calendarRange
      else if d.date.inRange then .ok d
      else .error (.year (Int.bmod year (twoPow 32)))

end Moment

end Accounts
