import Accounts.Number.Double
import Accounts.Text.Numeral

/-!
Dates of the Gregorian calendar, times of day, and how both are written. Seconds are counted from
the beginning of 1970, in UTC.
-/
namespace Accounts

structure Date where
  year : Int
  month : Nat
  day : Nat
  deriving DecidableEq, Repr

/-- A date with a time of day, and its distance from UTC in microseconds when that is known. -/
structure DateTime where
  date : Date
  second : Nat
  micro : Nat := 0
  offset : Option Int := none
  deriving DecidableEq, Repr

namespace Date

/-- The date of a day counted from 1970. The count runs in eras of 400 years that begin with a
March, so that a leap day is the last day of its year. -/
def ofDays (days : Int) : Date :=
  let z := days + 719468
  let era := Int.fdiv z 146097
  let doe := (z - era * 146097).toNat
  let yoe := (doe - doe / 1460 + doe / 36524 - doe / 146096) / 365
  let doy := doe - (365 * yoe + yoe / 4 - yoe / 100)
  let mp := (5 * doy + 2) / 153
  let month := if mp < 10 then mp + 3 else mp - 9
  { year := yoe + era * 400 + (if month ≤ 2 then 1 else 0)
    month := month
    day := doy - (153 * mp + 2) / 5 + 1 }

/-- The day counted from 1970, by the same eras. -/
def toDays (d : Date) : Int :=
  let year := if d.month ≤ 2 then d.year - 1 else d.year
  let era := Int.fdiv year 400
  let yoe := (year - era * 400).toNat
  let mp := if 2 < d.month then d.month - 3 else d.month + 9
  let doy := (153 * mp + 2) / 5 + d.day - 1
  let doe := yoe * 365 + yoe / 4 - yoe / 100 + doy
  era * 146097 + doe - 719468

def isLeap (year : Int) : Bool := year % 4 == 0 && (year % 100 != 0 || year % 400 == 0)

def daysInMonth (year : Int) (month : Nat) : Nat :=
  if month = 2 then if isLeap year then 29 else 28
  else if month = 4 ∨ month = 6 ∨ month = 9 ∨ month = 11 then 30
  else 31

/-- The day of the week, with Monday as 0. The count of days begins with a Thursday. -/
def weekday (days : Int) : Nat := ((days + 3) % 7).toNat

def secondsPerDay : Nat := 86400

/-- Years that a date can be written in. -/
def inRange (d : Date) : Bool := 1 ≤ d.year && d.year ≤ 9999

/-- `2024-01-31` -/
def render (d : Date) : List Char :=
  Text.zeroPad 4 (Text.decimalInt d.year) ++
    '-' :: (Text.zeroPad 2 (Text.decimal d.month) ++ '-' :: Text.zeroPad 2 (Text.decimal d.day))

end Date

namespace DateTime

def ofSeconds (seconds : Int) (micro : Nat) : DateTime :=
  let days := Int.fdiv seconds Date.secondsPerDay
  { date := Date.ofDays days
    second := (seconds - days * Date.secondsPerDay).toNat
    micro := micro
    offset := some 0 }

def twoDigits (n : Nat) : List Char := Text.zeroPad 2 (Text.decimal n)

/-- `13:45:00`, with six digits of a fraction when there is one. -/
def renderTime (second micro : Nat) : List Char :=
  twoDigits (second / 3600) ++ ':' :: twoDigits (second / 60 % 60) ++
    ':' :: twoDigits (second % 60) ++
    (if micro = 0 then [] else '.' :: Text.zeroPad 6 (Text.decimal micro))

def microsPerSecond : Nat := 1000000

/-- `+01:00`, with seconds and a fraction when there are any. -/
def renderOffset (offset : Int) : List Char :=
  let micro := offset.natAbs % microsPerSecond
  let second := offset.natAbs / microsPerSecond
  (if offset < 0 then '-' else '+') ::
    if second % 60 = 0 ∧ micro = 0 then
      twoDigits (second / 3600) ++ ':' :: twoDigits (second / 60 % 60)
    else renderTime second micro

def microsPerDay : Int := (Date.secondsPerDay * microsPerSecond : Nat)

/-- A duration in microseconds, as whole days, which may be negative, and a rest. -/
def shownDuration (micros : Int) : List Char :=
  let days := Int.fdiv micros microsPerDay
  let rest := micros - days * microsPerDay
  let parts := [("days=", days), ("seconds=", Int.fdiv rest microsPerSecond),
    ("microseconds=", Int.fmod rest microsPerSecond)]
  let shown := (parts.filter fun p => p.2 != 0).map fun p => p.1.toList ++ Text.decimalInt p.2
  "datetime.timedelta(".toList ++ List.intercalate [',', ' '] shown ++ [')']

/-- Date, separator, time, and the distance from UTC when it is known. -/
def render (separator : Char) (t : DateTime) : List Char :=
  t.date.render ++ separator :: (renderTime t.second t.micro ++
    match t.offset with
    | some o => renderOffset o
    | none => [])

/-- The form for machines: a date, the letter T, a time, and Z for UTC. -/
def renderUtc (t : DateTime) : List Char :=
  t.date.render ++ 'T' :: (renderTime t.second t.micro ++ ['Z'])

/-! ## Comparing -/

/-- Microseconds from the beginning of 1970. -/
def instant (t : DateTime) : Int :=
  (t.date.toDays * Date.secondsPerDay + t.second) * microsPerSecond + t.micro - t.offset.getD 0

/-- The same instant. A time at an unknown distance from UTC is none of those at a known one. -/
def same (s t : DateTime) : Bool :=
  s.offset.isSome == t.offset.isSome && s.instant == t.instant

end DateTime

end Accounts
