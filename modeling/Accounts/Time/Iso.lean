import Accounts.Text.Quoted
import Accounts.Time.Calendar

/-!
Reading the ISO form of a date and time. A date is written by month or by week, in groups that are
separated by hyphens or stand together. A time may follow behind any one character, as hours, hours
and minutes, or hours, minutes and seconds with a fraction, and behind it a distance from UTC.
-/
namespace Accounts

inductive DateError where
  | malformed (text : String)
  /-- A distance from UTC of a day or more, in microseconds. -/
  | offset (micros : Int)
  | year (y : Int)
  | month
  | day
  | hour
  | minute
  | second
  deriving DecidableEq, Repr

namespace Date

/-- The Monday of the first week of a year: the week of the fourth of January. -/
def firstMonday (year : Int) : Int :=
  let fourth := toDays ⟨year, 1, 4⟩
  fourth - weekday fourth

/-- The weeks of a year: those that begin before the first week of the next one. -/
def weeksInYear (year : Int) : Int := Int.fdiv (firstMonday (year + 1) - firstMonday year) 7

/-- The date of a day of a week, with Monday as 1. Weeks are counted from the year 1 on; the year
before has 52 of them, but no months. -/
def ofWeek? (year : Nat) (week day : Nat) : Option Date :=
  if 1 ≤ week ∧ 1 ≤ day ∧ day ≤ 7 then
    if year = 0 then if week ≤ 52 then some ⟨1, 0, day⟩ else none
    else if (week : Int) ≤ weeksInYear year then
      some (ofDays (firstMonday year + (7 * (week - 1) + (day - 1) : Nat)))
    else none
  else none

/-- The date exists. -/
def check (d : Date) : Except DateError Unit :=
  if !d.inRange then .error (.year d.year)
  else if d.month < 1 ∨ 12 < d.month then .error .month
  else if d.day < 1 ∨ daysInMonth d.year d.month < d.day then .error .day
  else .ok ()

end Date

namespace DateTime

/-! ## Digits and dates -/

def digits? (count : Nat) (s : List Char) : Option (Nat × List Char) :=
  let ds := s.take count
  if ds.length = count ∧ ds.all Char.isDigit then some (Text.ofDecimal ds, s.drop count) else none

/-- The day of a week behind the number of the week, when the groups are separated by hyphens. A
hyphen may also stand between the week and a time, which begins with two digits. -/
def spacedWeekday? (s : List Char) : Option (Nat × List Char) :=
  match s with
  | '-' :: a :: b :: rest => if b.isDigit then some (1, s) else digits? 1 (a :: b :: rest)
  | '-' :: rest => digits? 1 rest
  | _ => some (1, s)

/-- The day of a week behind the number of the week, when the groups stand together. A run of digits
begins with the day when it is one digit long or an even number of them. -/
def compactWeekday? (s : List Char) : Option (Nat × List Char) :=
  let run := (s.takeWhile Char.isDigit).length
  if run = 1 ∨ (run ≠ 0 ∧ run % 2 = 0) then digits? 1 s else some (1, s)

/-- The rest of a date by week. -/
def week? (year : Nat) (weekday? : List Char → Option (Nat × List Char)) (s : List Char) :
    Option (Date × List Char) := do
  let (week, s) ← digits? 2 s
  let (day, s) ← weekday? s
  let date ← Date.ofWeek? year week day
  some (date, s)

/-- A date, and what stands behind it. -/
def date? (s : List Char) : Option (Date × List Char) := do
  let (year, s) ← digits? 4 s
  match s with
  | '-' :: 'W' :: s => week? year spacedWeekday? s
  | 'W' :: s => week? year compactWeekday? s
  | '-' :: s =>
    let (month, s) ← digits? 2 s
    match s with
    | '-' :: s =>
      let (day, s) ← digits? 2 s
      some (⟨year, month, day⟩, s)
    | _ => none
  | _ =>
    let (month, s) ← digits? 2 s
    let (day, s) ← digits? 2 s
    some (⟨year, month, day⟩, s)

/-! ## Times -/

/-- What a time is made of, before anything is known about its range. -/
structure Clock where
  hour : Nat := 0
  minute : Nat := 0
  second : Nat := 0
  micro : Nat := 0
  deriving DecidableEq, Repr

namespace Clock

def ofNumbers (numbers : List Nat) (micro : Nat) : Clock :=
  match numbers with
  | [] => { micro := micro }
  | [h] => { hour := h, micro := micro }
  | [h, m] => { hour := h, minute := m, micro := micro }
  | h :: m :: s :: _ => { hour := h, minute := m, second := s, micro := micro }

def seconds (c : Clock) : Nat := c.hour * 3600 + c.minute * 60 + c.second

/-- The time of day exists. -/
def check (c : Clock) : Except DateError Unit :=
  if 23 < c.hour then .error .hour
  else if 59 < c.minute then .error .minute
  else if 59 < c.second then .error .second
  else .ok ()

end Clock

/-- Something stands here. A null character counts as the end. -/
def isLeft (s : List Char) : Bool := s.headD '\x00' != '\x00'

/-- A fraction in millionths, and whether anything is left behind it. Digits after the sixth are
dropped. -/
def fraction? (s : List Char) : Option (Nat × Bool) := do
  let count := min 6 s.length
  let (n, rest) ← digits? count s
  some (n * tenPow (6 - count), isLeft (rest.dropWhile Char.isDigit))

/-- Up to `count` numbers of two digits, a fraction, and whether anything is left behind them. The
numbers stand together or with colons between them, as the mark behind the first of them decides;
`colons` is missing until then. Behind a number only one character of the ASCII range may be left.
-/
def numbers? : (count : Nat) → (colons : Option Bool) → List Char →
    Option (List Nat × Nat × Bool)
  | 0, _, s => (fraction? s).map ([], ·)
  | count + 1, colons, s => do
    let (n, rest) ← digits? 2 s
    match rest with
    | [] => some ([n], 0, false)
    | [c] => if c.toNat < 0x80 then some ([n], 0, isLeft [c]) else none
    | c :: more =>
      let colons := colons.getD (c == ':')
      let (ns, r) ←
        if colons ∧ c = ':' then numbers? count (some colons) more
        else if c = '.' ∨ c = ',' then (fraction? more).map ([], ·)
        else if colons then none
        else numbers? count (some colons) rest
      some (n :: ns, r)

/-- A time, and whether anything is left behind it. -/
def clock? (s : List Char) : Option (Clock × Bool) :=
  (numbers? 3 none s).map fun r => (Clock.ofNumbers r.1 r.2.1, r.2.2)

def isZoneMark (c : Char) : Bool := c == '+' || c == '-' || c == 'Z'

/-- The distance from UTC in microseconds: none, the letter Z, or a sign and a time. A distance of
less than a second is none. -/
def zone? : List Char → Option (Option Int)
  | [] => some none
  | 'Z' :: rest => if isLeft rest then none else some (some 0)
  | sign :: rest =>
    match clock? rest with
    | some (c, false) =>
      let size := if c.seconds = 0 then 0 else c.seconds * microsPerSecond + c.micro
      some (some (if sign = '-' then -(size : Int) else size))
    | _ => none

/-- A time with its distance from UTC. Only in front of the latter may anything be left over. -/
def time? (s : List Char) : Option (Clock × Option Int) :=
  let (front, zone) := (s.takeWhile (! isZoneMark ·), s.dropWhile (! isZoneMark ·))
  match clock? front with
  | some (c, left) => if left && zone.isEmpty then none else (zone? zone).map (c, ·)
  | none => none

/-! ## Dates with times -/

/-- The parts of a date, alone or with a time behind one more character. -/
def parts? (s : List Char) : Option (Date × Clock × Option Int) := do
  let (date, s) ← date? s
  match s with
  | [] => some (date, {}, none)
  | _ :: s =>
    let (clock, offset) ← time? s
    some (date, clock, offset)

/-- The distance from UTC is less than a day. -/
def checkOffset (offset : Option Int) : Except DateError Unit :=
  match offset with
  | some o => if -microsPerDay < o ∧ o < microsPerDay then .ok () else .error (.offset o)
  | none => .ok ()

/-- The date and time that a text stands for. The distance from UTC is looked at first, then the
date, then the time. -/
def ofIso (text : String) : Except DateError DateTime :=
  match parts? text.toList with
  | none => .error (.malformed text)
  | some (date, clock, offset) => do
    checkOffset offset
    date.check
    clock.check
    return { date := date, second := clock.seconds, micro := clock.micro, offset := offset }

end DateTime

namespace DateError

def message : DateError → String
  | .malformed text => "Invalid isoformat string: " ++ Text.quote text
  | .offset micros =>
    "offset must be a timedelta strictly between -timedelta(hours=24) and timedelta(hours=24), not "
      ++ String.ofList (DateTime.shownDuration micros) ++ "."
  | .year y => "year " ++ String.ofList (Text.decimalInt y) ++ " is out of range"
  | .month => "month must be in 1..12"
  | .day => "day is out of range for month"
  | .hour => "hour must be in 0..23"
  | .minute => "minute must be in 0..59"
  | .second => "second must be in 0..59"

end DateError

end Accounts
