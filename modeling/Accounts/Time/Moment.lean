import Accounts.Number.Double

/-!
Moments of a clock. `Timeline` says what the rest of the library asks of them; the moments in use
are doubles, with whole numbers kept exact beside them. A difference or a sum may lie outside the
numbers that can be represented.
-/
namespace Accounts

/-- What contexts and clocks need to know about moments and the time between them. -/
class Timeline (T : Type) where
  zero : T
  lt : T → T → Bool
  le : T → T → Bool
  /-- The time from the second moment to the first. -/
  sub? : T → T → Option T
  /-- The moment after some time has passed. -/
  add? : T → T → Option T
  /-- The whole seconds of a moment. -/
  floor? : T → Option Int

/-- A whole number or a double. -/
inductive Moment where
  | whole (n : Int)
  | real (x : Double)
  deriving DecidableEq, Repr

namespace Moment

/-- Whole numbers and doubles compare by what they stand for. -/
def magnitude : Moment → Magnitude
  | .whole n => .ofInt n
  | .real x => x.magnitude

/-- The nearest double; a whole number may be too large for one. -/
def double? : Moment → Option Double
  | .whole n => Double.ofInt? n
  | .real x => some x

def combine (f : Double → Double → Double) (g : Int → Int → Int) : Moment → Moment → Option Moment
  | .whole a, .whole b => some (.whole (g a b))
  | a, b =>
    match a.double?, b.double? with
    | some x, some y => some (.real (f x y))
    | _, _ => none

instance : Timeline Moment where
  zero := .real Double.zero
  lt a b := a.magnitude.lt b.magnitude
  le a b := a.magnitude.le b.magnitude
  sub? := combine Double.sub (· - ·)
  add? := combine Double.add (· + ·)
  floor? a := a.magnitude.floor

end Moment

end Accounts
