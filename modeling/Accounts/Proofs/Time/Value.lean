import Mathlib.Algebra.Order.Field.Power
import Mathlib.Data.Rat.Cast.Order
import Mathlib.Tactic.Positivity
import Accounts.Time.Moment

/-!
What moments stand for. A finite number has a rational value, and finite numbers compare as their
values do. Sums and differences are rounded; they are called exact where the number that comes out
has the value of the exact result.
-/
namespace Accounts

/-! ## Magnitudes -/

namespace Magnitude

def IsFinite : Magnitude → Prop
  | .finite .. => True
  | _ => False

instance (a : Magnitude) : Decidable a.IsFinite := by
  unfold IsFinite
  split <;> infer_instance

/-- The value of a finite number. -/
def value : Magnitude → ℚ
  | .finite s m e => signed s m * 2 ^ e
  | _ => 0

/-- A number written with a smaller power of two. -/
theorem value_finite_of_le (s : Bool) (m : Nat) {e g : Int} (h : g ≤ e) :
    (finite s m e).value = signed s (m * twoPow (e - g).toNat) * 2 ^ g := by
  have hsigned : signed s (m * twoPow (e - g).toNat) = signed s m * 2 ^ (e - g).toNat := by
    cases s <;> simp [signed, twoPow]
  have hpow : (2 : ℚ) ^ e = 2 ^ (e - g).toNat * 2 ^ g := by
    rw [← zpow_natCast, Int.toNat_of_nonneg (by omega), ← zpow_add₀ two_ne_zero]
    congr 1
    omega
  rw [value, hsigned, hpow]
  push_cast
  rw [mul_assoc]

/-- Two numbers as multiples of one power of two. -/
theorem value_align (s : Bool) (m : Nat) (e : Int) (t : Bool) (n : Nat) (f : Int) :
    (finite s m e).value = (align s m e t n f).1 * 2 ^ min e f ∧
      (finite t n f).value = (align s m e t n f).2 * 2 ^ min e f :=
  ⟨value_finite_of_le s m (min_le_left e f), value_finite_of_le t n (min_le_right e f)⟩

theorem isFinite_iff {a : Magnitude} : a.IsFinite ↔ ∃ s m e, a = .finite s m e := by
  cases a with
  | finite s m e => exact iff_of_true trivial ⟨s, m, e, rfl⟩
  | undefined => exact iff_of_false id fun ⟨_, _, _, h⟩ => by cases h
  | infinite s => exact iff_of_false id fun ⟨_, _, _, h⟩ => by cases h

theorem lt_iff {a b : Magnitude} (ha : a.IsFinite) (hb : b.IsFinite) :
    a.lt b = true ↔ a.value < b.value := by
  obtain ⟨s, m, e, rfl⟩ := isFinite_iff.mp ha
  obtain ⟨t, n, f, rfl⟩ := isFinite_iff.mp hb
  obtain ⟨hx, hy⟩ := value_align s m e t n f
  have hpos : (0 : ℚ) < 2 ^ min e f := by positivity
  rw [hx, hy, mul_lt_mul_iff_left₀ hpos, Int.cast_lt, lt, decide_eq_true_iff]

theorem eq_iff {a b : Magnitude} (ha : a.IsFinite) (hb : b.IsFinite) :
    a.eq b = true ↔ a.value = b.value := by
  obtain ⟨s, m, e, rfl⟩ := isFinite_iff.mp ha
  obtain ⟨t, n, f, rfl⟩ := isFinite_iff.mp hb
  obtain ⟨hx, hy⟩ := value_align s m e t n f
  have hne : (2 : ℚ) ^ min e f ≠ 0 := by positivity
  rw [hx, hy, mul_left_inj' hne, Int.cast_inj, eq, beq_iff_eq]

theorem le_iff {a b : Magnitude} (ha : a.IsFinite) (hb : b.IsFinite) :
    a.le b = true ↔ a.value ≤ b.value := by
  rw [le, Bool.or_eq_true, lt_iff ha hb, eq_iff ha hb, le_iff_lt_or_eq]

end Magnitude

/-! ## Moments -/

namespace Moment

def IsFinite (a : Moment) : Prop := a.magnitude.IsFinite

instance (a : Moment) : Decidable a.IsFinite := inferInstanceAs (Decidable a.magnitude.IsFinite)

def value (a : Moment) : ℚ := a.magnitude.value

@[simp] theorem isFinite_whole (n : Int) : (whole n).IsFinite := trivial

@[simp] theorem value_whole (n : Int) : (whole n).value = n := by
  have hsigned : Magnitude.signed (n < 0) n.natAbs = n := by
    by_cases h : n < 0
    · simp only [Magnitude.signed, h, decide_true, if_true]
      omega
    · simp only [Magnitude.signed, h, decide_false, Bool.false_eq_true, if_false]
      omega
  simp [value, magnitude, Magnitude.ofInt, Magnitude.value, hsigned]

theorem isFinite_zero : (Timeline.zero : Moment).IsFinite := by decide

theorem value_zero : (Timeline.zero : Moment).value = 0 := by
  have h : (Timeline.zero : Moment).magnitude = .finite false 0 Double.leastExponent := by decide
  rw [value, h]
  simp [Magnitude.value, Magnitude.signed]

theorem lt_iff {a b : Moment} (ha : a.IsFinite) (hb : b.IsFinite) :
    Timeline.lt a b = true ↔ a.value < b.value := Magnitude.lt_iff ha hb

theorem le_iff {a b : Moment} (ha : a.IsFinite) (hb : b.IsFinite) :
    Timeline.le a b = true ↔ a.value ≤ b.value := Magnitude.le_iff ha hb

/-- The sum can be formed and is not rounded. -/
def HasSum (a b : Moment) : Prop :=
  b.IsFinite ∧ ∃ c, Timeline.add? a b = some c ∧ c.IsFinite ∧ c.value = a.value + b.value

/-- The time from the second moment to the first can be formed and is not rounded. -/
def HasDifference (a b : Moment) : Prop :=
  ∃ c, Timeline.sub? a b = some c ∧ c.IsFinite ∧ c.value = a.value - b.value

/-- Whole numbers are added and subtracted exactly. -/
theorem hasSum_whole (a b : Int) : HasSum (.whole a) (.whole b) :=
  ⟨trivial, .whole (a + b), rfl, trivial, by simp⟩

theorem hasDifference_whole (a b : Int) : HasDifference (.whole a) (.whole b) :=
  ⟨.whole (a - b), rfl, trivial, by simp⟩

end Moment

end Accounts
