import Accounts.Proofs.Number.Order
import Accounts.Time.Moment

/-!
The places of moments. Whole numbers have a place among the doubles, and compare with them exactly.
Where a whole number is made a double it is moved to the nearest one, which does not change the order
of moments; it fails where the nearest one would be infinite.
-/
namespace Accounts.Moment

variable {a b d : Moment} {x : Double}

def IsNaN (d : Moment) : Prop := d.magnitude = .undefined

instance (d : Moment) : Decidable d.IsNaN := inferInstanceAs (Decidable (_ = _))

def place (d : Moment) : WithBot (WithTop Int) := d.magnitude.place

theorem isOnGrid (h : ¬d.IsNaN) : d.magnitude.IsOnGrid := by
  cases d with
  | whole n => exact (by decide : Double.leastExponent ≤ 0)
  | real x => exact Double.isOnGrid_of_ne h

theorem lt_iff_place (ha : ¬a.IsNaN) (hb : ¬b.IsNaN) :
    Timeline.lt a b = true ↔ a.place < b.place :=
  Magnitude.lt_iff_place (isOnGrid ha) (isOnGrid hb)

theorem le_iff_place (ha : ¬a.IsNaN) (hb : ¬b.IsNaN) :
    Timeline.le a b = true ↔ a.place ≤ b.place :=
  Magnitude.le_iff_place (isOnGrid ha) (isOnGrid hb)

/-- Nothing compares with what is not a number. -/
theorem not_isNaN_of_lt (h : Timeline.lt a b = true) : ¬a.IsNaN ∧ ¬b.IsNaN := by
  have hlt : a.magnitude.lt b.magnitude = true := h
  constructor
  · intro (ha : a.magnitude = .undefined)
    rw [ha] at hlt
    cases hlt
  · intro (hb : b.magnitude = .undefined)
    rw [hb] at hlt
    cases ha : a.magnitude <;> rw [ha] at hlt <;> cases hlt

theorem not_isNaN_of_le (h : Timeline.le a b = true) : ¬a.IsNaN ∧ ¬b.IsNaN := by
  have hle : a.magnitude.le b.magnitude = true := h
  rcases (Bool.or_eq_true _ _).mp hle with hlt | heq
  · exact not_isNaN_of_lt hlt
  · constructor
    · intro (ha : a.magnitude = .undefined)
      rw [ha] at heq
      cases heq
    · intro (hb : b.magnitude = .undefined)
      rw [hb] at heq
      cases ha : a.magnitude <;> rw [ha] at heq <;> cases heq

/-! ## Doubles of moments -/

/-- A moment becomes the nearest double. -/
theorem place_of_double? (h : d.double? = some x) :
    (x.magnitude = .undefined ↔ d.IsNaN) ∧ x.magnitude.place = Double.settle d.place := by
  cases d with
  | whole n =>
    obtain ⟨hne, hplace⟩ := Double.place_of_ofInt? h
    exact ⟨iff_of_false hne (by rintro ⟨⟩), hplace⟩
  | real y =>
    obtain rfl : y = x := Option.some.inj h
    exact ⟨Iff.rfl, Double.settle_place.symm⟩

/-- From here on whole numbers are too large for a double. -/
def wholeLimit : Nat := twoPow 1024 - twoPow 970

theorem double?_whole_isSome_iff (n : Int) :
    (whole n).double?.isSome = true ↔ n.natAbs < wholeLimit := by
  -- The limit lies in the middle between the largest double and what would be the next.
  have habove : Double.top ≤ Double.index (wholeLimit * twoPow 1074) := by decide +kernel
  have hbelow : Double.index (wholeLimit * twoPow 1074 - 1) < Double.top := by decide +kernel
  have hpos := Double.twoPow_pos 1074
  rw [double?, Double.ofInt?_isSome_iff]
  constructor
  · intro h
    by_contra hge
    have hle := Double.index_mono (Nat.mul_le_mul_right (twoPow 1074) (Nat.le_of_not_lt hge))
    exact absurd (habove.trans hle) (Nat.not_le.mpr h)
  · intro h
    have hlt : n.natAbs * twoPow 1074 < wholeLimit * twoPow 1074 := Nat.mul_lt_mul_of_pos_right h hpos
    exact lt_of_le_of_lt (Double.index_mono (Nat.le_sub_one_of_lt hlt)) hbelow

end Accounts.Moment
