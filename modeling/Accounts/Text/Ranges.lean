/-!
Sets of code points, written as closed ranges. The tables of character properties are values of
this type.
-/
namespace Accounts.Text

/-- A set of code points: first and last member of each range. -/
abbrev Ranges := List (Nat × Nat)

def Ranges.contains : Ranges → Nat → Bool
  | [], _ => false
  | (first, last) :: rest, c => (Nat.ble first c && Nat.ble c last) || Ranges.contains rest c

@[simp] theorem Ranges.contains_nil (c : Nat) : Ranges.contains [] c = false := rfl

theorem Ranges.contains_iff (r : Ranges) (c : Nat) :
    r.contains c = true ↔ ∃ p ∈ r, p.1 ≤ c ∧ c ≤ p.2 := by
  induction r with
  | nil => simp
  | cons p rest ih =>
    obtain ⟨first, last⟩ := p
    simp [Ranges.contains, ih]

end Accounts.Text
