import Mathlib.Order.Monotone.Basic
import Mathlib.Data.Nat.Log
import Accounts.Number.Double

/-!
The grid of doubles. Every double is a multiple of the least positive one, and the bits of a positive
double, read as a number, count the doubles from zero up to it. Rounding goes from the multiples to
the bits: it is monotone, and what is a double already stays as it is.
-/
namespace Accounts.Double

/-! ## Quotients -/

theorem roundDiv_mul (q : Nat) {d : Nat} (hd : 0 < d) : roundDiv (q * d) d = q := by
  simp [roundDiv, Nat.mul_div_cancel q hd, hd]

/-- The quotient does not depend on the unit of its two terms. -/
theorem roundDiv_mul_right (a b : Nat) {c : Nat} (hc : 0 < c) :
    roundDiv (a * c) (b * c) = roundDiv a b := by
  have hbelow : 2 * (a % b * c) < b * c ↔ 2 * (a % b) < b := by
    rw [← Nat.mul_assoc]
    exact Nat.mul_lt_mul_right hc
  have habove : b * c < 2 * (a % b * c) ↔ b < 2 * (a % b) := by
    rw [← Nat.mul_assoc]
    exact Nat.mul_lt_mul_right hc
  simp only [roundDiv, Nat.mul_div_mul_right a b hc, Nat.mul_mod_mul_right, hbelow, habove]

theorem roundDiv_bounds (a d : Nat) : a / d ≤ roundDiv a d ∧ roundDiv a d ≤ a / d + 1 := by
  simp only [roundDiv]
  split
  · omega
  · split
    · omega
    · split <;> omega

theorem roundDiv_mono {a b : Nat} (d : Nat) (h : a ≤ b) : roundDiv a d ≤ roundDiv b d := by
  rcases Nat.lt_or_ge (a / d) (b / d) with hlt | hge
  · have ha := (roundDiv_bounds a d).2
    have hb := (roundDiv_bounds b d).1
    omega
  · -- The quotients are the same, so what is left over decides.
    have hquotient : a / d = b / d := le_antisymm (Nat.div_le_div_right h) hge
    have hrest : a % d ≤ b % d := by
      have ha := Nat.div_add_mod a d
      have hb := Nat.div_add_mod b d
      rw [hquotient] at ha
      omega
    simp only [roundDiv, hquotient]
    split_ifs <;> omega

/-! ## Numbers of doubles -/

theorem fractionSize_eq : fractionSize = 4503599627370496 := rfl

/-- The double of a number, as a multiple of the least positive double. -/
def units (b : Nat) : Nat :=
  if b / fractionSize = 0 then b
  else (fractionSize + b % fractionSize) * twoPow (b / fractionSize - 1)

/-- The number of the double nearest to a multiple of the least one, if there were no largest. -/
def index (n : Nat) : Nat :=
  (n.log2 - 52) * fractionSize + roundDiv n (twoPow (n.log2 - 52))

theorem twoPow_pos (k : Nat) : 0 < twoPow k := Nat.two_pow_pos k

/-- Of a multiple with more than 53 bits, 53 are kept. -/
theorem le_roundDiv_of_lt_log2 {n : Nat} (h : 52 < n.log2) :
    fractionSize ≤ roundDiv n (twoPow (n.log2 - 52)) := by
  have hn : n ≠ 0 := by
    rintro rfl
    simp at h
  have hle : fractionSize * twoPow (n.log2 - 52) ≤ n :=
    calc fractionSize * twoPow (n.log2 - 52) = 2 ^ (52 + (n.log2 - 52)) := (Nat.pow_add 2 _ _).symm
      _ = 2 ^ n.log2 := by rw [Nat.add_sub_cancel' h.le]
      _ ≤ n := Nat.log2_self_le hn
  calc fractionSize = roundDiv (fractionSize * twoPow (n.log2 - 52)) (twoPow (n.log2 - 52)) :=
        (roundDiv_mul _ (twoPow_pos _)).symm
    _ ≤ _ := roundDiv_mono _ hle

theorem roundDiv_le (n : Nat) : roundDiv n (twoPow (n.log2 - 52)) ≤ 2 * fractionSize := by
  have hle : n ≤ 2 * fractionSize * twoPow (n.log2 - 52) :=
    calc n ≤ 2 ^ (n.log2 + 1) := Nat.lt_log2_self.le
      _ ≤ 2 ^ (53 + (n.log2 - 52)) := Nat.pow_le_pow_right Nat.two_pos (by omega)
      _ = 2 * fractionSize * twoPow (n.log2 - 52) := Nat.pow_add 2 53 _
  calc roundDiv n (twoPow (n.log2 - 52)) ≤ _ := roundDiv_mono _ hle
    _ = 2 * fractionSize := roundDiv_mul _ (twoPow_pos _)

theorem log2_mono {m n : Nat} (h : m ≤ n) : m.log2 ≤ n.log2 := by
  rw [Nat.log2_eq_log_two, Nat.log2_eq_log_two]
  exact Nat.log_mono_right h

/-- Rounding is monotone. -/
theorem index_mono : Monotone index := by
  intro m n h
  unfold index
  rcases Nat.lt_or_ge (m.log2 - 52) (n.log2 - 52) with hlt | hge
  · have hm := roundDiv_le m
    have hn := le_roundDiv_of_lt_log2 (n := n) (by omega)
    simp only [fractionSize_eq] at hm hn ⊢
    omega
  · have hsame : m.log2 - 52 = n.log2 - 52 := by
      have hlog := log2_mono h
      omega
    rw [hsame]
    exact Nat.add_le_add_left (roundDiv_mono _ h) _

/-- The bits of a double, without the sign, are its number. -/
theorem index_units (b : Nat) : index (units b) = b := by
  have hpos : 0 < fractionSize := twoPow_pos 52
  have hb := Nat.div_add_mod b fractionSize
  unfold units
  split
  · next hzero =>
    have hlt : b < 2 ^ 52 := (Nat.div_eq_zero_iff_lt hpos).mp hzero
    have hlog : b.log2 - 52 = 0 := by
      by_cases hne : b = 0
      · simp [hne]
      · have hlog := (Nat.log2_lt hne).mpr hlt
        omega
    have hone := roundDiv_mul b Nat.one_pos
    rw [Nat.mul_one] at hone
    rw [index, hlog, Nat.zero_mul, Nat.zero_add]
    exact hone
  · next hne =>
    have hf : b % fractionSize < fractionSize := Nat.mod_lt b hpos
    generalize b / fractionSize = p at hb hne ⊢
    generalize b % fractionSize = f at hb hf ⊢
    have hlog : ((fractionSize + f) * twoPow (p - 1)).log2 = 52 + (p - 1) := by
      rw [Nat.log2_eq_iff (Nat.mul_ne_zero (by omega) (twoPow_pos _).ne')]
      constructor
      · calc 2 ^ (52 + (p - 1)) = fractionSize * twoPow (p - 1) := Nat.pow_add 2 _ _
          _ ≤ _ := Nat.mul_le_mul_right _ (Nat.le_add_right _ _)
      · calc (fractionSize + f) * twoPow (p - 1) < 2 ^ 53 * twoPow (p - 1) := by
              apply Nat.mul_lt_mul_of_pos_right _ (twoPow_pos _)
              rw [fractionSize_eq] at hf ⊢
              omega
          _ = 2 ^ (53 + (p - 1)) := (Nat.pow_add 2 _ _).symm
          _ = 2 ^ (52 + (p - 1) + 1) := by rw [Nat.add_right_comm]
    have hexp : 52 + (p - 1) - 52 = p - 1 := by omega
    rw [index, hlog, hexp, roundDiv_mul _ (twoPow_pos _), ← Nat.add_assoc, ← Nat.succ_mul,
      Nat.succ_eq_add_one, Nat.sub_add_cancel (Nat.one_le_iff_ne_zero.mpr hne), Nat.mul_comm]
    exact hb

/-- Doubles are numbered by their size. -/
theorem units_mono : Monotone units := by
  intro b c h
  by_contra hlt
  have hindex := index_mono (Nat.lt_of_not_le hlt).le
  rw [index_units, index_units] at hindex
  rw [le_antisymm h hindex] at hlt
  exact hlt le_rfl

/-! ## Rounding -/

/-- The number of the infinite double: what is not finite begins here. -/
def top : Nat := infiniteExponent * fractionSize

theorem log2_mul_twoPow {m : Nat} (hm : m ≠ 0) (i : Nat) :
    (m * twoPow i).log2 = m.log2 + i := by
  rw [Nat.log2_eq_iff (Nat.mul_ne_zero hm (twoPow_pos i).ne')]
  constructor
  · rw [Nat.pow_add]
    exact Nat.mul_le_mul_right _ (Nat.log2_self_le hm)
  · rw [Nat.add_right_comm, Nat.pow_add]
    exact Nat.mul_lt_mul_of_pos_right Nat.lt_log2_self (twoPow_pos i)

theorem twoPow_add (i j : Nat) : twoPow (i + j) = twoPow i * twoPow j := Nat.pow_add 2 i j

/-- The quotient that rounding forms, at whatever exponent the number was given. -/
theorem quotient_eq (m i j : Nat) :
    (if leastExponent + j ≤ leastExponent + i then
        m * twoPow (leastExponent + i - (leastExponent + j)).toNat
      else roundDiv m (twoPow (leastExponent + j - (leastExponent + i)).toNat)) =
      roundDiv (m * twoPow i) (twoPow j) := by
  split
  · obtain ⟨d, rfl⟩ := Nat.exists_eq_add_of_le' (show j ≤ i by omega)
    have hexp : (leastExponent + (d + j : Nat) - (leastExponent + j)).toNat = d := by omega
    rw [hexp, twoPow_add, ← Nat.mul_assoc, roundDiv_mul _ (twoPow_pos j)]
  · obtain ⟨d, rfl⟩ := Nat.exists_eq_add_of_le' (show i ≤ j by omega)
    have hexp : (leastExponent + (d + i : Nat) - (leastExponent + i)).toNat = d := by omega
    rw [hexp, twoPow_add, roundDiv_mul_right _ _ (twoPow_pos i)]

/-- The nearest double is found on the grid, except that what lies above the largest is infinite. -/
theorem nearest_eq (m i : Nat) :
    nearest m (leastExponent + i) = min (index (m * twoPow i)) top := by
  by_cases hm : m = 0
  · simp [nearest, hm, index, roundDiv]
  · have hlog := log2_mul_twoPow hm i
    have hlow := le_roundDiv_of_lt_log2 (n := m * twoPow i)
    have hexp : max (leastExponent + i + (m.log2 + 1) - 53) leastExponent =
        leastExponent + (m.log2 + i - 52 : Nat) := by omega
    have hnumber : (leastExponent + (m.log2 + i - 52 : Nat) + 1075).toNat =
        m.log2 + i - 52 + 1 := by
      simp only [leastExponent]
      omega
    simp only [nearest, hm, if_false, hexp, quotient_eq, hnumber, index, hlog] at hlow ⊢
    generalize roundDiv (m * twoPow i) (twoPow (m.log2 + i - 52)) = k at hlow ⊢
    by_cases hk : k < fractionSize
    · have hzero : m.log2 + i - 52 = 0 := by omega
      rw [if_pos hk, hzero]
      simp only [top, infiniteExponent, fractionSize_eq] at hk ⊢
      omega
    · rw [if_neg hk]
      simp only [top, infiniteExponent, fractionSize_eq] at hk ⊢
      omega

end Accounts.Double
