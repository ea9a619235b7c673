import Mathlib.Data.List.DropRight
import Accounts.Number.Written
import Accounts.Proofs.Json.RoundTrip
import Accounts.Proofs.Number.Order

/-!
How doubles are written. The shortest form of a finite double is a number as JSON has it: digits
without a superfluous zero in front, then a fraction or an exponent or both.
-/
namespace Accounts

/-! ## Significant digits -/

namespace Digits

/-- Digits of which the first is not a zero. -/
structure IsSignificant (digits : List Char) : Prop where
  ne_nil : digits ≠ []
  isDigit : ∀ c ∈ digits, c.isDigit = true
  head : digits.head? ≠ some '0'

theorem isSignificant_decimal {q : Nat} (h : 0 < q) : IsSignificant (Text.decimal q) where
  ne_nil := Text.decimal_ne_nil q
  isDigit := fun _ hc => Text.isDigit_of_mem_decimal hc
  head := Text.head?_decimal_ne h

/-- Zeros at the end can be left out. -/
theorem IsSignificant.trimZeros {digits : List Char} (h : IsSignificant digits) :
    IsSignificant (trimZeros digits) := by
  have hstart : Digits.trimZeros digits <+: digits := List.rdropWhile_prefix _ _
  have hne : Digits.trimZeros digits ≠ [] := by
    intro hnil
    have hzeros := List.rdropWhile_eq_nil_iff.mp hnil
    obtain ⟨c, cs, rfl⟩ := List.exists_cons_of_ne_nil h.ne_nil
    have hc := eq_of_beq (hzeros c List.mem_cons_self)
    exact h.head (by rw [hc]; rfl)
  refine ⟨hne, fun c hc => h.isDigit c (hstart.subset hc), ?_⟩
  rw [List.head?_eq_some_head hne, List.IsPrefix.head hstart hne, ← List.head?_eq_some_head]
  exact h.head

/-! ## The shortest digits -/

/-- Zero lies in no interval of a positive double. -/
theorem Interval.not_holds_zero {i : Interval} (h : 0 < i.low) (k : Int) : i.holds k 0 = false := by
  have hup : 0 < i.low * tenPow (-k).toNat := Nat.mul_pos h (Nat.pow_pos (by decide))
  have hble : Nat.ble (i.low * tenPow (-k).toNat) 0 = false :=
    Bool.eq_false_iff.mpr fun hle => absurd (Nat.ble_eq.mp hle) (Nat.not_le.mpr hup)
  have hblt : Nat.blt (i.low * tenPow (-k).toNat) 0 = false :=
    Bool.eq_false_iff.mpr fun hlt => absurd (Nat.blt_eq.mp hlt) (Nat.not_lt_zero _)
  simp only [Interval.holds, Nat.zero_mul, hble, hblt, Bool.false_and, ite_self]

theorem Interval.onGrid_pos {i : Interval} (h : 0 < i.low) {k : Int} {q : Nat}
    (hq : i.onGrid k = some q) : 0 < q := by
  have hzero : ∀ n, i.holds k n = true → 0 < n := by
    intro n hn
    by_contra hnot
    obtain rfl : n = 0 := by omega
    rw [Interval.not_holds_zero h] at hn
    cases hn
  simp only [Interval.onGrid] at hq
  split at hq
  · next hlow _ =>
    cases hq
    exact Nat.lt_of_lt_of_le (hzero _ hlow) (Double.roundDiv_bounds _ _).1
  · next hlow _ =>
    cases hq
    exact hzero _ hlow
  · next _ hhigh =>
    cases hq
    exact Nat.succ_pos _
  · cases hq

/-- The digits are those of a positive number, if at last they are with 18 of them. -/
theorem Interval.exists_shortest {i : Interval} (h : 0 < i.low) (point : Int) (left count : Nat)
    (hlast : 0 < Double.roundDiv (inUnits i.value i.den (point - (left + count : Nat))).1
      (inUnits i.value i.den (point - (left + count : Nat))).2) :
    ∃ q k, 0 < q ∧ i.shortest point left count = place q k := by
  induction left generalizing count with
  | zero =>
    rw [Nat.zero_add] at hlast
    exact ⟨_, _, hlast, rfl⟩
  | succ left ih =>
    rw [Interval.shortest]
    split
    · next q hq => exact ⟨q, _, Interval.onGrid_pos h hq, rfl⟩
    · apply ih
      rwa [Nat.add_right_comm, Nat.add_assoc] at hlast

theorem tenPow_pos (k : Nat) : 0 < tenPow k := Nat.pow_pos (by decide)

theorem tenPow_add (i j : Nat) : tenPow (i + j) = tenPow i * tenPow j := Nat.pow_add 10 i j

/-- A number is at least one in units of its first digit or of a later one. -/
theorem inUnits_le {n d : Nat} (hd : 0 < d) (hn : d ≤ n * tenPow manyPlaces) {count : Nat}
    (hcount : 0 < count) :
    (inUnits n d (pointOf n d - count)).2 ≤ (inUnits n d (pointOf n d - count)).1 := by
  have hlength : d * tenPow ((Text.decimal (n * tenPow manyPlaces / d)).length - 1) ≤
      n * tenPow manyPlaces :=
    calc d * tenPow ((Text.decimal (n * tenPow manyPlaces / d)).length - 1)
        ≤ d * (n * tenPow manyPlaces / d) :=
          Nat.mul_le_mul_left _ (Text.pow_length_decimal_le (Nat.div_pos hn hd))
      _ ≤ n * tenPow manyPlaces := Nat.mul_div_le _ _
  have hpos := List.length_pos_iff.mpr (Text.decimal_ne_nil (n * tenPow manyPlaces / d))
  simp only [inUnits, pointOf]
  generalize (Text.decimal (n * tenPow manyPlaces / d)).length = digits at hlength hpos ⊢
  generalize ha : ((digits : Int) - manyPlaces - count).toNat = a
  generalize hb : (-((digits : Int) - manyPlaces - count)).toNat = b
  have hplaces : digits - 1 + b = manyPlaces + (count - 1) + a := by omega
  have hscaled : d * tenPow a * tenPow (manyPlaces + (count - 1)) ≤
      n * tenPow b * tenPow (manyPlaces + (count - 1)) :=
    calc d * tenPow a * tenPow (manyPlaces + (count - 1))
        = d * tenPow (digits - 1) * tenPow b := by
          rw [Nat.mul_assoc, Nat.mul_assoc, ← tenPow_add, ← tenPow_add, hplaces, Nat.add_comm a]
      _ ≤ n * tenPow manyPlaces * tenPow b := Nat.mul_le_mul_right _ hlength
      _ = n * tenPow b * tenPow manyPlaces := Nat.mul_right_comm _ _ _
      _ ≤ n * tenPow b * tenPow (manyPlaces + (count - 1)) := by
          rw [tenPow_add, ← Nat.mul_assoc]
          exact Nat.le_mul_of_pos_right _ (tenPow_pos _)
  exact Nat.le_of_mul_le_mul_right hscaled (tenPow_pos _)

theorem twoPow_le_twoPow {i j : Nat} (h : i ≤ j) : twoPow i ≤ twoPow j :=
  Nat.pow_le_pow_right (by decide) h

/-- The shortest digits of a positive double are significant. -/
theorem isSignificant_shortest {m : Nat} {e : Int} (hm : 0 < m) (he : Double.leastExponent ≤ e) :
    IsSignificant (shortest m e).digits := by
  have hs : 0 < twoPow (e - 2).toNat := Double.twoPow_pos _
  have hvalue : 0 < (Interval.of m e).value := Nat.mul_pos (by omega) hs
  have hden : 0 < (Interval.of m e).den := Double.twoPow_pos _
  have hlow : 0 < (Interval.of m e).low := by
    apply Nat.mul_pos _ hs
    split <;> omega
  -- No double is so small that its first digit stands behind all places.
  have hplaces : (Interval.of m e).den ≤ (Interval.of m e).value * tenPow manyPlaces :=
    calc (Interval.of m e).den ≤ twoPow 1076 :=
          twoPow_le_twoPow (by simp only [Double.leastExponent] at he; omega)
      _ ≤ tenPow manyPlaces := by decide +kernel
      _ ≤ _ := Nat.le_mul_of_pos_left _ hvalue
  have hlast := inUnits_le hden hplaces (show 0 < 17 + 1 by decide)
  have hround : 0 < Double.roundDiv
      (inUnits (Interval.of m e).value (Interval.of m e).den
        (pointOf (Interval.of m e).value (Interval.of m e).den - (17 + 1 : Nat))).1
      (inUnits (Interval.of m e).value (Interval.of m e).den
        (pointOf (Interval.of m e).value (Interval.of m e).den - (17 + 1 : Nat))).2 := by
    refine Nat.lt_of_lt_of_le ?_ (Double.roundDiv_bounds _ _).1
    exact Nat.div_pos hlast (Nat.mul_pos hden (tenPow_pos _))
  obtain ⟨q, k, hq, hplace⟩ := Interval.exists_shortest hlow _ 17 1 hround
  simp only [shortest, hplace, place]
  exact (isSignificant_decimal hq).trimZeros

end Digits

/-! ## Forms -/

namespace Written

open Digits (Placed IsSignificant)
open Json (IsWhole IsFraction IsExponent IsUnsigned IsNumber)

theorem isDigit_of_mem_zeros {n : Nat} {c : Char} (h : c ∈ List.replicate n '0') :
    c.isDigit = true := by
  obtain rfl := List.eq_of_mem_replicate h
  decide

theorem isExponent_exponentPart (e : Int) : IsExponent (exponentPart e) := by
  refine .inr ⟨'e', [if e < 0 then '-' else '+'], Text.zeroPad 2 (Text.decimal e.natAbs), .inl rfl,
    .inr ?_, ?_, ?_, rfl⟩
  · split
    · exact .inr rfl
    · exact .inl rfl
  · simp [Text.zeroPad, Text.decimal_ne_nil]
  · intro c hc
    rcases List.mem_append.mp hc with hc | hc
    · exact isDigit_of_mem_zeros hc
    · exact Text.isDigit_of_mem_decimal hc

/-- The digits in front of the point and behind it. -/
theorem positional_parts {p : Placed} (h : IsSignificant p.digits) :
    IsWhole (positional p).1 ∧ ∀ c ∈ (positional p).2, c.isDigit = true := by
  unfold positional
  split
  · refine ⟨Json.isWhole_decimal 0, fun c hc => ?_⟩
    rcases List.mem_append.mp hc with hc | hc
    · exact isDigit_of_mem_zeros hc
    · exact h.isDigit c hc
  · next hpoint =>
    obtain ⟨c, cs, hcs⟩ := List.exists_cons_of_ne_nil h.ne_nil
    obtain ⟨before, hbefore⟩ : ∃ before, p.point.toNat = before + 1 := ⟨p.point.toNat - 1, by omega⟩
    refine ⟨⟨?_, ?_, .inr ?_⟩, fun c hc => h.isDigit c (List.mem_of_mem_drop hc)⟩
    · simp [hcs, hbefore]
    · intro d hd
      rcases List.mem_append.mp hd with hd | hd
      · exact h.isDigit d (List.mem_of_mem_take hd)
      · exact isDigit_of_mem_zeros hd
    · have hhead := h.head
      rw [hcs] at hhead ⊢
      simpa [hbefore] using hhead

theorem isUnsigned_scientific {p : Placed} (h : IsSignificant p.digits) :
    IsUnsigned (scientific p (1 < p.digits.length)) := by
  obtain ⟨c, cs, hcs⟩ := List.exists_cons_of_ne_nil h.ne_nil
  have hc : c.isDigit = true := h.isDigit c (by simp [hcs])
  have hrest : ∀ d ∈ cs, d.isDigit = true := fun d hd => h.isDigit d (by simp [hcs, hd])
  have hwhole : IsWhole [c] := by
    refine ⟨by simp, by simpa using hc, .inr ?_⟩
    have hhead := h.head
    rwa [hcs] at hhead
  have hexponent := isExponent_exponentPart (p.point - 1)
  simp only [scientific, hcs]
  cases cs with
  | nil => exact ⟨[c], [], _, hwhole, .inl rfl, hexponent, by simp⟩
  | cons d ds =>
    have hfraction : IsFraction ('.' :: d :: ds) := .inr ⟨d :: ds, by simp, hrest, rfl⟩
    exact ⟨[c], _, _, hwhole, hfraction, hexponent, by simp⟩

theorem isUnsigned_shortestForm {p : Placed} (h : IsSignificant p.digits) :
    IsUnsigned (shortestForm p) := by
  unfold shortestForm
  split
  · obtain ⟨hwhole, hfrac⟩ := positional_parts h
    have hfraction : IsFraction
        ('.' :: if (positional p).2 = [] then ['0'] else (positional p).2) := by
      refine .inr ⟨_, ?_, ?_, rfl⟩
      · split
        · simp
        · next hne => exact hne
      · split
        · exact List.forall_mem_singleton.mpr rfl
        · exact hfrac
    exact ⟨_, _, [], hwhole, hfraction, .inl rfl, by simp⟩
  · exact isUnsigned_scientific h

theorem isNumber_minus {body : List Char} (h : IsUnsigned body) (negative : Bool) :
    IsNumber (minus negative body) := by
  cases negative with
  | false => exact .inl h
  | true => exact .inr ⟨body, h, rfl⟩

/-- The shortest form of a finite double is a number. -/
theorem isNumber_shortest {x : Double} {s : Bool} {m : Nat} {e : Int}
    (hx : x.magnitude = .finite s m e) : IsNumber (shortest x) := by
  unfold shortest
  rw [hx]
  by_cases hm : m = 0
  · subst hm
    have hfraction : IsFraction ['.', '0'] :=
      .inr ⟨['0'], by simp, List.forall_mem_singleton.mpr rfl, rfl⟩
    have hzero : IsUnsigned ['0', '.', '0'] :=
      ⟨['0'], _, [], Json.isWhole_decimal 0, hfraction, .inl rfl, rfl⟩
    exact isNumber_minus hzero s
  · have hdigits := Digits.isSignificant_shortest (Nat.pos_of_ne_zero hm)
      (Double.leastExponent_le hx)
    split
    · next h => cases h
    · next h => cases h
    · next h =>
      cases h
      exact absurd rfl hm
    · next h =>
      cases h
      exact isNumber_minus (isUnsigned_shortestForm hdigits) s

end Written

end Accounts
