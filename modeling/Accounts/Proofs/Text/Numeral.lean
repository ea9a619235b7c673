import Mathlib.Data.Nat.Digits.Defs
import Accounts.Text.Numeral

/-!
Numerals are read back: a decimal numeral stands for the number that it was written for, and so do
four hexadecimal digits.
-/
namespace Accounts.Text

/-! ## Decimal -/

theorem decimal_ne_nil (n : Nat) : decimal n ≠ [] := Nat.toDigits_ne_nil

theorem isDigit_of_mem_decimal {n : Nat} {c : Char} (h : c ∈ decimal n) : c.isDigit = true :=
  Nat.isDigit_of_mem_toDigits (by decide) (by decide) h

theorem ofDecimal_decimal (n : Nat) : ofDecimal (decimal n) = n :=
  Nat.ofDigitChars_toDigits (by decide) (by decide)

/-- Only the numeral of zero begins with a zero. -/
theorem head?_decimal_ne {n : Nat} (h : 0 < n) : (decimal n).head? ≠ some '0' := by
  induction n using Nat.strongRecOn with
  | _ n ih =>
    by_cases hn : n < 10
    · have hdigits : ∀ d < 10, 0 < d → (decimal d).head? ≠ some '0' := by decide
      exact hdigits n hn h
    · have hquotient : (decimal (n / 10)).head? ≠ some '0' := ih (n / 10) (by omega) (by omega)
      have hdigits : decimal n = decimal (n / 10) ++ [(n % 10).digitChar] :=
        Nat.toDigits_of_base_le (by decide) (by omega)
      obtain ⟨c, cs, hcs⟩ := List.exists_cons_of_ne_nil (decimal_ne_nil (n / 10))
      rw [hcs] at hquotient hdigits
      rw [hdigits]
      exact hquotient

/-- A numeral is no longer than it has to be. -/
theorem pow_length_decimal_le {n : Nat} (h : 0 < n) : 10 ^ ((decimal n).length - 1) ≤ n := by
  have hpos := List.length_pos_iff.mpr (decimal_ne_nil n)
  by_contra hlt
  by_cases hone : (decimal n).length - 1 = 0
  · rw [hone] at hlt
    omega
  · have hle := Nat.toDigits_length 10 n _ (Nat.pos_of_ne_zero hone) (Nat.lt_of_not_le hlt)
    change (decimal n).length ≤ _ at hle
    omega

/-! ## Hexadecimal -/

/-- One more place holds the last digit. -/
theorem zeroPad_toDigits_succ {w : Nat} (hw : 0 < w) (n : Nat) :
    zeroPad (w + 1) (Nat.toDigits 16 n) =
      zeroPad w (Nat.toDigits 16 (n / 16)) ++ [(n % 16).digitChar] := by
  by_cases hn : n < 16
  · have hquotient : n / 16 = 0 := by omega
    have hplaces : List.replicate w '0' = List.replicate (w - 1) '0' ++ ['0'] := by
      rw [← List.replicate_succ', Nat.sub_add_cancel hw]
    rw [Nat.toDigits_of_lt_base hn, hquotient, Nat.mod_eq_of_lt hn]
    simp only [zeroPad, List.length_singleton, Nat.add_sub_cancel, hplaces]
    rfl
  · rw [Nat.toDigits_of_base_le (by decide) (by omega)]
    simp only [zeroPad, List.length_append, List.length_singleton, Nat.add_sub_add_right,
      List.append_assoc]

/-- Four hexadecimal digits, the highest first. -/
theorem hex4_eq {n : Nat} (h : n < 0x10000) :
    hex4 n = [(n / 16 / 16 / 16).digitChar, (n / 16 / 16 % 16).digitChar,
      (n / 16 % 16).digitChar, (n % 16).digitChar] := by
  have hhigh : n / 16 / 16 / 16 < 16 := by omega
  rw [hex4, zeroPad_toDigits_succ (by decide), zeroPad_toDigits_succ (by decide),
    zeroPad_toDigits_succ (by decide), Nat.toDigits_of_lt_base hhigh]
  rfl

theorem hexValue?_digitChar {d : Nat} (h : d < 16) : hexValue? d.digitChar = some d := by
  have all : ∀ e < 16, hexValue? e.digitChar = some e := by decide
  exact all d h

theorem ofHex?_hex4 {n : Nat} (h : n < 0x10000) : ofHex? (hex4 n) = some n := by
  have h3 := hexValue?_digitChar (show n / 16 / 16 / 16 < 16 by omega)
  have h2 := hexValue?_digitChar (show n / 16 / 16 % 16 < 16 by omega)
  have h1 := hexValue?_digitChar (show n / 16 % 16 < 16 by omega)
  have h0 := hexValue?_digitChar (show n % 16 < 16 by omega)
  have hvalue : 16 * (16 * (16 * (16 * 0 + n / 16 / 16 / 16) + n / 16 / 16 % 16) + n / 16 % 16) +
      n % 16 = n := by omega
  rw [hex4_eq h, ofHex?]
  simp only [List.foldlM_cons, List.foldlM_nil, h3, h2, h1, h0, Option.map_some,
    Option.bind_eq_bind, Option.bind_some, hvalue]
  rfl

end Accounts.Text
