import Accounts.Proofs.Json.Grammar

/-!
What is printed is printable ASCII. Every other character leaves the printer as an escape, whatever
the texts and names are, and numerals have none.
-/
namespace Accounts.Json

/-- A character from the space to the tilde. -/
def IsVisible (c : Char) : Prop := 0x20 ≤ c.toNat ∧ c.toNat ≤ 0x7E

instance (c : Char) : Decidable (IsVisible c) := inferInstanceAs (Decidable (_ ∧ _))

def AreVisible (s : List Char) : Prop := ∀ c ∈ s, IsVisible c

instance (s : List Char) : Decidable (AreVisible s) := List.decidableBAll _ s

@[simp] theorem areVisible_cons {c : Char} {s : List Char} :
    AreVisible (c :: s) ↔ IsVisible c ∧ AreVisible s := List.forall_mem_cons

@[simp] theorem areVisible_append {s t : List Char} :
    AreVisible (s ++ t) ↔ AreVisible s ∧ AreVisible t := List.forall_mem_append

theorem areVisible_nil : AreVisible [] := nofun

/-! ## Texts -/

theorem areVisible_unitEscape {n : Nat} (h : n < 0x10000) : AreVisible (unitEscape n) := by
  have hdigit : ∀ d < 16, IsVisible d.digitChar := by decide
  rw [unitEscape, Text.hex4_eq h]
  simp only [areVisible_cons]
  exact ⟨by decide, by decide, hdigit _ (by omega), hdigit _ (by omega), hdigit _ (by omega),
    hdigit _ (by omega), areVisible_nil⟩

theorem areVisible_escape {c : Nat} (h : c ≤ 0x10FFFF) : AreVisible (escape c) := by
  unfold escape
  -- The escapes of one letter.
  iterate 7
    split
    · decide
  split
  · next hplain =>
    have hnat : (Char.ofNat c).toNat = c := toNat_ofNat (by omega)
    rw [areVisible_cons, IsVisible, hnat]
    exact ⟨hplain, areVisible_nil⟩
  split
  · next hunit => exact areVisible_unitEscape hunit
  · exact areVisible_append.mpr
      ⟨areVisible_unitEscape (by omega), areVisible_unitEscape (by omega)⟩

theorem areVisible_quote {cs : List Nat} (h : InRange cs) : AreVisible (quote cs) := by
  have hescapes : AreVisible (cs.flatMap escape) := by
    intro d hd
    obtain ⟨c, hc, hescape⟩ := List.mem_flatMap.mp hd
    exact areVisible_escape (h c hc) d hescape
  rw [quote, areVisible_append, areVisible_cons]
  exact ⟨⟨by decide, hescapes⟩, by decide⟩

/-! ## Numbers -/

theorem areVisible_digits {digits : List Char} (h : ∀ c ∈ digits, c.isDigit = true) :
    AreVisible digits := by
  intro c hc
  have hdigit := h c hc
  simp only [Char.isDigit, Bool.and_eq_true, decide_eq_true_eq] at hdigit
  obtain ⟨hlow, hhigh⟩ := hdigit
  exact ⟨Nat.le_trans (by decide) hlow, Nat.le_trans hhigh (by decide)⟩

theorem IsFraction.areVisible {f : List Char} (h : IsFraction f) : AreVisible f := by
  rcases h with rfl | ⟨digits, -, hd, rfl⟩
  · exact areVisible_nil
  · exact areVisible_cons.mpr ⟨by decide, areVisible_digits hd⟩

theorem IsExponent.areVisible {e : List Char} (h : IsExponent e) : AreVisible e := by
  rcases h with rfl | ⟨mark, sign, digits, hmark, hsign, -, hd, rfl⟩
  · exact areVisible_nil
  · have hmarked : IsVisible mark := by rcases hmark with rfl | rfl <;> decide
    have hsigned : AreVisible sign := by rcases hsign with rfl | rfl | rfl <;> decide
    exact areVisible_cons.mpr ⟨hmarked, areVisible_append.mpr ⟨hsigned, areVisible_digits hd⟩⟩

theorem IsUnsigned.areVisible {s : List Char} (h : IsUnsigned s) : AreVisible s := by
  obtain ⟨w, f, e, hw, hf, he, rfl⟩ := h
  simp only [areVisible_append]
  exact ⟨areVisible_digits hw.isDigit, hf.areVisible, he.areVisible⟩

theorem IsNumeral.areVisible {s : List Char} (h : IsNumeral s) : AreVisible s := by
  rcases h with (hs | ⟨t, ht, rfl⟩) | hword
  · exact hs.areVisible
  · exact areVisible_cons.mpr ⟨by decide, ht.areVisible⟩
  · have hwords : ∀ w ∈ doubleWords, AreVisible w := by decide
    exact hwords s hword

/-! ## Values -/

mutual

theorem areVisible_print (j : Json) (h : j.IsReadable) : AreVisible j.print := by
  cases j with
  | null => decide
  | bool b => cases b <;> decide
  | number written => exact IsNumeral.areVisible h
  | text codePoints => exact areVisible_quote h
  | array items =>
    rw [print, areVisible_append, areVisible_cons]
    exact ⟨⟨by decide, areVisible_printItems items h⟩, by decide⟩
  | object members =>
    rw [print, areVisible_append, areVisible_cons]
    exact ⟨⟨by decide, areVisible_printMembers members h⟩, by decide⟩

theorem areVisible_printItems (items : List Json) (h : AreReadable items) :
    AreVisible (printItems items) := by
  match items, h with
  | [], _ => exact areVisible_nil
  | [item], h => exact areVisible_print item h.1
  | item :: next :: more, h =>
    simp only [printItems, areVisible_append, areVisible_cons]
    exact ⟨areVisible_print item h.1, by decide, by decide,
      areVisible_printItems (next :: more) h.2⟩

theorem areVisible_printMembers (members : List (List Nat × Json)) (h : HasReadable members) :
    AreVisible (printMembers members) := by
  match members, h with
  | [], _ => exact areVisible_nil
  | [(name, item)], h =>
    simp only [printMembers, areVisible_append, areVisible_cons]
    exact ⟨areVisible_quote h.1, by decide, by decide, areVisible_print item h.2.1⟩
  | (name, item) :: next :: more, h =>
    simp only [printMembers, areVisible_append, areVisible_cons]
    exact ⟨areVisible_quote h.1, by decide, by decide, areVisible_print item h.2.1, by decide,
      by decide, areVisible_printMembers (next :: more) h.2.2⟩

end

end Accounts.Json
