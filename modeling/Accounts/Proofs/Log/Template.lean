import Accounts.Log.Record
import Accounts.Proofs.Json.RoundTrip

/-!
A message is made of code points. Most of them are characters of the template or of a written
argument; a number may be written as any code point, a surrogate as well, but as nothing beyond the
last one.
-/
namespace Accounts.Log

open Json (InRange)

namespace Percent

theorem inRange_codes (s : List Char) : InRange (codes s) := Json.inRange_map_toNat s

theorem inRange_append {s t : List Nat} (hs : InRange s) (ht : InRange t) : InRange (s ++ t) :=
  fun c hc => (List.mem_append.mp hc).elim (hs c) (ht c)

theorem inRange_cons {c : Nat} {s : List Nat} (hc : c ≤ 0x10FFFF) (hs : InRange s) :
    InRange (c :: s) := List.forall_mem_cons.mpr ⟨hc, hs⟩

theorem toNat_le (c : Char) : c.toNat ≤ 0x10FFFF := inRange_codes [c] _ List.mem_cons_self

/-! ## Results -/

variable {α β : Type}

/-- If there is a result, it has the property. -/
def Yields (P : α → Prop) (r : Except Error α) : Prop := ∀ a, r = .ok a → P a

theorem yields_ok {P : α → Prop} {a : α} (h : P a) : Yields P (.ok a) := by
  rintro _ ⟨⟩
  exact h

theorem yields_error (P : α → Prop) (e : Error) : Yields P (.error e) := by
  rintro _ ⟨⟩

theorem yields_map {P : β → Prop} {f : α → β} {r : Except Error α}
    (h : Yields (fun a => P (f a)) r) : Yields P (r.map f) := by
  cases r with
  | error e => exact yields_error P e
  | ok a => exact yields_ok (h a rfl)

theorem yields_any (r : Except Error α) : Yields (fun _ => True) r := fun _ _ => trivial

theorem Yields.bind {P : α → Prop} {Q : β → Prop} {f : α → Except Error β} {r : Except Error α}
    (hr : Yields P r) (hf : ∀ a, P a → Yields Q (f a)) : Yields Q (r >>= f) := by
  cases r with
  | error e => exact yields_error Q e
  | ok a => exact hf a (hr a rfl)

/-! ## Conversions -/

theorem yields_codePoint (item : Item) : Yields (· ≤ 0x10FFFF) (codePoint item) := by
  unfold codePoint
  split
  · split
    · exact yields_ok (toNat_le _)
    · exact yields_error _ _
  · split
    · exact yields_ok (by omega)
    · exact yields_error _ _
  · next b => cases b <;> exact yields_ok (by decide)
  · exact yields_error _ _

theorem inRange_padCode (spec : Spec) {c : Nat} (h : c ≤ 0x10FFFF) : InRange (padCode spec c) := by
  have hgap := inRange_codes (spaces (spec.width.getD 0 - 1))
  unfold padCode
  split
  · exact inRange_cons h hgap
  · exact inRange_append hgap (inRange_cons h nofun)

/-- Whatever the letter: an argument is written in characters, or as one code point. -/
theorem yields_convert (spec : Spec) (letter : Char) (index : Nat) (item : Item) :
    Yields InRange (convert spec letter index item) := by
  unfold convert
  split
  all_goals first
    | exact yields_ok (inRange_codes _)
    | exact yields_map fun _ _ => inRange_codes _
    | exact yields_map fun c hc => inRange_padCode spec (yields_codePoint item c hc)
    | exact yields_error _ _

theorem yields_conversion (length : Nat) (a : Arguments) (s : List Char) :
    Yields (fun r => InRange r.1) (conversion length a s) := by
  unfold conversion
  refine (yields_any _).bind fun ⟨a, s⟩ _ => (yields_any _).bind fun ⟨spec, a, s⟩ _ =>
    (yields_any _).bind fun ⟨spec, a, s⟩ _ => ?_
  dsimp only
  split
  · exact yields_error _ _
  · exact (yields_any _).bind fun ⟨item, a⟩ _ =>
      (yields_convert spec _ _ item).bind fun written hwritten => yields_ok hwritten

/-! ## Messages -/

/-- The fuel goes down along the template; each step puts something in front of the rest. -/
theorem yields_fill (length fuel : Nat) (a : Arguments) (s : List Char) :
    Yields InRange (fill length fuel a s) := by
  fun_induction fill length fuel a s with
  | case1 => exact yields_error _ _
  | case2 => exact yields_ok nofun
  | case3 => exact yields_error _ _
  | case4 fuel a s ih => exact yields_map fun rest hrest => inRange_cons (by decide) (ih rest hrest)
  | case5 => exact yields_error _ _
  | case6 fuel a s hescape written a' s' hconversion ih =>
    have hwritten : InRange written := yields_conversion length a s _ hconversion
    exact yields_map fun rest hrest => inRange_append hwritten (ih rest hrest)
  | case7 fuel a c s hescape hpercent ih =>
    exact yields_map fun rest hrest => inRange_cons (toNat_le c) (ih rest hrest)

theorem yields_format (template : List Char) (arguments : Item) :
    Yields InRange (format template arguments) := yields_fill _ _ _ _

end Percent

/-- The code points of a message are in their range. -/
theorem Record.inRange_message {r : Record} {message : List Nat} (h : r.message = .ok message) :
    InRange message := by
  unfold Record.message at h
  split at h
  · cases h
    exact Percent.inRange_codes _
  · exact Percent.yields_format _ _ message h

end Accounts.Log
