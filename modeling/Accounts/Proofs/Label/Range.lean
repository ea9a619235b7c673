import Accounts.Proofs.Label.Sources

/-!
The range of code points. The tables name no number above it and the arithmetic of Hangul leads to
none, so mapping a text of code points gives a text of code points.
-/
namespace Accounts

/-! ## Normal form -/

namespace Text.Normal

def lastCodePoint : Nat := 0x10FFFF

theorem toNat_le (c : Char) : c.toNat ≤ lastCodePoint := by
  rcases c.valid with h | h
  · exact Nat.le_trans (Nat.le_of_lt h) (by decide)
  · exact Nat.le_of_lt_succ h.2

theorem pairs_le : ∀ r ∈ pairs,
    r.1 ≤ lastCodePoint ∧ r.2.1 ≤ lastCodePoint ∧ r.2.2 ≤ lastCodePoint := by
  decide +kernel

theorem equivalents_le : ∀ r ∈ equivalents, r.2 ≤ lastCodePoint := by decide +kernel

theorem le_of_mem_syllableParts {c d : Nat} (hc : c ≤ lastCodePoint) (h : d ∈ syllableParts c) :
    d ≤ lastCodePoint := by
  have hbounds : leadBase + (c - syllableBase) / (vowelCount * trailCount) ≤ lastCodePoint ∧
      vowelBase + (c - syllableBase) % (vowelCount * trailCount) / trailCount ≤ lastCodePoint ∧
      trailBase + (c - syllableBase) % trailCount ≤ lastCodePoint := by
    simp only [lastCodePoint, leadBase, vowelBase, trailBase, syllableBase, vowelCount,
      trailCount] at hc ⊢
    omega
  unfold syllableParts at h
  dsimp only at h
  split at h
  · simp only [List.mem_cons, List.not_mem_nil, or_false] at h
    rcases h with h | h
    · exact h ▸ hbounds.1
    · exact h ▸ hbounds.2.1
  · simp only [List.mem_cons, List.not_mem_nil, or_false] at h
    rcases h with h | h | h
    · exact h ▸ hbounds.1
    · exact h ▸ hbounds.2.1
    · exact h ▸ hbounds.2.2

theorem le_of_mem_parts {c d : Nat} (hc : c ≤ lastCodePoint) (h : d ∈ parts c) :
    d ≤ lastCodePoint := by
  unfold parts at h
  split at h
  · exact List.mem_singleton.mp h ▸ hc
  · split at h
    · exact le_of_mem_syllableParts hc h
    · split at h
      · next r a b hr =>
        obtain ⟨-, ha, hb⟩ := pairs_le _ (List.mem_of_find?_eq_some hr)
        simp only [List.mem_cons, List.not_mem_nil, or_false] at h
        rcases h with rfl | rfl
        · exact ha
        · exact hb
      · split at h
        · next r e hr =>
          have he := equivalents_le _ (List.mem_of_find?_eq_some hr)
          exact List.mem_singleton.mp h ▸ he
        · exact List.mem_singleton.mp h ▸ hc

theorem le_of_mem_decomposeTo {depth c d : Nat} (hc : c ≤ lastCodePoint)
    (h : d ∈ decomposeTo depth c) : d ≤ lastCodePoint := by
  induction depth generalizing c with
  | zero => exact List.mem_singleton.mp h ▸ hc
  | succ depth ih =>
    obtain ⟨e, he, hd⟩ := List.mem_flatMap.mp h
    exact ih (le_of_mem_parts hc he) hd

theorem joinParts_le {a b whole : Nat} (h : joinParts a b = some whole) :
    whole ≤ lastCodePoint := by
  unfold joinParts at h
  split at h
  · next hab =>
    have hw := Option.some.inj h
    simp only [lastCodePoint, leadBase, leadCount, vowelBase, vowelCount, syllableBase, trailCount]
      at hab hw ⊢
    omega
  · split at h
    · next hab =>
      have hw := Option.some.inj h
      simp only [lastCodePoint, isSyllable, syllableBase, syllableCount, leadCount, vowelCount,
        trailCount, trailBase, Bool.and_eq_true, Nat.blt_eq] at hab hw ⊢
      omega
    · cases h

theorem composePair_le {a b whole : Nat} (h : composePair a b = some whole) :
    whole ≤ lastCodePoint := by
  unfold composePair at h
  split at h
  · cases h
  · split at h
    · next c hj =>
      cases h
      exact joinParts_le hj
    · obtain ⟨r, hr, rfl⟩ := Option.map_eq_some_iff.mp h
      exact (pairs_le r (List.mem_of_find?_eq_some hr)).1

theorem le_of_mem_composeFrom {starter : Nat} {waiting cs : List Nat} (hs : starter ≤ lastCodePoint)
    (hw : ∀ c ∈ waiting, c ≤ lastCodePoint) (hcs : ∀ c ∈ cs, c ≤ lastCodePoint) {d : Nat}
    (h : d ∈ composeFrom starter waiting cs) : d ≤ lastCodePoint := by
  induction cs generalizing starter waiting with
  | nil =>
    rcases List.mem_cons.mp h with rfl | h
    · exact hs
    · exact hw d (List.mem_reverse.mp h)
  | cons c cs ih =>
    obtain ⟨hc, hcs⟩ := List.forall_mem_cons.mp hcs
    unfold composeFrom at h
    dsimp only at h
    split at h
    · next whole hwhole =>
      exact ih (composePair_le (Option.ite_none_left_eq_some.mp hwhole).2) hw hcs h
    · split at h
      · rcases List.mem_cons.mp h with rfl | h
        · exact hs
        · rcases List.mem_append.mp h with h | h
          · exact hw d (List.mem_reverse.mp h)
          · exact ih hc (by simp) hcs h
      · exact ih hs (List.forall_mem_cons.mpr ⟨hc, hw⟩) hcs h

/-- The composed form of code points consists of code points. -/
theorem le_of_mem_composed {cs : List Nat} (hcs : ∀ c ∈ cs, c ≤ lastCodePoint) {d : Nat}
    (h : d ∈ composed cs) : d ≤ lastCodePoint := by
  have hordered : ∀ c ∈ reorder (cs.flatMap decompose), c ≤ lastCodePoint := by
    intro c hc
    obtain ⟨e, he, hc⟩ := List.mem_flatMap.mp ((mem_reorder_iff _).mp hc)
    exact le_of_mem_decomposeTo (hcs e he) hc
  unfold composed at h
  cases hr : reorder (cs.flatMap decompose) with
  | nil =>
    rw [hr] at h
    cases h
  | cons starter rest =>
    rw [hr] at h hordered
    obtain ⟨hs, hrest⟩ := List.forall_mem_cons.mp hordered
    exact le_of_mem_composeFrom hs (by simp) hrest h

end Text.Normal

/-! ## Mapping -/

namespace Label

open Mapping
open Text.Normal (lastCodePoint le_of_mem_composed)

theorem several_le : ∀ r ∈ Several.table, ∀ d ∈ r.2, d ≤ lastCodePoint := by decide +kernel

theorem single_le : ∀ r ∈ Single.table, r.2 ≤ lastCodePoint := by decide +kernel

theorem runs_le : ∀ r ∈ Single.runs, r.2.2.2 + (r.2.1 - r.1) ≤ lastCodePoint := by decide +kernel

theorem le_of_mem_mapCodePoint {c d : Nat} {ds : List Nat} (hc : c ≤ lastCodePoint)
    (h : mapCodePoint c = some ds) (hd : d ∈ ds) : d ≤ lastCodePoint := by
  unfold mapCodePoint at h
  split at h
  · next hlow =>
    cases h
    have hd := List.mem_singleton.mp hd
    simp only [lastCodePoint]
    split at hd <;> omega
  · split at h
    · cases h
    · split at h
      · cases h
        cases hd
      · split at h
        · next cs hs =>
          cases h
          exact several_le _ (mem_of_lookup_eq_some hs) d hd
        · split at h
          · next first final stride image hr =>
            cases h
            have hrow := runs_le _ (List.mem_of_find?_eq_some hr)
            have hrange := List.find?_some hr
            simp only [Bool.and_eq_true, Nat.ble_eq] at hrange hrow
            have hd := List.mem_singleton.mp hd
            omega
          · split at h
            · next e hs =>
              cases h
              exact List.mem_singleton.mp hd ▸ single_le _ (mem_of_lookup_eq_some hs)
            · cases h
              exact List.mem_singleton.mp hd ▸ hc

/-- The mapped form of code points consists of code points. -/
theorem le_of_mem_map {text mapped : List Nat} (hm : map text = .ok mapped)
    (h : ∀ c ∈ text, c ≤ lastCodePoint) : ∀ d ∈ mapped, d ≤ lastCodePoint := by
  obtain ⟨all, hall, rfl⟩ := exists_mapAll hm
  intro d hd
  refine le_of_mem_composed ?_ hd
  intro e he
  obtain ⟨c, hc, ds, hds, he⟩ := (mem_mapAll_iff hall).mp he
  exact le_of_mem_mapCodePoint (h c hc) hds he

end Label

end Accounts
