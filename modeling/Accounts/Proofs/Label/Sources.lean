import Accounts.Label.Mapping
import Accounts.Proofs.Text.Composition

/-!
Mapping read backwards: which code points of a text can have brought in a code point of its mapped
form. For a code point that composition leaves alone, these are found in the tables.
-/
namespace Accounts.Label

open Mapping
open Text.Normal (IsStandalone mem_composed_iff)

/-- The code points whose rows in the tables show `x` as a replacement, or as one of several. -/
def sources (x : Nat) : List Nat :=
  ((Several.table.filter fun r => r.2.contains x).map fun r => r.1) ++
    ((Single.runs.filter fun r => Nat.ble r.2.2.2 x && Nat.ble x (r.2.2.2 + (r.2.1 - r.1))).map
      fun r => r.1 + (x - r.2.2.2)) ++
    ((Single.table.filter fun r => r.2 == x).map fun r => r.1)

variable {x : Nat}

theorem mem_of_lookup_eq_some {β : Type} {rows : List (Nat × β)} {c : Nat} {b : β}
    (h : rows.lookup c = some b) : (c, b) ∈ rows := by
  obtain ⟨front, back, rfl, -⟩ := List.lookup_eq_some_iff.mp h
  simp

/-- A run replaces a code point by what lies as far behind the image of its first. -/
theorem mem_sources_of_run {c : Nat} {r : Nat × Nat × Nat × Nat} (hr : Single.run c = some r)
    (hx : x = r.2.2.2 + (c - r.1)) : c ∈ sources x := by
  have hmem := List.mem_of_find?_eq_some hr
  have hc := List.find?_some hr
  simp only [Bool.and_eq_true, Nat.ble_eq] at hc
  simp only [sources, List.mem_append, List.mem_map, List.mem_filter, Bool.and_eq_true, Nat.ble_eq]
  refine .inl (.inr ⟨r, ⟨hmem, ?_, ?_⟩, ?_⟩)
  · omega
  · omega
  · omega

/-- What stands in the mapped form of a code point is itself, a small letter for a capital, or in
the tables. -/
theorem source_of_mem_mapCodePoint {c : Nat} {ds : List Nat} (h : mapCodePoint c = some ds)
    (hx : x ∈ ds) : c = x ∨ (0x41 ≤ c ∧ c ≤ 0x5A ∧ x = c + 0x20) ∨ c ∈ sources x := by
  unfold mapCodePoint at h
  split at h
  · cases h
    have hd := List.mem_singleton.mp hx
    split at hd
    · next hc => exact .inr (.inl ⟨hc.1, hc.2, hd⟩)
    · exact .inl hd.symm
  · split at h
    · cases h
    · split at h
      · cases h
        cases hx
      · split at h
        · next cs hs =>
          cases h
          refine .inr (.inr ?_)
          have hmem := mem_of_lookup_eq_some hs
          simp only [sources, List.mem_append, List.mem_map, List.mem_filter]
          exact .inl (.inl ⟨(c, ds), ⟨hmem, List.contains_iff_mem.mpr hx⟩, rfl⟩)
        · split at h
          · next first last stride image hr =>
            cases h
            exact .inr (.inr (mem_sources_of_run hr (List.mem_singleton.mp hx)))
          · split at h
            · next d hs =>
              cases h
              have hd := List.mem_singleton.mp hx
              subst hd
              have hmem := mem_of_lookup_eq_some hs
              refine .inr (.inr ?_)
              simp only [sources, List.mem_append, List.mem_map, List.mem_filter]
              exact .inr ⟨(c, x), ⟨hmem, beq_self_eq_true x⟩, rfl⟩
            · cases h
              exact .inl (List.mem_singleton.mp hx).symm

theorem mapAll_cons_eq_some {c : Nat} {cs all : List Nat} (h : mapAll (c :: cs) = some all) :
    ∃ ds es, mapCodePoint c = some ds ∧ mapAll cs = some es ∧ all = ds ++ es := by
  simp only [mapAll] at h
  split at h
  · next ds es hc hcs => exact ⟨ds, es, hc, hcs, (Option.some.inj h).symm⟩
  · cases h

theorem mem_mapAll_iff {text mapped : List Nat} (h : mapAll text = some mapped) :
    x ∈ mapped ↔ ∃ c ∈ text, ∃ ds, mapCodePoint c = some ds ∧ x ∈ ds := by
  induction text generalizing mapped with
  | nil =>
    cases h
    simp
  | cons c cs ih =>
    obtain ⟨ds, es, hc, hcs, rfl⟩ := mapAll_cons_eq_some h
    simp [hc, ih hcs]

/-- What a mapped text is the composed form of. -/
theorem exists_mapAll {text mapped : List Nat} (h : map text = .ok mapped) :
    ∃ all, mapAll text = some all ∧ mapped = Text.Normal.composed all := by
  unfold map at h
  split at h
  · cases h
  · split at h
    · next all hm =>
      cases h
      exact ⟨all, hm, rfl⟩
    · cases h

/-- In a text that can be mapped no code point is disallowed. -/
theorem exists_mapCodePoint {text mapped : List Nat} {c : Nat} (h : map text = .ok mapped)
    (hc : c ∈ text) : ∃ ds, mapCodePoint c = some ds := by
  obtain ⟨all, hall, -⟩ := exists_mapAll h
  clear h
  induction text generalizing all with
  | nil => cases hc
  | cons d cs ih =>
    obtain ⟨ds, es, hd, hcs, -⟩ := mapAll_cons_eq_some hall
    rcases List.mem_cons.mp hc with rfl | hc
    · exact ⟨ds, hd⟩
    · exact ih hc es hcs

/-- A code point that composition leaves alone comes from code points of the text. -/
theorem mem_map_iff (hx : IsStandalone x) {text mapped : List Nat} (h : map text = .ok mapped) :
    x ∈ mapped ↔ ∃ c ∈ text, ∃ ds, mapCodePoint c = some ds ∧ x ∈ ds := by
  obtain ⟨all, hall, rfl⟩ := exists_mapAll h
  rw [mem_composed_iff hx, mem_mapAll_iff hall]

end Accounts.Label
