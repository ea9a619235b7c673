import Mathlib.Data.Set.Basic
import Mathlib.Data.Rat.Defs

/-!
Lineages: how contexts came about, in the order of their births. Each birth names the parent and
the deadline that was asked for. From a context the line leads upwards through its ancestors, and
what holds along a line is not changed by later births.
-/
namespace Accounts

/-- How a context came about: its parent, and the deadline requested for it. -/
structure Birth where
  parent : Option Nat := none
  requested : Option ℚ := none

/-- All births in their order. A context is named by its place. -/
abbrev Lineage := List Birth

namespace Lineage

/-- The second context is the first one or an ancestor of it. -/
inductive Descends (l : Lineage) : Nat → Nat → Prop where
  | self (id : Nat) : Descends l id id
  | up {id p a : Nat} {b : Birth} (hb : l[id]? = some b) (hp : b.parent = some p)
    (h : Descends l p a) : Descends l id a

/-- Parents are older than their children. -/
def Founded (l : Lineage) : Prop :=
  ∀ id (b : Birth) p, l[id]? = some b → b.parent = some p → p < id

variable {l : Lineage} {id a : Nat} {b : Birth}

theorem Descends.trans {c : Nat} (h : l.Descends id a) (h' : l.Descends a c) : l.Descends id c := by
  induction h with
  | self _ => exact h'
  | up hb hp _ ih => exact .up hb hp (ih h')

/-- What holds somewhere up the line holds of the context itself or somewhere up its parent's line.
-/
theorem exists_descends_iff (hb : l[id]? = some b) (P : Nat → Prop) :
    (∃ a, l.Descends id a ∧ P a) ↔ P id ∨ ∃ p, b.parent = some p ∧ ∃ a, l.Descends p a ∧ P a := by
  constructor
  · rintro ⟨a, h, ha⟩
    cases h with
    | self _ => exact .inl ha
    | up hb' hp h =>
      cases hb.symm.trans hb'
      exact .inr ⟨_, hp, a, h, ha⟩
  · rintro (h | ⟨p, hp, a, h, ha⟩)
    · exact ⟨id, .self id, h⟩
    · exact ⟨a, .up hb hp h, ha⟩

/-- A line stays within the births. -/
theorem Descends.lt (hl : l.Founded) (h : l.Descends id a) (hid : id < l.length) :
    a < l.length := by
  induction h with
  | self _ => exact hid
  | up hb hp _ ih => exact ih ((hl _ _ _ hb hp).trans hid)

/-- A birth cuts no line. -/
theorem Descends.append (h : l.Descends id a) : Descends (l ++ [b]) id a := by
  induction h with
  | self _ => exact .self _
  | up hb hp _ ih =>
    refine .up ?_ hp ih
    rw [List.getElem?_append_left (List.getElem?_eq_some_iff.mp hb).1]
    exact hb

/-- A birth extends no line that is there already. -/
theorem descends_append_iff (hl : l.Founded) (hid : id < l.length) :
    Descends (l ++ [b]) id a ↔ l.Descends id a := by
  refine ⟨fun h => ?_, .append⟩
  induction h with
  | self _ => exact .self _
  | up hb hp _ ih =>
    rw [List.getElem?_append_left hid] at hb
    exact .up hb hp (ih ((hl _ _ _ hb hp).trans hid))

theorem Founded.append (hl : l.Founded) (hp : ∀ p, b.parent = some p → p < l.length) :
    Founded (l ++ [b]) := by
  intro id b' p hb hparent
  rcases lt_trichotomy id l.length with h | rfl | h
  · rw [List.getElem?_append_left h] at hb
    exact hl id b' p hb hparent
  · rw [List.getElem?_concat_length] at hb
    cases hb
    exact hp p hparent
  · rw [List.getElem?_append_right h.le, List.getElem?_eq_none (Nat.sub_pos_of_lt h)] at hb
    cases hb

/-- The deadlines requested for a context and its ancestors. -/
def requested (l : Lineage) (id : Nat) : Set ℚ :=
  {q | ∃ a, l.Descends id a ∧ ∃ b, l[a]? = some b ∧ b.requested = some q}

theorem requested_subset (h : l.Descends id a) : l.requested a ⊆ l.requested id := by
  rintro q ⟨c, hc, hq⟩
  exact ⟨c, h.trans hc, hq⟩

/-- A context adds what is requested for it to what it inherits. -/
theorem requested_eq (hb : l[id]? = some b) :
    l.requested id =
      {q | b.requested = some q} ∪ {q | ∃ p, b.parent = some p ∧ q ∈ l.requested p} := by
  ext q
  have h := exists_descends_iff hb fun a => ∃ b, l[a]? = some b ∧ b.requested = some q
  simp only [hb, Option.some.injEq, exists_eq_left'] at h
  exact h

theorem requested_subset_append : l.requested id ⊆ requested (l ++ [b]) id := by
  rintro q ⟨a, h, b', hb, hq⟩
  refine ⟨a, h.append, b', ?_, hq⟩
  rw [List.getElem?_append_left (List.getElem?_eq_some_iff.mp hb).1]
  exact hb

theorem requested_append (hl : l.Founded) (hid : id < l.length) :
    requested (l ++ [b]) id = l.requested id := by
  ext q
  refine exists_congr fun a => ?_
  rw [descends_append_iff hl hid]
  refine and_congr_right fun h => ?_
  rw [List.getElem?_append_left (h.lt hl hid)]

/-- The newborn inherits what was requested before. -/
theorem requested_append_length (hl : l.Founded) (hp : ∀ p, b.parent = some p → p < l.length) :
    requested (l ++ [b]) l.length =
      {q | b.requested = some q} ∪ {q | ∃ p, b.parent = some p ∧ q ∈ l.requested p} := by
  rw [requested_eq List.getElem?_concat_length]
  congr 1
  ext q
  refine exists_congr fun p => and_congr_right fun hparent => ?_
  rw [requested_append hl (hp p hparent)]

end Lineage

end Accounts
