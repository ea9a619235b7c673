import Mathlib.Order.Bounds.Basic
import Accounts.Context
import Accounts.Proofs.Context.Lineage
import Accounts.Proofs.Time.Value
import Accounts.Table

/-!
The history of contexts, told from outside. A genealogy says how each context came about, which
contexts have been cancelled, and what the time is, in exact numbers. It keeps no effective
deadlines: a context is cancelled when it or an ancestor is among the cancelled ones, and its
deadline is the least of all that were requested from there upwards. Contexts that reflect a
genealogy come to the same, although they fold a deadline in when a context is created and look for
cancelled ancestors each time.
-/
namespace Accounts

/-! ## Genealogies -/

/-- What has happened to contexts: their births and names, which of them have been cancelled, and
the time. -/
structure Genealogy where
  now : ℚ
  births : Lineage := [{}]
  named : Table Nat := [("bg", 0)]
  cancelled : List Nat := []

namespace Genealogy

def bear (g : Genealogy) (name : String) (b : Birth) : Genealogy :=
  { g with births := g.births ++ [b], named := g.named.put name g.births.length }

def cancel (g : Genealogy) (id : Nat) : Genealogy := { g with cancelled := id :: g.cancelled }

/-- The context itself or an ancestor has been cancelled. -/
def IsCancelled (g : Genealogy) (id : Nat) : Prop :=
  ∃ a, g.births.Descends id a ∧ a ∈ g.cancelled

/-- The deadlines requested for the context and its ancestors. -/
def requested (g : Genealogy) (id : Nat) : Set ℚ := g.births.requested id

end Genealogy

/-- The least member of a set, or nothing if it is empty. -/
def Earliest (S : Set ℚ) : Option ℚ → Prop
  | none => S = ∅
  | some q => IsLeast S q

/-- Whatever is in a set, the least member of it is not later. -/
theorem Earliest.exists_le {S : Set ℚ} {d? : Option Moment} {q : ℚ}
    (h : Earliest S (d?.map Moment.value)) (hq : q ∈ S) : ∃ d, d? = some d ∧ d.value ≤ q := by
  cases d? with
  | none =>
    have hempty : S = ∅ := h
    rw [hempty] at hq
    exact absurd hq (Set.notMem_empty q)
  | some d => exact ⟨d, rfl, h.2 hq⟩

theorem earliest_self (r : Option ℚ) : Earliest {q | r = some q} r := by
  cases r with
  | none => exact Set.eq_empty_of_forall_notMem fun q h => by cases h
  | some q => exact ⟨rfl, fun x hx => (Option.some.inj hx).le⟩

/-- Of two deadlines a context has one of them. -/
theorem isFinite_inherit {requested inherited : Option Moment} {d : Moment}
    (hr : ∀ d, requested = some d → d.IsFinite) (hi : ∀ d, inherited = some d → d.IsFinite)
    (h : Contexts.inherit requested inherited = some d) : d.IsFinite := by
  cases requested with
  | none => exact hi d h
  | some r =>
    cases inherited with
    | none => exact hr d h
    | some i =>
      simp only [Contexts.inherit, Contexts.earlier, Option.some.injEq] at h
      split at h
      · exact hi d (congrArg some h)
      · exact hr d (congrArg some h)

/-- The least of what is requested and what is inherited. -/
theorem Earliest.inherit {S U : Set ℚ} {requested inherited : Option Moment}
    (hr : ∀ d, requested = some d → d.IsFinite) (hi : ∀ d, inherited = some d → d.IsFinite)
    (h : Earliest S (requested.map Moment.value)) (h' : Earliest U (inherited.map Moment.value)) :
    Earliest (S ∪ U) ((Contexts.inherit requested inherited).map Moment.value) := by
  cases requested with
  | none =>
    rw [show S = ∅ from h, Set.empty_union]
    exact h'
  | some d =>
    cases inherited with
    | none =>
      rw [show U = ∅ from h', Set.union_empty]
      exact h
    | some e =>
      have hmin : (Contexts.earlier d e).value = min d.value e.value := by
        unfold Contexts.earlier
        split
        · next hlt => exact (min_eq_right ((Moment.lt_iff (hi e rfl) (hr d rfl)).mp hlt).le).symm
        · next hlt =>
          rw [Moment.lt_iff (hi e rfl) (hr d rfl)] at hlt
          exact (min_eq_left (not_lt.mp hlt)).symm
      have hleast : IsLeast (S ∪ U) (min d.value e.value) := IsLeast.union h h'
      rw [← hmin] at hleast
      exact hleast

/-! ## Records of contexts -/

namespace Contexts

variable {T : Type}

/-- Cancelling marks one context. -/
theorem get?_cancel (cs : Contexts T) (id other : Nat) :
    (cs.cancel id).get? other =
      (cs.get? other).map fun c => if other = id then { c with cancelled := true } else c := by
  induction cs with
  | nil => rfl
  | cons c older ih =>
    by_cases hi : id = older.length
    · by_cases ho : other = older.length
      · simp [cancel, get?, hi, ho]
      · simp [cancel, get?, hi, ho]
    · by_cases ho : other = older.length
      · simp [cancel, get?, hi, ho, Ne.symm hi]
      · simp only [cancel, get?, hi, ho, if_false, length_cancel]
        exact ih

theorem get?_create_of_lt [Timeline T] {cs : Contexts T} {id : Nat} (h : id < cs.length)
    (requested : Option T) (parent : Option Nat) :
    (cs.create requested parent).get? id = cs.get? id := by
  rw [create, get?, if_neg h.ne]

theorem get?_create_length [Timeline T] (cs : Contexts T) (requested : Option T)
    (parent : Option Nat) :
    (cs.create requested parent).get? cs.length =
      some { parent := parent, deadline := inherit requested (parent.bind cs.deadline?) } := by
  rw [create, get?, if_pos rfl]

theorem lt_of_get? {cs : Contexts T} {id : Nat} {c : Context T} (h : cs.get? id = some c) :
    id < cs.length := by
  by_contra hge
  rw [get?_of_length_le (not_lt.mp hge)] at h
  cases h

theorem lt_of_deadline? {cs : Contexts T} {id : Nat} {d : T} (h : cs.deadline? id = some d) :
    id < cs.length := by
  obtain ⟨c, hc, -⟩ := Option.bind_eq_some_iff.mp h
  exact lt_of_get? hc

theorem isCancelled_cons_of_lt (c : Context T) {older : Contexts T} {id : Nat}
    (h : id < older.length) : isCancelled (c :: older) id = older.isCancelled id := by
  rw [isCancelled, if_neg h.ne]

/-- A context counts as cancelled when it is marked or its parent counts as cancelled. -/
theorem isCancelled_of_get? {cs : Contexts T} {id : Nat} {c : Context T} (hc : cs.get? id = some c)
    (hp : ∀ p, c.parent = some p → p < id) :
    cs.isCancelled id = true ↔
      c.cancelled = true ∨ ∃ p, c.parent = some p ∧ cs.isCancelled p = true := by
  induction cs with
  | nil => cases hc
  | cons youngest older ih =>
    by_cases he : id = older.length
    · rw [get?, if_pos he] at hc
      cases hc
      rw [isCancelled, if_pos he, Bool.or_eq_true]
      cases hparent : c.parent with
      | none => simp
      | some p =>
        have hlt : p < older.length := he ▸ hp p hparent
        simp [isCancelled_cons_of_lt c hlt]
    · rw [get?, if_neg he] at hc
      have hid := lt_of_get? hc
      rw [isCancelled_cons_of_lt youngest hid, ih hc]
      refine or_congr_right (exists_congr fun p => and_congr_right fun hparent => ?_)
      rw [isCancelled_cons_of_lt youngest ((hp p hparent).trans hid)]

/-! ## Contexts and their genealogy -/

/-- Contexts that have been created and cancelled as a genealogy says. Each one knows its parent,
is marked when it was cancelled itself, and has the least deadline of its line. -/
structure Reflects (cs : Contexts Moment) (g : Genealogy) : Prop where
  length : cs.length = g.births.length
  founded : g.births.Founded
  born : ∀ id ∈ g.cancelled, id < g.births.length
  records : ∀ id b, g.births[id]? = some b →
    ∃ c, cs.get? id = some c ∧ c.parent = b.parent ∧ (c.cancelled = true ↔ id ∈ g.cancelled)
  finite : ∀ id d, cs.deadline? id = some d → d.IsFinite
  earliest : ∀ id, id < cs.length →
    Earliest (g.requested id) ((cs.deadline? id).map Moment.value)

variable {cs : Contexts Moment} {g : Genealogy} {id : Nat}

theorem Reflects.getElem? (h : cs.Reflects g) (hid : id < cs.length) :
    ∃ b, g.births[id]? = some b :=
  ⟨_, List.getElem?_eq_getElem (h.length ▸ hid)⟩

/-- The deadline of a context is one of those that were requested. -/
theorem Reflects.value_mem_requested (h : cs.Reflects g) {d : Moment}
    (hd : cs.deadline? id = some d) : d.value ∈ g.requested id := by
  have hleast := h.earliest id (lt_of_deadline? hd)
  rw [hd] at hleast
  exact hleast.1

/-- No deadline is later than that of an ancestor. -/
theorem Reflects.deadline_le (h : cs.Reflects g) (hid : id < cs.length) {a : Nat}
    (ha : g.births.Descends id a) {e : Moment} (he : cs.deadline? a = some e) :
    ∃ d, cs.deadline? id = some d ∧ d.value ≤ e.value :=
  (h.earliest id hid).exists_le (Lineage.requested_subset ha (h.value_mem_requested he))

/-- A context counts as cancelled exactly when it or an ancestor has been cancelled. -/
theorem Reflects.isCancelled_iff (h : cs.Reflects g) (hid : id < cs.length) :
    cs.isCancelled id = true ↔ g.IsCancelled id := by
  -- Both sides go up the line one parent at a time, and a parent has a smaller number.
  induction id using Nat.strong_induction_on with
  | _ id ih =>
    obtain ⟨b, hb⟩ := h.getElem? hid
    obtain ⟨c, hc, hparent, hmark⟩ := h.records id b hb
    have hold : ∀ p, b.parent = some p → p < id := fun p hp => h.founded id b p hb hp
    rw [isCancelled_of_get? hc (hparent ▸ hold), hmark, hparent, Genealogy.IsCancelled,
      Lineage.exists_descends_iff hb]
    refine or_congr_right (exists_congr fun p => and_congr_right fun hp => ?_)
    exact ih p (hold p hp) ((hold p hp).trans hid)

/-- Only births and cancellations matter. -/
theorem Reflects.withNow (h : cs.Reflects g) (now : ℚ) : cs.Reflects { g with now := now } :=
  { h with }

theorem Reflects.cancel (h : cs.Reflects g) (hid : id < cs.length) :
    (cs.cancel id).Reflects (g.cancel id) where
  length := (length_cancel id cs).trans h.length
  founded := h.founded
  born := by
    rintro a (_ | ⟨_, ha⟩)
    · exact h.length ▸ hid
    · exact h.born a ha
  records := by
    intro other b hb
    obtain ⟨c, hc, hparent, hmark⟩ := h.records other b hb
    rw [get?_cancel, hc]
    by_cases he : other = id
    · exact ⟨{ c with cancelled := true }, by simp [he], hparent, by simp [Genealogy.cancel, he]⟩
    · exact ⟨c, by simp [he], hparent, by simp [Genealogy.cancel, he, hmark]⟩
  finite := by
    intro other d hd
    rw [deadline?_cancel] at hd
    exact h.finite other d hd
  earliest := by
    intro other ho
    rw [length_cancel] at ho
    rw [deadline?_cancel]
    exact h.earliest other ho

/-- The deadline that a child takes over. -/
theorem Reflects.earliest_inherited (h : cs.Reflects g) {parent : Option Nat}
    (hp : ∀ p, parent = some p → p < cs.length) :
    (∀ d, parent.bind cs.deadline? = some d → d.IsFinite) ∧
      Earliest {q | ∃ p, parent = some p ∧ q ∈ g.requested p}
        ((parent.bind cs.deadline?).map Moment.value) := by
  cases parent with
  | none =>
    refine ⟨fun _ hd => ?_, Set.eq_empty_of_forall_notMem fun q hq => ?_⟩
    · cases hd
    · obtain ⟨p, hparent, -⟩ := hq
      cases hparent
  | some p =>
    have hsame : {q | ∃ p', some p = some p' ∧ q ∈ g.requested p'} = g.requested p := by
      ext q
      simp
    rw [hsame]
    exact ⟨h.finite p, h.earliest p (hp p rfl)⟩

theorem Reflects.create (h : cs.Reflects g) {requested : Option Moment} {parent : Option Nat}
    (hf : ∀ d, requested = some d → d.IsFinite) (hp : ∀ p, parent = some p → p < cs.length)
    (name : String) :
    (cs.create requested parent).Reflects
      (g.bear name { parent := parent, requested := requested.map Moment.value }) where
  length := by
    rw [length_create, h.length, Genealogy.bear, List.length_append, List.length_singleton]
  founded := h.founded.append (h.length ▸ hp)
  born := by
    intro id hid
    have hold := h.born id hid
    simp only [Genealogy.bear, List.length_append, List.length_singleton]
    omega
  records := by
    intro id b hb
    rcases lt_trichotomy id g.births.length with hid | rfl | hid
    · rw [Genealogy.bear, List.getElem?_append_left hid] at hb
      rw [get?_create_of_lt (h.length ▸ hid)]
      exact h.records id b hb
    · rw [Genealogy.bear, List.getElem?_concat_length] at hb
      cases hb
      rw [← h.length, get?_create_length]
      -- The newborn is not marked, and its number has not been given to a cancelled context.
      refine ⟨_, rfl, rfl, iff_of_false Bool.false_ne_true fun hmem => ?_⟩
      exact absurd (h.born _ hmem) (h.length ▸ lt_irrefl _)
    · rw [Genealogy.bear, List.getElem?_append_right hid.le,
        List.getElem?_eq_none (Nat.sub_pos_of_lt hid)] at hb
      cases hb
  finite := by
    intro id d hd
    obtain ⟨hfinite, hearliest⟩ := h.earliest_inherited hp
    rcases Nat.lt_succ_iff_lt_or_eq.mp (lt_of_deadline? hd) with hid | rfl
    · rw [deadline?_create_of_lt hid] at hd
      exact h.finite id d hd
    · rw [deadline?_create_length] at hd
      exact isFinite_inherit hf hfinite hd
  earliest := by
    intro id hid
    rw [length_create] at hid
    rcases Nat.lt_succ_iff_lt_or_eq.mp hid with hid | rfl
    · rw [deadline?_create_of_lt hid]
      have hsame : (g.bear name ⟨parent, requested.map Moment.value⟩).requested id =
          g.requested id := Lineage.requested_append h.founded (h.length ▸ hid)
      rw [hsame]
      exact h.earliest id hid
    · rw [deadline?_create_length]
      have hnew : (g.bear name ⟨parent, requested.map Moment.value⟩).requested cs.length =
          {q | requested.map Moment.value = some q} ∪
            {q | ∃ p, parent = some p ∧ q ∈ g.requested p} := by
        rw [h.length]
        exact Lineage.requested_append_length h.founded (h.length ▸ hp)
      rw [hnew]
      obtain ⟨hfinite, hearliest⟩ := h.earliest_inherited hp
      exact Earliest.inherit hf hfinite (earliest_self _) hearliest

theorem reflects_nil (now : ℚ) : Reflects [] { now := now, births := [] } where
  length := rfl
  founded := fun _ _ _ h => by cases h
  born := fun _ h => by cases h
  records := fun _ _ h => by cases h
  finite := fun _ _ h => by cases h
  earliest := fun _ h => by cases h

/-- The first context is there from the beginning. -/
theorem reflects_origin (now : ℚ) : Reflects [{}] { now := now } := by
  have hf : ∀ d : Moment, none = some d → d.IsFinite := fun _ h => by cases h
  have hp : ∀ p, none = some p → p < ([] : Contexts Moment).length := fun _ h => by cases h
  have h := (reflects_nil now).create hf hp "bg"
  exact { h with }

end Contexts

end Accounts
