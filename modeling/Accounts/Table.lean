/-!
Tables: values by name, in the order in which the names were first put in.
-/
namespace Accounts

/-- Values by name. -/
abbrev Table (α : Type) := List (String × α)

namespace Table

variable {α β : Type}

def get? (name : String) : Table α → Option α
  | [] => none
  | (n, a) :: rest => if n = name then some a else get? name rest

/-- Replace the value of a name where it stands, or put a new name at the end. -/
def put (name : String) (value : α) : Table α → Table α
  | [] => [(name, value)]
  | (n, a) :: rest => if n = name then (n, value) :: rest else (n, a) :: put name value rest

/-- Change every value in the way of its name. -/
def mapNamed (f : String → α → β) (t : Table α) : Table β := t.map fun e => (e.1, f e.1 e.2)

def mapValues (f : α → β) (t : Table α) : Table β := t.map fun e => (e.1, f e.2)

def names (t : Table α) : List String := t.map (·.1)

def sorted (t : Table α) : Table α := t.mergeSort fun a b => a.1 ≤ b.1

@[simp] theorem get?_nil (name : String) : get? name ([] : Table α) = none := rfl

@[simp] theorem get?_put_same (name : String) (value : α) (t : Table α) :
    get? name (put name value t) = some value := by
  induction t with
  | nil => simp [put, get?]
  | cons e rest ih =>
    obtain ⟨n, a⟩ := e
    by_cases h : n = name <;> simp [put, get?, h, ih]

theorem get?_put_other {name other : String} (h : other ≠ name) (value : α) (t : Table α) :
    get? other (put name value t) = get? other t := by
  induction t with
  | nil => simp [put, get?, Ne.symm h]
  | cons e rest ih =>
    obtain ⟨n, a⟩ := e
    by_cases hn : n = name
    · subst hn
      simp [put, get?, Ne.symm h]
    · simp [put, get?, hn, ih]

@[simp] theorem get?_mapNamed (f : String → α → β) (name : String) (t : Table α) :
    get? name (t.mapNamed f) = (get? name t).map (f name) := by
  induction t with
  | nil => rfl
  | cons e rest ih =>
    obtain ⟨n, a⟩ := e
    by_cases h : n = name
    · simp [mapNamed, get?, h]
    · simp only [mapNamed, List.map_cons, get?, h, if_false]
      exact ih

/-- Changing every value commutes with putting one in. -/
theorem mapNamed_put (f : String → α → β) (name : String) (value : α) (t : Table α) :
    (t.put name value).mapNamed f = (t.mapNamed f).put name (f name value) := by
  induction t with
  | nil => rfl
  | cons e rest ih =>
    obtain ⟨n, a⟩ := e
    by_cases h : n = name
    · simp [mapNamed, put, h]
    · simp only [mapNamed, put, List.map_cons, h, if_false, List.cons.injEq, true_and]
      exact ih

@[simp] theorem get?_mapValues (f : α → β) (name : String) (t : Table α) :
    get? name (t.mapValues f) = (get? name t).map f := get?_mapNamed (fun _ => f) name t

theorem mapValues_put (f : α → β) (name : String) (value : α) (t : Table α) :
    (t.put name value).mapValues f = (t.mapValues f).put name (f value) :=
  mapNamed_put (fun _ => f) name value t

theorem names_mapValues (f : α → β) (t : Table α) : (t.mapValues f).names = t.names :=
  List.map_map

/-- The order is one of names. -/
theorem sorted_mapValues (f : α → β) (t : Table α) :
    (t.mapValues f).sorted = t.sorted.mapValues f := by
  simp only [sorted, mapValues]
  rw [List.map_mergeSort]
  intro a _ b _
  rfl

/-- A new name goes to the end. -/
theorem put_of_get?_none {name : String} {t : Table α} (h : t.get? name = none) (value : α) :
    name ∉ t.names ∧ t.put name value = t ++ [(name, value)] := by
  induction t with
  | nil => exact ⟨List.not_mem_nil, rfl⟩
  | cons e rest ih =>
    obtain ⟨n, a⟩ := e
    by_cases hn : n = name
    · simp [get?, hn] at h
    · simp only [get?, hn, if_false] at h
      obtain ⟨hnames, hput⟩ := ih h
      refine ⟨?_, by simp only [put, hn, if_false, hput, List.cons_append]⟩
      simpa only [names, List.map_cons, List.mem_cons, not_or] using ⟨Ne.symm hn, hnames⟩

theorem get?_eq_none {name : String} {t : Table α} (h : name ∉ t.names) : t.get? name = none := by
  induction t with
  | nil => rfl
  | cons e rest ih =>
    obtain ⟨n, a⟩ := e
    simp only [names, List.map_cons, List.mem_cons, not_or] at h
    rw [get?, if_neg (Ne.symm h.1)]
    exact ih h.2

/-- A name that is there keeps its place. -/
theorem put_of_get?_some {name : String} {t : Table α} {old : α} (h : t.get? name = some old)
    (value : α) :
    ∃ before later, t = before ++ (name, old) :: later ∧
      t.put name value = before ++ (name, value) :: later := by
  induction t with
  | nil => cases h
  | cons e rest ih =>
    obtain ⟨n, a⟩ := e
    by_cases hn : n = name
    · simp only [get?, hn, if_true, Option.some.injEq] at h
      exact ⟨[], rest, by simp [hn, h], by simp [put, hn]⟩
    · simp only [get?, hn, if_false] at h
      obtain ⟨before, later, ht, hput⟩ := ih h
      exact ⟨(n, a) :: before, later, by simp [ht], by simp [put, hn, hput]⟩

/-- Putting in what is there leaves a table as it is. -/
theorem put_self {name : String} {t : Table α} {a : α} (h : t.get? name = some a) :
    t.put name a = t := by
  obtain ⟨before, later, ht, hput⟩ := put_of_get?_some h a
  rw [hput, ht]

theorem nodup_put {t : Table α} (h : t.names.Nodup) (name : String) (value : α) :
    (t.put name value).names.Nodup := by
  cases hget : t.get? name with
  | none =>
    obtain ⟨hfresh, hput⟩ := put_of_get?_none hget value
    rw [hput, names, List.map_append, List.nodup_append]
    refine ⟨h, by simp, ?_⟩
    simp only [List.map_cons, List.map_nil, List.mem_singleton]
    rintro n hn _ rfl rfl
    exact hfresh hn
  | some old =>
    obtain ⟨before, later, rfl, hput⟩ := put_of_get?_some hget value
    rw [hput]
    simpa [names] using h

theorem mem_names_put {name n : String} {value : α} {t : Table α}
    (h : n ∈ (t.put name value).names) : n = name ∨ n ∈ t.names := by
  cases hget : t.get? name with
  | none =>
    rw [(put_of_get?_none hget value).2] at h
    simpa [names, or_comm] using h
  | some old =>
    obtain ⟨before, later, rfl, hput⟩ := put_of_get?_some hget value
    rw [hput] at h
    exact .inr (by simpa [names] using h)

theorem mem_put {name : String} {value : α} {t : Table α} {e : String × α}
    (h : e ∈ t.put name value) : e = (name, value) ∨ e ∈ t := by
  induction t with
  | nil => exact .inl (List.mem_singleton.mp h)
  | cons d rest ih =>
    rw [put] at h
    split at h
    · next hname =>
      rcases List.mem_cons.mp h with rfl | h
      · exact .inl (by rw [hname])
      · exact .inr (List.mem_cons_of_mem _ h)
    · rcases List.mem_cons.mp h with rfl | h
      · exact .inr List.mem_cons_self
      · exact (ih h).imp_right (List.mem_cons_of_mem _)

theorem get?_of_mem {t : Table α} (h : t.names.Nodup) {e : String × α} (he : e ∈ t) :
    t.get? e.1 = some e.2 := by
  induction t with
  | nil => cases he
  | cons d rest ih =>
    obtain ⟨hfresh, hrest⟩ := List.nodup_cons.mp h
    rcases List.mem_cons.mp he with rfl | he
    · simp [get?]
    · have hne : d.1 ≠ e.1 := fun hname => hfresh (List.mem_map.mpr ⟨e, he, hname.symm⟩)
      rw [get?, if_neg hne]
      exact ih hrest he

theorem mem_of_get? {name : String} {t : Table α} {a : α} (h : t.get? name = some a) :
    (name, a) ∈ t := by
  obtain ⟨before, later, rfl, -⟩ := put_of_get?_some h a
  exact List.mem_append_right _ List.mem_cons_self

/-- Values are found under their names, and there only. -/
theorem forall_mem_iff {t : Table α} (h : t.names.Nodup) {p : α → Prop} :
    (∀ e ∈ t, p e.2) ↔ ∀ name a, t.get? name = some a → p a := by
  constructor
  · exact fun hp name a ha => hp (name, a) (mem_of_get? ha)
  · exact fun hp e he => hp e.1 e.2 (get?_of_mem h he)

/-! ## Updates -/

/-- Put in one entry after another. -/
def update (t : Table α) (entries : Table α) : Table α :=
  entries.foldl (fun t e => t.put e.1 e.2) t

theorem nodup_update {t : Table α} (h : t.names.Nodup) (entries : Table α) :
    (t.update entries).names.Nodup := by
  induction entries generalizing t with
  | nil => exact h
  | cons e entries ih => exact ih (nodup_put h e.1 e.2)

theorem mem_update {t entries : Table α} {e : String × α} (h : e ∈ t.update entries) :
    e ∈ t ∨ e ∈ entries := by
  induction entries generalizing t with
  | nil => exact .inl h
  | cons d entries ih =>
    rcases ih (t := t.put d.1 d.2) h with hput | hlater
    · rcases mem_put hput with rfl | ht
      · exact .inr List.mem_cons_self
      · exact .inl ht
    · exact .inr (List.mem_cons_of_mem _ hlater)

/-- What was put in stands before what was there. -/
theorem get?_update {entries : Table α} (h : entries.names.Nodup) (t : Table α) (name : String) :
    (t.update entries).get? name = (entries.get? name).or (t.get? name) := by
  induction entries generalizing t with
  | nil => rfl
  | cons e entries ih =>
    obtain ⟨hfresh, hrest⟩ := List.nodup_cons.mp h
    rw [update, List.foldl_cons]
    refine (ih hrest _).trans ?_
    by_cases hname : e.1 = name
    · subst hname
      rw [get?_eq_none hfresh, get?_put_same]
      simp [get?]
    · rw [get?_put_other (Ne.symm hname), get?, if_neg hname]

end Table

end Accounts
