import Accounts.Metadata.Assignment
import Accounts.Metadata.Copy

/-!
The lists and dictionaries in a tree. They are what an assignment can change, and their tags say
where it acts. A tree that is built or copied has new tags, each of them once. An assignment changes
one list or dictionary that the path leads to, and brings in nothing but what is in the value. A new
dictionary with old entries is new at the top and shares everything below.
-/
namespace Accounts.Tree

variable {ι : Type} {c d t : Metadata}

/-- The lists and dictionaries inside a tree. -/
def inner : Metadata → List Metadata
  | .atom .. => []
  | .list _ items => itemContainers items
  | .dict _ entries => entryContainers entries

theorem mem_itemContainers {items : List Metadata} :
    c ∈ itemContainers items ↔ ∃ t ∈ items, c ∈ t.containers := by
  induction items with
  | nil => simp [itemContainers]
  | cons t ts ih => simp [itemContainers, ih]

theorem mem_entryContainers {entries : List (Atom × Metadata)} :
    c ∈ entryContainers entries ↔ ∃ e ∈ entries, c ∈ e.2.containers := by
  induction entries with
  | nil => simp [entryContainers]
  | cons e es ih => simp [entryContainers, ih]

theorem containers_cases (h : c ∈ t.containers) : c = t ∨ c ∈ t.inner := by
  cases t with
  | atom tag a => cases h
  | list tag items => exact List.mem_cons.mp h
  | dict tag entries => exact List.mem_cons.mp h

theorem mem_containers_of_inner (h : c ∈ t.inner) : c ∈ t.containers := by
  cases t with
  | atom tag a => cases h
  | list tag items => exact List.mem_cons_of_mem _ h
  | dict tag entries => exact List.mem_cons_of_mem _ h

mutual

/-- What is in a container is in the tree that it is in. -/
theorem sublist_containers (t : Metadata) (h : c ∈ t.containers) :
    c.containers.Sublist t.containers :=
  match t with
  | .atom .. => by cases h
  | .list tag items => by
    rcases List.mem_cons.mp h with rfl | h
    · exact List.Sublist.refl _
    · exact (sublist_itemContainers items h).cons _
  | .dict tag entries => by
    rcases List.mem_cons.mp h with rfl | h
    · exact List.Sublist.refl _
    · exact (sublist_entryContainers entries h).cons _

theorem sublist_itemContainers (items : List Metadata) (h : c ∈ itemContainers items) :
    c.containers.Sublist (itemContainers items) :=
  match items with
  | [] => by cases h
  | t :: ts => by
    rcases List.mem_append.mp h with h | h
    · exact (sublist_containers t h).trans (List.sublist_append_left _ _)
    · exact (sublist_itemContainers ts h).trans (List.sublist_append_right _ _)

theorem sublist_entryContainers (entries : List (Atom × Metadata))
    (h : c ∈ entryContainers entries) : c.containers.Sublist (entryContainers entries) :=
  match entries with
  | [] => by cases h
  | (_, t) :: es => by
    rcases List.mem_append.mp h with h | h
    · exact (sublist_containers t h).trans (List.sublist_append_left _ _)
    · exact (sublist_entryContainers es h).trans (List.sublist_append_right _ _)

end

theorem containers_trans (hc : c ∈ d.containers) (hd : d ∈ t.containers) : c ∈ t.containers :=
  (sublist_containers t hd).subset hc

theorem sublist_inner (h : c ∈ t.inner) : c.containers.Sublist t.inner := by
  cases t with
  | atom tag a => cases h
  | list tag items => exact sublist_itemContainers items h
  | dict tag entries => exact sublist_entryContainers entries h

/-- Nothing is inside itself. -/
theorem notMem_inner (t : Metadata) : t ∉ t.inner := by
  intro h
  have hle := (sublist_inner h).length_le
  cases t with
  | atom tag a => cases h
  | list tag items => exact absurd hle (Nat.not_succ_le_self _)
  | dict tag entries => exact absurd hle (Nat.not_succ_le_self _)

/-! ## Fresh tags -/

/-- The tags of the trees ascend from the first number on, below the last. -/
structure IsNumbered (first last : NodeId) (trees : List Metadata) : Prop where
  le : first ≤ last
  range : ∀ t ∈ trees, first ≤ t.tag ∧ t.tag < last
  ascending : trees.Pairwise fun t u => t.tag < u.tag

section

variable {first middle last : NodeId} {trees others : List Metadata}

theorem isNumbered_nil (h : first ≤ last) : IsNumbered first last [] :=
  ⟨h, by simp, List.Pairwise.nil⟩

theorem IsNumbered.cons (h : IsNumbered (t.tag + 1) last trees) :
    IsNumbered t.tag last (t :: trees) := by
  have hlt : t.tag < last := h.le
  refine ⟨Nat.le_of_lt hlt, fun u hu => ?_, List.pairwise_cons.mpr ⟨fun u hu => ?_, h.ascending⟩⟩
  · rcases List.mem_cons.mp hu with rfl | hu
    · exact ⟨Nat.le_refl _, hlt⟩
    · exact ⟨Nat.le_of_succ_le (h.range u hu).1, (h.range u hu).2⟩
  · exact (h.range u hu).1

theorem IsNumbered.append (h : IsNumbered first middle trees) (h' : IsNumbered middle last others) :
    IsNumbered first last (trees ++ others) := by
  refine ⟨Nat.le_trans h.le h'.le, fun t ht => ?_, List.pairwise_append.mpr
    ⟨h.ascending, h'.ascending, fun t ht u hu => ?_⟩⟩
  · rcases List.mem_append.mp ht with ht | ht
    · exact ⟨(h.range t ht).1, Nat.lt_of_lt_of_le (h.range t ht).2 h'.le⟩
    · exact ⟨Nat.le_trans h.le (h'.range t ht).1, (h'.range t ht).2⟩
  · exact Nat.lt_of_lt_of_le (h.range t ht).2 (h'.range u hu).1

theorem IsNumbered.mono {first' last' : NodeId} (h : IsNumbered first last trees)
    (hf : first' ≤ first) (hl : last ≤ last') : IsNumbered first' last' trees :=
  ⟨Nat.le_trans hf (Nat.le_trans h.le hl), fun t ht =>
    ⟨Nat.le_trans hf (h.range t ht).1, Nat.lt_of_lt_of_le (h.range t ht).2 hl⟩, h.ascending⟩

/-- A tag is used once. -/
theorem IsNumbered.eq_of_tag (h : IsNumbered first last trees) (hc : c ∈ trees) (hd : d ∈ trees)
    (htag : c.tag = d.tag) : c = d := by
  obtain ⟨i, hi, rfl⟩ := List.mem_iff_getElem.mp hc
  obtain ⟨j, hj, rfl⟩ := List.mem_iff_getElem.mp hd
  have hlt := List.pairwise_iff_getElem.mp h.ascending
  rcases Nat.lt_trichotomy i j with hij | rfl | hij
  · exact absurd htag (Nat.ne_of_lt (hlt i j hi hj hij))
  · rfl
  · exact absurd htag.symm (Nat.ne_of_lt (hlt j i hj hi hij))

end

mutual

/-- A tree that is built takes its tags from the supply. -/
theorem isNumbered_build (supply : NodeId) (t : Tree ι) :
    IsNumbered supply (t.build supply).2 (t.build supply).1.containers :=
  match t with
  | .atom .. => isNumbered_nil (Nat.le_succ supply)
  | .list _ items => IsNumbered.cons (t := .list supply _) (isNumbered_buildItems (supply + 1) items)
  | .dict _ entries =>
    IsNumbered.cons (t := .dict supply _) (isNumbered_buildEntries (supply + 1) entries)

theorem isNumbered_buildItems (supply : NodeId) (items : List (Tree ι)) :
    IsNumbered supply (buildItems supply items).2 (itemContainers (buildItems supply items).1) :=
  match items with
  | [] => isNumbered_nil (Nat.le_refl supply)
  | t :: ts => (isNumbered_build supply t).append (isNumbered_buildItems _ ts)

theorem isNumbered_buildEntries (supply : NodeId) (entries : List (Atom × Tree ι)) :
    IsNumbered supply (buildEntries supply entries).2
      (entryContainers (buildEntries supply entries).1) :=
  match entries with
  | [] => isNumbered_nil (Nat.le_refl supply)
  | (_, t) :: es => (isNumbered_build supply t).append (isNumbered_buildEntries _ es)

end

mutual

/-- A copy has no list and no dictionary of the original. -/
theorem isNumbered_copy (supply : NodeId) (t : Metadata) :
    IsNumbered supply (t.copy supply).2 (t.copy supply).1.containers :=
  match t with
  | .atom .. => isNumbered_nil (Nat.le_refl supply)
  | .list _ items => IsNumbered.cons (t := .list supply _) (isNumbered_copyItems (supply + 1) items)
  | .dict _ entries =>
    IsNumbered.cons (t := .dict supply _) (isNumbered_copyEntries (supply + 1) entries)

theorem isNumbered_copyItems (supply : NodeId) (items : List Metadata) :
    IsNumbered supply (copyItems supply items).2 (itemContainers (copyItems supply items).1) :=
  match items with
  | [] => isNumbered_nil (Nat.le_refl supply)
  | t :: ts => (isNumbered_copy supply t).append (isNumbered_copyItems _ ts)

theorem isNumbered_copyEntries (supply : NodeId) (entries : List (Atom × Metadata)) :
    IsNumbered supply (copyEntries supply entries).2
      (entryContainers (copyEntries supply entries).1) :=
  match entries with
  | [] => isNumbered_nil (Nat.le_refl supply)
  | (_, t) :: es => (isNumbered_copy supply t).append (isNumbered_copyEntries _ es)

end

/-! ## Updates -/

variable {node : Metadata}

@[simp] theorem tag_update (node t : Metadata) : (update node t).tag = t.tag := by
  cases t with
  | atom tag a => rfl
  | list tag items =>
    rw [update]
    split
    · next h => exact h.symm
    · rfl
  | dict tag entries =>
    rw [update]
    split
    · next h => exact h.symm
    · rfl

/-- An update makes no list and no dictionary of a plain value. -/
theorem mem_containers_of_update (h : update node t ∈ (update node t).containers) :
    t ∈ t.containers := by
  cases t with
  | atom tag a => cases h
  | list tag items => exact List.mem_cons_self
  | dict tag entries => exact List.mem_cons_self

mutual

/-- Where the node is not, its new form changes nothing. -/
theorem update_of_notMem (t : Metadata) (h : ∀ c ∈ t.containers, c.tag ≠ node.tag) :
    update node t = t :=
  match t with
  | .atom .. => rfl
  | .list tag items => by
    have htag : tag ≠ node.tag := h (.list tag items) List.mem_cons_self
    have hitems := updateItems_of_notMem items fun c hc => h c (List.mem_cons_of_mem _ hc)
    simp [update, htag, hitems]
  | .dict tag entries => by
    have htag : tag ≠ node.tag := h (.dict tag entries) List.mem_cons_self
    have hentries := updateEntries_of_notMem entries fun c hc => h c (List.mem_cons_of_mem _ hc)
    simp [update, htag, hentries]

theorem updateItems_of_notMem (items : List Metadata)
    (h : ∀ c ∈ itemContainers items, c.tag ≠ node.tag) : updateItems node items = items :=
  match items with
  | [] => rfl
  | t :: ts => by
    have hfirst := update_of_notMem t fun c hc => h c (List.mem_append_left _ hc)
    have hrest := updateItems_of_notMem ts fun c hc => h c (List.mem_append_right _ hc)
    rw [updateItems, hfirst, hrest]

theorem updateEntries_of_notMem (entries : List (Atom × Metadata))
    (h : ∀ c ∈ entryContainers entries, c.tag ≠ node.tag) : updateEntries node entries = entries :=
  match entries with
  | [] => rfl
  | (k, t) :: es => by
    have hfirst := update_of_notMem t fun c hc => h c (List.mem_append_left _ hc)
    have hrest := updateEntries_of_notMem es fun c hc => h c (List.mem_append_right _ hc)
    rw [updateEntries, hfirst, hrest]

end

/-- A container after an update: one of the containers before with the update made inside it, or
part of the node, which was one of them. -/
def IsUpdated (node : Metadata) (before : List Metadata) (c : Metadata) : Prop :=
  (∃ d ∈ before, d.tag ≠ node.tag ∧ c = update node d) ∨
    (∃ d ∈ before, d.tag = node.tag) ∧ c ∈ node.containers

theorem IsUpdated.mono {before before' : List Metadata} (h : IsUpdated node before c)
    (hs : before ⊆ before') : IsUpdated node before' c := by
  rcases h with ⟨d, hd, hc⟩ | ⟨⟨d, hd, htag⟩, hc⟩
  · exact .inl ⟨d, hs hd, hc⟩
  · exact .inr ⟨⟨d, hs hd, htag⟩, hc⟩

mutual

theorem isUpdated_of_mem (t : Metadata) (h : c ∈ (update node t).containers) :
    IsUpdated node t.containers c :=
  match t with
  | .atom .. => by cases h
  | .list tag items => by
    by_cases htag : tag = node.tag
    · rw [update, if_pos htag] at h
      exact .inr ⟨⟨_, List.mem_cons_self, htag⟩, h⟩
    · rw [update, if_neg htag] at h
      rcases List.mem_cons.mp h with rfl | h
      · refine .inl ⟨_, List.mem_cons_self, htag, ?_⟩
        rw [update, if_neg htag]
      · exact (isUpdated_of_mem_items items h).mono (List.subset_cons_self ..)
  | .dict tag entries => by
    by_cases htag : tag = node.tag
    · rw [update, if_pos htag] at h
      exact .inr ⟨⟨_, List.mem_cons_self, htag⟩, h⟩
    · rw [update, if_neg htag] at h
      rcases List.mem_cons.mp h with rfl | h
      · refine .inl ⟨_, List.mem_cons_self, htag, ?_⟩
        rw [update, if_neg htag]
      · exact (isUpdated_of_mem_entries entries h).mono (List.subset_cons_self ..)

theorem isUpdated_of_mem_items (items : List Metadata)
    (h : c ∈ itemContainers (updateItems node items)) :
    IsUpdated node (itemContainers items) c :=
  match items with
  | [] => by cases h
  | t :: ts => by
    rcases List.mem_append.mp h with h | h
    · exact (isUpdated_of_mem t h).mono (List.subset_append_left ..)
    · exact (isUpdated_of_mem_items ts h).mono (List.subset_append_right ..)

theorem isUpdated_of_mem_entries (entries : List (Atom × Metadata))
    (h : c ∈ entryContainers (updateEntries node entries)) :
    IsUpdated node (entryContainers entries) c :=
  match entries with
  | [] => by cases h
  | (_, t) :: es => by
    rcases List.mem_append.mp h with h | h
    · exact (isUpdated_of_mem t h).mono (List.subset_append_left ..)
    · exact (isUpdated_of_mem_entries es h).mono (List.subset_append_right ..)

end

/-! ## Assignments -/

/-- Nothing can be assigned inside: a plain value, or a list without places. -/
def IsFixed : Metadata → Prop
  | .atom .. => True
  | .list _ items => items = []
  | .dict .. => False

instance : DecidablePred IsFixed
  | .atom .. => .isTrue trivial
  | .list _ items => decidable_of_iff (items.isEmpty = true) List.isEmpty_iff
  | .dict .. => .isFalse id

theorem mem_containers_self (h : ¬t.IsFixed) : t ∈ t.containers := by
  cases t with
  | atom tag a => exact absurd trivial h
  | list tag items => exact List.mem_cons_self
  | dict tag entries => exact List.mem_cons_self

theorem isFixed_of_mem (h : t.IsFixed) (hc : c ∈ t.containers) : c.IsFixed := by
  cases t with
  | atom tag a => cases hc
  | list tag items =>
    have hnil : items = [] := h
    subst hnil
    rw [List.mem_singleton.mp hc]
    exact h
  | dict tag entries => exact h.elim

theorem exists_mem_of_lookup {key : Atom} {entries : List (Atom × Metadata)}
    (h : lookup key entries = some t) : ∃ e ∈ entries, e.2 = t := by
  obtain ⟨e, he, rfl⟩ := Option.map_eq_some_iff.mp h
  exact ⟨e, List.mem_of_find?_eq_some he, rfl⟩

theorem mem_setEntry {key : Atom} {value : Metadata} {entries : List (Atom × Metadata)}
    {e : Atom × Metadata} (h : e ∈ setEntry key value entries) : e.2 = value ∨ e ∈ entries := by
  induction entries with
  | nil => exact .inl (by rw [List.mem_singleton.mp h])
  | cons f es ih =>
    obtain ⟨k, v⟩ := f
    rw [setEntry] at h
    split at h
    · rcases List.mem_cons.mp h with rfl | h
      · exact .inl rfl
      · exact .inr (List.mem_cons_of_mem _ h)
    · rcases List.mem_cons.mp h with rfl | h
      · exact .inr List.mem_cons_self
      · exact (ih h).imp_right (List.mem_cons_of_mem _)

/-- A step leads inside. -/
theorem mem_inner_of_child {step : Value} {u : Metadata} (h : child step t = .ok u)
    (hc : c ∈ u.containers) : c ∈ t.inner := by
  cases t with
  | dict tag entries =>
    simp only [child] at h
    split at h
    · cases h
    · split at h
      · next v hv =>
        cases h
        obtain ⟨e, he, rfl⟩ := exists_mem_of_lookup hv
        exact mem_entryContainers.mpr ⟨e, he, hc⟩
      · cases h
  | list tag items =>
    simp only [child] at h
    split at h
    · cases h
    · split at h
      · next v hv =>
        cases h
        obtain ⟨i, -, hi⟩ := Option.bind_eq_some_iff.mp hv
        exact mem_itemContainers.mpr ⟨u, List.mem_of_getElem? hi, hc⟩
      · cases h
  | atom tag a =>
    cases a with
    | text s =>
      simp only [child] at h
      split at h
      · cases h
      · split at h
        · cases h
          cases hc
        · cases h
    | _ => cases h

/-- What is found at a place was in the tree. -/
theorem mem_containers_of_descend {place : List Value} {u : Metadata}
    (h : descend place t = .ok u) (hc : c ∈ u.containers) : c ∈ t.containers := by
  induction place generalizing t with
  | nil =>
    cases h
    exact hc
  | cons step place ih =>
    rw [descend] at h
    split at h
    · next v hv => exact mem_containers_of_inner (mem_inner_of_child hv (ih h))
    · cases h

theorem position?_lt {length i : Nat} {index : Int} (h : position? length index = some i) :
    i < length := by
  have hplace : ∀ place : Int, (if 0 ≤ place ∧ place < length then some place.toNat else none) =
      some i → i < length := by
    intro place hp
    split at hp
    · cases hp
      omega
    · cases hp
  exact hplace _ h

/-- A container with one part replaced or added. -/
structure IsAssigned (t value node : Metadata) : Prop where
  tag : node.tag = t.tag
  isOpen : ¬t.IsFixed
  inner : ∀ c ∈ node.inner, c ∈ t.inner ∨ c ∈ value.containers

theorem isAssigned_of_assignPart {step : Value} {value : Metadata}
    (h : assignPart step value t = .ok node) : IsAssigned t value node := by
  cases t with
  | dict tag entries =>
    simp only [assignPart] at h
    cases hk : key step with
    | error e =>
      rw [hk] at h
      cases h
    | ok k =>
      rw [hk] at h
      cases h
      refine ⟨rfl, id, fun c hc => ?_⟩
      obtain ⟨e, he, hce⟩ := mem_entryContainers.mp hc
      rcases mem_setEntry he with hvalue | he
      · exact .inr (hvalue ▸ hce)
      · exact .inl (mem_entryContainers.mpr ⟨e, he, hce⟩)
  | list tag items =>
    simp only [assignPart] at h
    split at h
    · cases h
    · split at h
      · next i hi =>
        cases h
        refine ⟨rfl, fun hfixed => ?_, fun c hc => ?_⟩
        · have hnil : items = [] := hfixed
          subst hnil
          exact absurd (position?_lt hi) (Nat.not_lt_zero i)
        · obtain ⟨u, hu, hcu⟩ := mem_itemContainers.mp hc
          rcases List.mem_or_eq_of_mem_set hu with hu | rfl
          · exact .inl (mem_itemContainers.mpr ⟨u, hu, hcu⟩)
          · exact .inr hcu
      · cases h
  | atom tag a =>
    cases a with
    | text s =>
      simp only [assignPart] at h
      split at h <;> cases h
    | _ => cases h

/-- An assignment changes a container of the tree. -/
theorem exists_isAssigned {path : List Value} {value : Metadata}
    (h : assigned path value t = .ok node) : ∃ v ∈ t.containers, IsAssigned v value node := by
  induction path generalizing t with
  | nil => cases h
  | cons step path ih =>
    cases path with
    | nil =>
      have hassigned := isAssigned_of_assignPart h
      exact ⟨t, mem_containers_self hassigned.isOpen, hassigned⟩
    | cons next path =>
      rw [assigned] at h
      · split at h
        · next u hu =>
          obtain ⟨v, hv, hassigned⟩ := ih h
          exact ⟨v, mem_containers_of_inner (mem_inner_of_child hu hv), hassigned⟩
        · cases h
      · exact List.cons_ne_nil _ _

theorem update_of_isFixed (h : t.IsFixed) (htag : t.tag ≠ node.tag) : update node t = t := by
  cases t with
  | atom tag a => rfl
  | list tag items =>
    have hnil : items = [] := h
    subst hnil
    exact if_neg htag
  | dict tag entries => exact h.elim

/-- Where the node is, its new form comes in its place. -/
theorem update_self (h : ¬t.IsFixed) (htag : t.tag = node.tag) : update node t = node := by
  cases t with
  | atom tag a => exact absurd trivial h
  | list tag items => exact if_pos htag
  | dict tag entries => exact if_pos htag

/-- An update that does not show in a dictionary shows in none of its values. -/
theorem erase_update_of_entries {entries : List (Atom × Metadata)}
    (h : eraseEntries (updateEntries node entries) = eraseEntries entries) :
    ∀ e ∈ entries, (update node e.2).erase = e.2.erase := by
  induction entries with
  | nil => exact fun _ he => by cases he
  | cons f es ih =>
    obtain ⟨k, t⟩ := f
    obtain ⟨hfirst, hrest⟩ := List.cons.inj h
    rintro e he
    rcases List.mem_cons.mp he with rfl | he
    · exact congrArg Prod.snd hfirst
    · exact ih hrest e he

/-- Two values that differ make two dictionaries that differ. -/
theorem eraseEntries_setEntry_ne {key : Atom} {x y : Metadata} (h : x.erase ≠ y.erase)
    (entries : List (Atom × Metadata)) :
    eraseEntries (setEntry key x entries) ≠ eraseEntries (setEntry key y entries) := by
  induction entries with
  | nil => exact fun heq => h (congrArg Prod.snd (List.cons.inj heq).1)
  | cons e es ih =>
    obtain ⟨k, t⟩ := e
    simp only [setEntry]
    split
    · exact fun heq => h (congrArg Prod.snd (List.cons.inj heq).1)
    · exact fun heq => ih (List.cons.inj heq).2

/-- Inside every container that is not fixed something can be assigned that shows. -/
theorem exists_assignPart (h : ¬t.IsFixed) : ∃ (step v : Value), ∀ supply, ∃ node,
    assignPart step (v.build supply).1 t = .ok node ∧ node.erase ≠ t.erase := by
  cases t with
  | atom tag a => exact absurd trivial h
  | list tag items =>
    cases items with
    | nil => exact absurd rfl h
    | cons first items =>
      -- One of the two values is not the one that is there.
      have hvalue : ∃ a : Atom, Tree.atom () a ≠ first.erase := by
        by_cases hnull : Tree.atom () .null = first.erase
        · exact ⟨.bool true, hnull ▸ by simp⟩
        · exact ⟨.null, hnull⟩
      obtain ⟨a, ha⟩ := hvalue
      refine ⟨.atom () (.int 0), .atom () a, fun supply =>
        ⟨.list tag (.atom supply a :: items), ?_, fun heq => ?_⟩⟩
      · have hindex : index "list" (.atom () (.int 0)) = .ok 0 := rfl
        have hplace : position? (first :: items).length 0 = some 0 := by
          simp [position?]
        simp only [assignPart, hindex, hplace]
        rfl
      · injection heq with _ hitems
        exact ha (List.cons.inj hitems).1
  | dict tag entries =>
    have hvalue : ∃ a : Atom, ∀ supply,
        eraseEntries (setEntry .null (.atom supply a) entries) ≠ eraseEntries entries := by
      by_cases hnull : ∃ supply,
          eraseEntries (setEntry .null (.atom supply .null) entries) = eraseEntries entries
      · obtain ⟨i, hi⟩ := hnull
        refine ⟨.bool true, fun supply heq => ?_⟩
        have hne : (Tree.atom supply (.bool true)).erase ≠ (Tree.atom i .null).erase := by
          simp [erase]
        exact eraseEntries_setEntry_ne hne entries (heq.trans hi.symm)
      · exact ⟨.null, fun supply heq => hnull ⟨supply, heq⟩⟩
    obtain ⟨a, ha⟩ := hvalue
    refine ⟨.atom () .null, .atom () a, fun supply =>
      ⟨.dict tag (setEntry .null (.atom supply a) entries), rfl, fun heq => ?_⟩⟩
    injection heq with _ hentries
    exact ha supply hentries

/-! ## New dictionaries -/

theorem pair?_ok {supply index next : Nat} {e : Atom × Metadata}
    (h : pair? supply index t = .ok (e, next)) :
    supply ≤ next ∧ ∀ c ∈ e.2.containers, c ∈ t.containers := by
  unfold pair? at h
  split at h
  · next tag k kt v =>
    cases h
    refine ⟨Nat.le_refl _, fun c hc => List.mem_cons_of_mem _ ?_⟩
    exact mem_itemContainers.mpr ⟨v, by simp, hc⟩
  · cases h
  · cases h
  · cases h
    exact ⟨Nat.le_succ _, fun c hc => by cases hc⟩
  · cases h
  · split at h
    · cases h
      exact ⟨Nat.le_succ _, fun c hc => by cases hc⟩
    · cases h
  · cases h

theorem pairs_ok {supply index next : Nat} {items : List Metadata} {es : List (Atom × Metadata)}
    (h : pairs supply index items = .ok (es, next)) :
    supply ≤ next ∧ ∀ c ∈ entryContainers es, c ∈ itemContainers items := by
  induction items generalizing supply index es with
  | nil =>
    cases h
    exact ⟨Nat.le_refl _, fun c hc => by cases hc⟩
  | cons t ts ih =>
    rw [pairs] at h
    split at h
    · cases h
    · next e middle he =>
      split at h
      · cases h
      · next rest last hrest =>
        cases h
        obtain ⟨hle, hfirst⟩ := pair?_ok he
        obtain ⟨hle', hlater⟩ := ih hrest
        refine ⟨Nat.le_trans hle hle', fun c hc => ?_⟩
        rcases List.mem_append.mp hc with hc | hc
        · exact List.mem_append_left _ (hfirst c hc)
        · exact List.mem_append_right _ (hlater c hc)

theorem mem_ofEntries {entries : List (Atom × Metadata)} {e : Atom × Metadata}
    (h : e ∈ ofEntries entries) : ∃ f ∈ entries, e.2 = f.2 := by
  have hfold : ∀ (later before : List (Atom × Metadata)),
      e ∈ later.foldl (fun es f => setEntry f.1 f.2 es) before →
        e ∈ before ∨ ∃ f ∈ later, e.2 = f.2 := by
    intro later
    induction later with
    | nil => exact fun before h => .inl h
    | cons g later ih =>
      intro before h
      rcases ih _ h with h | ⟨f, hf, heq⟩
      · rcases mem_setEntry h with heq | h
        · exact .inr ⟨g, List.mem_cons_self, heq⟩
        · exact .inl h
      · exact .inr ⟨f, List.mem_cons_of_mem _ hf, heq⟩
  rcases hfold entries [] h with h | h
  · cases h
  · exact h

/-- A new dictionary has a new tag, and nothing in it is new. -/
theorem freshDict_ok {supply next : NodeId} (h : t.freshDict supply = .ok (d, next)) :
    ∃ entries, d = .dict supply entries ∧ supply < next ∧
      ∀ c ∈ entryContainers entries, c ∈ t.inner := by
  cases t with
  | dict tag entries =>
    cases h
    exact ⟨entries, rfl, Nat.lt_succ_self _, fun c hc => hc⟩
  | list tag items =>
    simp only [freshDict] at h
    split at h
    · next es last hes =>
      cases h
      obtain ⟨hle, hmem⟩ := pairs_ok hes
      refine ⟨_, rfl, hle, fun c hc => hmem c ?_⟩
      obtain ⟨e, he, hce⟩ := mem_entryContainers.mp hc
      obtain ⟨f, hf, heq⟩ := mem_ofEntries he
      exact mem_entryContainers.mpr ⟨f, hf, heq ▸ hce⟩
    · cases h
  | atom tag a =>
    cases a with
    | text s =>
      simp only [freshDict] at h
      split at h
      · cases h
        exact ⟨[], rfl, Nat.lt_succ_self _, fun c hc => hc⟩
      · cases h
    | _ => cases h

end Accounts.Tree
