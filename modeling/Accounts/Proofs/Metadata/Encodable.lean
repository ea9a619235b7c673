import Accounts.Metadata.Encodable

/-!
Which trees the document database can hold, whatever their depth. It is the whole numbers and the
keys that count, wherever they are: a number that does not fit into 64 bits, a key that is no text,
and a key with a null character are each a fault, and a tree without any of them has none.
-/
namespace Accounts

namespace Tree

variable {ι : Type}

mutual

/-- The whole numbers at any depth, keys apart. -/
def integers : Tree ι → List Int
  | .atom _ (.int n) => [n]
  | .atom .. => []
  | .list _ items => itemIntegers items
  | .dict _ entries => entryIntegers entries

def itemIntegers : List (Tree ι) → List Int
  | [] => []
  | t :: ts => t.integers ++ itemIntegers ts

def entryIntegers : List (Atom × Tree ι) → List Int
  | [] => []
  | (_, t) :: es => t.integers ++ entryIntegers es

end

mutual

/-- The keys of all dictionaries at any depth. -/
def keys : Tree ι → List Atom
  | .atom .. => []
  | .list _ items => itemKeys items
  | .dict _ entries => entryKeys entries

def itemKeys : List (Tree ι) → List Atom
  | [] => []
  | t :: ts => t.keys ++ itemKeys ts

def entryKeys : List (Atom × Tree ι) → List Atom
  | [] => []
  | (k, t) :: es => k :: (t.keys ++ entryKeys es)

end

end Tree

/-- The fault is in numbers and keys that a tree holds. -/
def EncodingFault.IsIn (integers : List Int) (keys : List Atom) : EncodingFault → Prop
  | .integerSize => ∃ n ∈ integers, n < -(twoPow 63 : Int) ∨ (twoPow 63 : Int) ≤ n
  | .keyType k => k ∈ keys ∧ ∀ s, k ≠ .text s
  | .keyNull => ∃ s, .text s ∈ keys ∧ '\x00' ∈ s.toList

namespace EncodingFault

variable {f : EncodingFault} {integers integers' : List Int} {keys keys' : List Atom}

theorem IsIn.mono (h : f.IsIn integers keys) (hi : integers ⊆ integers') (hk : keys ⊆ keys') :
    f.IsIn integers' keys' := by
  cases f with
  | integerSize => exact h.imp fun n hn => hn.imp_left fun hmem => hi hmem
  | keyType k => exact h.imp_left fun hmem => hk hmem
  | keyNull => exact h.imp fun s hs => hs.imp_left fun hmem => hk hmem

theorem isIn_append_iff : f.IsIn (integers ++ integers') (keys ++ keys') ↔
    f.IsIn integers keys ∨ f.IsIn integers' keys' := by
  constructor
  · intro h
    cases f with
    | integerSize =>
      obtain ⟨n, hn, hsize⟩ := h
      exact (List.mem_append.mp hn).imp (⟨n, ·, hsize⟩) (⟨n, ·, hsize⟩)
    | keyType k => exact (List.mem_append.mp h.1).imp (⟨·, h.2⟩) (⟨·, h.2⟩)
    | keyNull =>
      obtain ⟨s, hs, hnull⟩ := h
      exact (List.mem_append.mp hs).imp (⟨s, ·, hnull⟩) (⟨s, ·, hnull⟩)
  · rintro (h | h)
    · exact h.mono (List.subset_append_left ..) (List.subset_append_left ..)
    · exact h.mono (List.subset_append_right ..) (List.subset_append_right ..)

theorem not_isIn_nil : ¬f.IsIn [] [] := by
  cases f with
  | integerSize => exact fun ⟨n, hn, _⟩ => absurd hn List.not_mem_nil
  | keyType k => exact fun h => absurd h.1 List.not_mem_nil
  | keyNull => exact fun ⟨s, hs, _⟩ => absurd hs List.not_mem_nil

end EncodingFault

/-- What a search for faults among numbers and keys comes to: one that is there, or none when there
is none. -/
def Finds (integers : List Int) (keys : List Atom) : Option EncodingFault → Prop
  | some f => f.IsIn integers keys
  | none => ∀ f : EncodingFault, ¬f.IsIn integers keys

section

variable {integers integers' : List Int} {keys keys' : List Atom}
  {found found' : Option EncodingFault}

/-- One search after another. -/
theorem Finds.or (h : Finds integers keys found) (h' : Finds integers' keys' found') :
    Finds (integers ++ integers') (keys ++ keys') (found.or found') := by
  cases found with
  | some f => exact EncodingFault.isIn_append_iff.mpr (.inl h)
  | none =>
    cases found' with
    | some f => exact EncodingFault.isIn_append_iff.mpr (.inr h')
    | none => exact fun f hf => (EncodingFault.isIn_append_iff.mp hf).elim (h f) (h' f)

theorem finds_nil : Finds [] [] none := fun _ => EncodingFault.not_isIn_nil

end

theorem Atom.fitsWord_iff (n : Int) :
    fitsWord n = true ↔ ¬(n < -(twoPow 63 : Int) ∨ (twoPow 63 : Int) ≤ n) := by
  rw [fitsWord, Bool.and_eq_true, decide_eq_true_eq, decide_eq_true_eq, not_or, Int.not_lt,
    Int.not_le]

theorem Atom.finds_keyFault? (k : Atom) : Finds [] [k] k.keyFault? := by
  cases k with
  | text s =>
    by_cases hs : '\x00' ∈ s.toList
    · have hf : (Atom.text s).keyFault? = some .keyNull := by simp [keyFault?, hs]
      rw [hf]
      exact ⟨s, List.mem_singleton_self _, hs⟩
    · have hf : (Atom.text s).keyFault? = none := by simp [keyFault?, hs]
      rw [hf]
      intro f hin
      cases f with
      | integerSize => exact absurd hin.choose_spec.1 List.not_mem_nil
      | keyType k => exact hin.2 s (List.mem_singleton.mp hin.1)
      | keyNull =>
        obtain ⟨s', hmem, hnull⟩ := hin
        cases List.mem_singleton.mp hmem
        exact hs hnull
  | null | bool _ | int _ | double _ | instant _ =>
    exact ⟨List.mem_singleton_self _, fun _ h => by cases h⟩

namespace Tree

variable {ι : Type}

@[simp] theorem itemsFault?_nil : itemsFault? ([] : List (Tree ι)) = none := rfl

@[simp] theorem itemsFault?_cons (t : Tree ι) (ts : List (Tree ι)) :
    itemsFault? (t :: ts) = t.fault?.or (itemsFault? ts) := by
  rw [itemsFault?]
  cases t.fault? <;> rfl

theorem entriesFault?_cons (k : Atom) (t : Tree ι) (es : List (Atom × Tree ι)) :
    entriesFault? ((k, t) :: es) = k.keyFault?.or (t.fault?.or (entriesFault? es)) := by
  rw [entriesFault?]
  cases k.keyFault? with
  | some f => rfl
  | none => cases t.fault? <;> rfl

theorem finds_fault?_atom (tag : ι) (a : Atom) :
    Finds (atom tag a).integers [] (atom tag a).fault? := by
  cases a with
  | int n =>
    have hmem : n ∈ (atom tag (.int n)).integers := List.mem_singleton_self n
    by_cases hn : Atom.fitsWord n = true
    · have hf : (atom tag (.int n)).fault? = none := if_pos hn
      rw [hf]
      intro f hin
      cases f with
      | integerSize =>
        obtain ⟨m, hm, hsize⟩ := hin
        cases List.mem_singleton.mp hm
        exact (Atom.fitsWord_iff n).mp hn hsize
      | keyType k => exact absurd hin.1 List.not_mem_nil
      | keyNull => exact absurd hin.choose_spec.1 List.not_mem_nil
    · have hf : (atom tag (.int n)).fault? = some .integerSize := if_neg hn
      rw [hf]
      exact ⟨n, hmem, Decidable.not_not.mp (mt (Atom.fitsWord_iff n).mpr hn)⟩
  | null | bool _ | double _ | text _ | instant _ => exact finds_nil

mutual

/-- The fault of a tree is in its numbers or in its keys. -/
theorem finds_fault? (t : Tree ι) : Finds t.integers t.keys t.fault? :=
  match t with
  | .atom tag a => finds_fault?_atom tag a
  | .list _ items => finds_itemsFault? items
  | .dict _ entries => finds_entriesFault? entries

theorem finds_itemsFault? (items : List (Tree ι)) :
    Finds (itemIntegers items) (itemKeys items) (itemsFault? items) :=
  match items with
  | [] => finds_nil
  | t :: ts => by
    rw [itemsFault?_cons]
    exact (finds_fault? t).or (finds_itemsFault? ts)

theorem finds_entriesFault? (entries : List (Atom × Tree ι)) :
    Finds (entryIntegers entries) (entryKeys entries) (entriesFault? entries) :=
  match entries with
  | [] => finds_nil
  | (k, t) :: es => by
    rw [entriesFault?_cons]
    exact k.finds_keyFault?.or ((finds_fault? t).or (finds_entriesFault? es))

end

end Tree

namespace Value

@[simp] theorem fault?_text (s : String) : (text s).fault? = none := rfl

@[simp] theorem fault?_instant (seconds : Int) : (instant seconds).fault? = none := rfl

/-- The names of fields are texts, so only null characters and the values count. -/
theorem fault?_record {fields : List (String × Value)} (h : ∀ f ∈ fields, '\x00' ∉ f.1.toList) :
    (record fields).fault? = Tree.itemsFault? (fields.map (·.2)) := by
  change Tree.entriesFault? (fields.map fun f => (Atom.text f.1, f.2)) = _
  induction fields with
  | nil => rfl
  | cons f fields ih =>
    have hkey : (Atom.text f.1).keyFault? = none := by
      simp [Atom.keyFault?, h f List.mem_cons_self]
    rw [List.map_cons, List.map_cons, Tree.entriesFault?_cons, Tree.itemsFault?_cons, hkey,
      Option.none_or, ih fun g hg => h g (List.mem_cons_of_mem _ hg)]

end Value

end Accounts
