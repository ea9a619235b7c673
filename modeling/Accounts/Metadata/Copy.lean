import Accounts.Metadata.Tree

/-!
Fresh nodes. A supply of identities is a number; identities from it on are unused. Building a tree
from a value and copying a tree take their nodes from the supply and give back what is left of it.
Copies share the plain values and nothing else.
-/
namespace Accounts.Tree

variable {ι : Type}

mutual

/-- A tree of fresh nodes. -/
def build (supply : NodeId) : Tree ι → Metadata × NodeId
  | .atom _ a => (.atom supply a, supply + 1)
  | .list _ items =>
    let r := buildItems (supply + 1) items
    (.list supply r.1, r.2)
  | .dict _ entries =>
    let r := buildEntries (supply + 1) entries
    (.dict supply r.1, r.2)

def buildItems (supply : NodeId) : List (Tree ι) → List Metadata × NodeId
  | [] => ([], supply)
  | t :: ts =>
    let r := t.build supply
    let q := buildItems r.2 ts
    (r.1 :: q.1, q.2)

def buildEntries (supply : NodeId) : List (Atom × Tree ι) → List (Atom × Metadata) × NodeId
  | [] => ([], supply)
  | (k, t) :: es =>
    let r := t.build supply
    let q := buildEntries r.2 es
    ((k, r.1) :: q.1, q.2)

end

mutual

/-- A copy with lists and dictionaries of its own. -/
def copy (supply : NodeId) : Metadata → Metadata × NodeId
  | .atom t a => (.atom t a, supply)
  | .list _ items =>
    let r := copyItems (supply + 1) items
    (.list supply r.1, r.2)
  | .dict _ entries =>
    let r := copyEntries (supply + 1) entries
    (.dict supply r.1, r.2)

def copyItems (supply : NodeId) : List Metadata → List Metadata × NodeId
  | [] => ([], supply)
  | t :: ts =>
    let r := t.copy supply
    let q := copyItems r.2 ts
    (r.1 :: q.1, q.2)

def copyEntries (supply : NodeId) : List (Atom × Metadata) → List (Atom × Metadata) × NodeId
  | [] => ([], supply)
  | (k, t) :: es =>
    let r := t.copy supply
    let q := copyEntries r.2 es
    ((k, r.1) :: q.1, q.2)

end

/-! ## What fresh trees stand for -/

mutual

/-- A tree of fresh nodes stands for the same value. -/
@[simp] theorem erase_build (supply : NodeId) (t : Tree ι) : (t.build supply).1.erase = t.erase :=
  match t with
  | .atom .. => rfl
  | .list _ items => by simp [build, erase, eraseItems_buildItems]
  | .dict _ entries => by simp [build, erase, eraseEntries_buildEntries]

theorem eraseItems_buildItems (supply : NodeId) (items : List (Tree ι)) :
    eraseItems (buildItems supply items).1 = eraseItems items :=
  match items with
  | [] => rfl
  | t :: ts => by simp [buildItems, eraseItems, erase_build, eraseItems_buildItems]

theorem eraseEntries_buildEntries (supply : NodeId) (entries : List (Atom × Tree ι)) :
    eraseEntries (buildEntries supply entries).1 = eraseEntries entries :=
  match entries with
  | [] => rfl
  | (k, t) :: es => by simp [buildEntries, eraseEntries, erase_build, eraseEntries_buildEntries]

end

mutual

/-- A copy stands for the same value. -/
@[simp] theorem erase_copy (supply : NodeId) (t : Metadata) : (t.copy supply).1.erase = t.erase :=
  match t with
  | .atom .. => rfl
  | .list _ items => by simp [copy, erase, eraseItems_copyItems]
  | .dict _ entries => by simp [copy, erase, eraseEntries_copyEntries]

theorem eraseItems_copyItems (supply : NodeId) (items : List Metadata) :
    eraseItems (copyItems supply items).1 = eraseItems items :=
  match items with
  | [] => rfl
  | t :: ts => by simp [copyItems, eraseItems, erase_copy, eraseItems_copyItems]

theorem eraseEntries_copyEntries (supply : NodeId) (entries : List (Atom × Metadata)) :
    eraseEntries (copyEntries supply entries).1 = eraseEntries entries :=
  match entries with
  | [] => rfl
  | (k, t) :: es => by simp [copyEntries, eraseEntries, erase_copy, eraseEntries_copyEntries]

end

mutual

/-- The supply only grows. -/
theorem le_copy (supply : NodeId) (t : Metadata) : supply ≤ (t.copy supply).2 :=
  match t with
  | .atom .. => Nat.le_refl supply
  | .list _ items => Nat.le_of_succ_le (le_copyItems (supply + 1) items)
  | .dict _ entries => Nat.le_of_succ_le (le_copyEntries (supply + 1) entries)

theorem le_copyItems (supply : NodeId) (items : List Metadata) :
    supply ≤ (copyItems supply items).2 :=
  match items with
  | [] => Nat.le_refl supply
  | t :: ts => Nat.le_trans (le_copy supply t) (le_copyItems _ ts)

theorem le_copyEntries (supply : NodeId) (entries : List (Atom × Metadata)) :
    supply ≤ (copyEntries supply entries).2 :=
  match entries with
  | [] => Nat.le_refl supply
  | (_, t) :: es => Nat.le_trans (le_copy supply t) (le_copyEntries _ es)

end

/-! ## Dictionaries of their own -/

/-- Why a value cannot be turned into a dictionary. -/
inductive DictError where
  /-- The value has no parts. -/
  | notIterable (type : String)
  /-- A part that has no parts itself. -/
  | notPair (index : Nat)
  /-- A part of another length than two. -/
  | length (index length : Nat)
  /-- A part whose first half cannot be a key. -/
  | unhashable (type : String)
  deriving DecidableEq, Repr

/-- Key and value of a part of a list. -/
def pair? (supply : NodeId) (index : Nat) : Metadata → Except DictError ((Atom × Metadata) × NodeId)
  | .list _ [.atom _ k, v] => .ok ((k, v), supply)
  | .list _ [k, _] => .error (.unhashable k.typeName)
  | .list _ items => .error (.length index items.length)
  | .dict _ [(k, _), (v, _)] => .ok ((k, .atom supply v), supply + 1)
  | .dict _ entries => .error (.length index entries.length)
  | .atom _ (.text s) =>
    match s.toList with
    | [k, v] =>
      .ok ((.text (String.singleton k), .atom supply (.text (String.singleton v))), supply + 1)
    | cs => .error (.length index cs.length)
  | .atom .. => .error (.notPair index)

def pairs (supply : NodeId) (index : Nat) :
    List Metadata → Except DictError (List (Atom × Metadata) × NodeId)
  | [] => .ok ([], supply)
  | t :: ts =>
    match pair? supply index t with
    | .error e => .error e
    | .ok (e, supply) =>
      match pairs supply (index + 1) ts with
      | .error e => .error e
      | .ok (es, supply) => .ok (e :: es, supply)

/-- A new dictionary with the entries of the old one, which it shares. A list of pairs will do too.
-/
def freshDict (supply : NodeId) : Metadata → Except DictError (Metadata × NodeId)
  | .dict _ entries => .ok (.dict supply entries, supply + 1)
  | .list _ items =>
    match pairs (supply + 1) 0 items with
    | .ok (es, next) => .ok (.dict supply (ofEntries es), next)
    | .error e => .error e
  | .atom _ (.text s) =>
    if s.isEmpty then .ok (.dict supply [], supply + 1) else .error (.length 0 1)
  | .atom _ a => .error (.notIterable a.typeName)

end Accounts.Tree
