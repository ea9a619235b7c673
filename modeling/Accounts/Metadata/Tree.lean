import Accounts.Number.Written
import Accounts.Text.Quoted
import Accounts.Time.Calendar

/-!
Metadata are trees of lists and dictionaries over plain values. Every node carries a tag. In a
running program the tag is the identity of the node: two users that share a list hold nodes with
the same tag, and an assignment to the list acts wherever the tag occurs. Trees with the trivial
tag are plain values.
-/
namespace Accounts

/-- Plain values, which are also the keys of dictionaries. An instant counts seconds from 1970. -/
inductive Atom where
  | null
  | bool (b : Bool)
  | int (n : Int)
  | double (x : Double)
  | text (s : String)
  | instant (seconds : Int)
  deriving DecidableEq, Repr, Inhabited

/-- A tree of plain values with tags of type `ι`. Dictionaries keep the order of their entries. -/
inductive Tree (ι : Type) where
  | atom (tag : ι) (a : Atom)
  | list (tag : ι) (items : List (Tree ι))
  | dict (tag : ι) (entries : List (Atom × Tree ι))
  deriving Repr

instance {ι : Type} [Inhabited ι] : Inhabited (Tree ι) := ⟨.atom default .null⟩

abbrev NodeId := Nat

/-- A tree of nodes with identities. -/
abbrev Metadata := Tree NodeId

/-- A tree that stands for itself only. -/
abbrev Value := Tree Unit

namespace Atom

/-- A boolean counts as zero or one. -/
def number? : Atom → Option Magnitude
  | .bool b => some (.ofInt (if b then 1 else 0))
  | .int n => some (.ofInt n)
  | .double x => some x.magnitude
  | _ => none

/-- Equality of values: numbers are equal when they stand for the same, an undefined one never is.
-/
def same (a b : Atom) : Bool :=
  match a.number?, b.number? with
  | some x, some y => x.eq y
  | none, none => a == b
  | _, _ => false

/-- Null, zero, false and the empty text count as nothing. -/
def isNothing : Atom → Bool
  | .null => true
  | .bool b => !b
  | .int n => n == 0
  | .double x => x.magnitude.eq (.ofInt 0)
  | .text s => s.isEmpty
  | .instant _ => false

def typeName : Atom → String
  | .null => "NoneType"
  | .bool _ => "bool"
  | .int _ => "int"
  | .double _ => "float"
  | .text _ => "str"
  | .instant _ => "datetime.datetime"

def shown (showing : Text.Showing) : Atom → List Char
  | .null => ['N', 'o', 'n', 'e']
  | .bool true => ['T', 'r', 'u', 'e']
  | .bool false => ['F', 'a', 'l', 's', 'e']
  | .int n => Text.decimalInt n
  | .double x => Written.shortest x
  | .text s => Text.quoted showing s.toList
  | .instant t => (DateTime.ofSeconds t 0).render ' '

end Atom

namespace Tree

variable {ι κ : Type}

def tag : Tree ι → ι
  | .atom t _ | .list t _ | .dict t _ => t

def typeName : Tree ι → String
  | .atom _ a => a.typeName
  | .list .. => "list"
  | .dict .. => "dict"

def isNothing : Tree ι → Bool
  | .atom _ a => a.isNothing
  | .list _ items => items.isEmpty
  | .dict _ entries => entries.isEmpty

mutual

def erase : Tree ι → Value
  | .atom _ a => .atom () a
  | .list _ items => .list () (eraseItems items)
  | .dict _ entries => .dict () (eraseEntries entries)

def eraseItems : List (Tree ι) → List Value
  | [] => []
  | t :: ts => t.erase :: eraseItems ts

def eraseEntries : List (Atom × Tree ι) → List (Atom × Value)
  | [] => []
  | (k, t) :: es => (k, t.erase) :: eraseEntries es

end

mutual

def tags : Tree ι → List ι
  | .atom t _ => [t]
  | .list t items => t :: tagsOfItems items
  | .dict t entries => t :: tagsOfEntries entries

def tagsOfItems : List (Tree ι) → List ι
  | [] => []
  | t :: ts => t.tags ++ tagsOfItems ts

def tagsOfEntries : List (Atom × Tree ι) → List ι
  | [] => []
  | (_, t) :: es => t.tags ++ tagsOfEntries es

end

mutual

/-- Equality of values. `shared` says which tags belong to one and the same node: such a node is
equal to itself even when it holds an undefined number. The order of entries does not count. -/
def same (shared : ι → ι → Bool) : Tree ι → Tree ι → Bool
  | .atom s a, .atom t b => shared s t || a.same b
  | .list _ xs, .list _ ys => sameItems shared xs ys
  | .dict _ xs, .dict _ ys => xs.length == ys.length && sameEntries shared xs ys
  | _, _ => false

def sameItems (shared : ι → ι → Bool) : List (Tree ι) → List (Tree ι) → Bool
  | [], [] => true
  | x :: xs, y :: ys => x.same shared y && sameItems shared xs ys
  | _, _ => false

/-- Every entry has a partner of the same key. -/
def sameEntries (shared : ι → ι → Bool) : List (Atom × Tree ι) → List (Atom × Tree ι) → Bool
  | [], _ => true
  | (k, x) :: xs, ys =>
    (match ys.find? fun e => k.same e.1 with
      | some (_, y) => x.same shared y
      | none => false) && sameEntries shared xs ys

end

def lookup (key : Atom) (entries : List (Atom × Tree ι)) : Option (Tree ι) :=
  (entries.find? fun e => key.same e.1).map (·.2)

/-- Set an entry: an equal key stays where and what it is, a new one goes to the end. -/
def setEntry (key : Atom) (value : Tree ι) : List (Atom × Tree ι) → List (Atom × Tree ι)
  | [] => [(key, value)]
  | (k, v) :: es => if key.same k then (k, value) :: es else (k, v) :: setEntry key value es

/-- Entries one after another, a later one replacing the value of an earlier one. -/
def ofEntries (entries : List (Atom × Tree ι)) : List (Atom × Tree ι) :=
  entries.foldl (fun es e => setEntry e.1 e.2 es) []

end Tree

namespace Value

def null : Value := .atom () .null
def text (s : String) : Value := .atom () (.text s)
def instant (seconds : Int) : Value := .atom () (.instant seconds)
def empty : Value := .dict () []

def record (fields : List (String × Value)) : Value :=
  .dict () (fields.map fun f => (.text f.1, f.2))

/-- The entries of a dictionary whose keys are texts. -/
def fields : Value → List (String × Value)
  | .dict _ entries => entries.filterMap fun e =>
    match e.1 with
    | .text name => some (name, e.2)
    | _ => none
  | _ => []

def text? : Value → Option String
  | .atom _ (.text s) => some s
  | _ => none

end Value

end Accounts
