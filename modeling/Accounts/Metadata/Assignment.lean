import Accounts.Metadata.Encodable

/-!
Assignment inside metadata: a path of keys and indexes leads to a list or dictionary, and its last
step names what is replaced there. An index is a whole number of 64 bits. The assignment acts on the
node, wherever the node is held.
-/
namespace Accounts.Tree

/-- Why a path leads nowhere. -/
inductive PathError where
  | missingKey (key : Atom)
  | outOfRange (container : String) (assigning : Bool)
  /-- An index of more than 64 bits. -/
  | indexSize
  /-- A key of a type that no key has. -/
  | keyType (type : String)
  | indexType (container type : String)
  | notSubscriptable (type : String)
  | notAssignable (type : String)
  | emptyPath
  deriving DecidableEq, Repr

/-- An index counts from the end when it is negative. -/
def position? (length : Nat) (index : Int) : Option Nat :=
  let i := if index < 0 then index + length else index
  if 0 ≤ i ∧ i < length then some i.toNat else none

/-- The whole number that an index stands for. -/
def index? : Value → Option Int
  | .atom _ (.int n) => some n
  | .atom _ (.bool b) => some (if b then 1 else 0)
  | _ => none

def index (container : String) (step : Value) : Except PathError Int :=
  match index? step with
  | none => .error (.indexType container step.typeName)
  | some i => if Atom.fitsWord i then .ok i else .error .indexSize

/-- The key of a step into a dictionary. -/
def key : Value → Except PathError Atom
  | .atom _ a => .ok a
  | step => .error (.keyType step.typeName)

def child (step : Value) : Metadata → Except PathError Metadata
  | .dict _ entries =>
    match key step with
    | .error e => .error e
    | .ok k =>
      match lookup k entries with
      | some t => .ok t
      | none => .error (.missingKey k)
  | .list _ items =>
    match index "list" step with
    | .error e => .error e
    | .ok i =>
      match (position? items.length i).bind (items[·]?) with
      | some t => .ok t
      | none => .error (.outOfRange "list" false)
  | .atom _ (.text s) =>
    match index "string" step with
    | .error e => .error e
    | .ok i =>
      match (position? s.length i).bind (s.toList[·]?) with
      | some c => .ok (.atom 0 (.text (String.singleton c)))
      | none => .error (.outOfRange "string" false)
  | .atom _ a => .error (.notSubscriptable a.typeName)

/-- The node at the end of a path. -/
def descend : List Value → Metadata → Except PathError Metadata
  | [], t => .ok t
  | step :: path, t =>
    match child step t with
    | .ok u => descend path u
    | .error e => .error e

/-- A node with one part replaced or added. In a text an index is looked at before the assignment is
refused. -/
def assignPart (step : Value) (value : Metadata) : Metadata → Except PathError Metadata
  | .dict t entries => (key step).map fun k => .dict t (setEntry k value entries)
  | .list t items =>
    match index "list" step with
    | .error e => .error e
    | .ok i =>
      match position? items.length i with
      | some k => .ok (.list t (items.set k value))
      | none => .error (.outOfRange "list" true)
  | .atom _ (.text s) =>
    match index "string" step with
    | .error .indexSize => .error .indexSize
    | _ => .error (.notAssignable (Atom.text s).typeName)
  | .atom _ a => .error (.notAssignable a.typeName)

mutual

/-- Put `node` wherever a list or dictionary with its identity is. -/
def update (node : Metadata) : Metadata → Metadata
  | .atom t a => .atom t a
  | .list t items => if t = node.tag then node else .list t (updateItems node items)
  | .dict t entries => if t = node.tag then node else .dict t (updateEntries node entries)

def updateItems (node : Metadata) : List Metadata → List Metadata
  | [] => []
  | t :: ts => update node t :: updateItems node ts

def updateEntries (node : Metadata) : List (Atom × Metadata) → List (Atom × Metadata)
  | [] => []
  | (k, t) :: es => (k, update node t) :: updateEntries node es

end

mutual

/-- The lists and dictionaries in a tree, itself included. -/
def containers : Metadata → List Metadata
  | .atom .. => []
  | .list t items => .list t items :: itemContainers items
  | .dict t entries => .dict t entries :: entryContainers entries

def itemContainers : List Metadata → List Metadata
  | [] => []
  | t :: ts => t.containers ++ itemContainers ts

def entryContainers : List (Atom × Metadata) → List Metadata
  | [] => []
  | (_, t) :: es => t.containers ++ entryContainers es

end

/-- The node that an assignment changes, in its new form. -/
def assigned : List Value → Metadata → Metadata → Except PathError Metadata
  | [], _, _ => .error .emptyPath
  | [step], value, t => assignPart step value t
  | step :: path, value, t =>
    match child step t with
    | .ok u => assigned path value u
    | .error e => .error e

end Accounts.Tree
