import Accounts.Session.Step

/-!
The state of a session: a clock, contexts, users under names, one repository and one hasher. Users
are held as trees of nodes, so that an assignment inside the metadata of one shows in every other
that shares the node.
-/
namespace Accounts

/-- The state between two steps. The first context is there from the beginning. -/
structure Session (T : Type) where
  now : T
  contexts : Contexts T := [{}]
  /-- Contexts by name. -/
  named : Table Nat := [("bg", 0)]
  /-- Users by name. -/
  held : Table (User Metadata) := []
  repository : Repository
  hasher : Hasher

namespace Session

variable {T : Type}

def start (now : T) (backend : Backend) (hasher : Hasher) : Session T :=
  { now := now, repository := { backend := backend }, hasher := hasher }

/-! ## What a step leaves -/

def answer (s : Session T) (a : Answer T) : Session T × Result T := (s, { answer := .ok a })

def refuse (s : Session T) (r : Refusal) : Session T × Result T := (s, { answer := .error r })

def fail (s : Session T) (f : Failure) : Session T × Result T := s.refuse (.failure f)

/-- Take over the repository of an outcome and answer as its result says. -/
def conclude {α : Type} (s : Session T) (o : Outcome T Repository α)
    (rest : Session T → α → Session T × Answer T) : Session T × Result T :=
  let t := { s with repository := o.state }
  match o.result with
  | .error f => (t, { answer := .error (.failure f), events := o.events })
  | .ok a => ((rest t a).1, { answer := .ok (rest t a).2, events := o.events })

def concludeDone {α : Type} (s : Session T) (o : Outcome T Repository α) : Session T × Result T :=
  s.conclude o fun t _ => (t, .done)

/-! ## Users -/

/-- What needs a user that is held. -/
def withUser (s : Session T) (name : String) (f : User Metadata → Session T × Result T) :
    Session T × Result T :=
  match s.held.get? name with
  | some u => f u
  | none => s.refuse (.unnamed name)

/-- Hold a user under a name, if there is one. -/
def keep (s : Session T) (name : Option String) (u : User Metadata) : Session T :=
  match name with
  | some n => { s with held := s.held.put n u }
  | none => s

/-- Hold a user and answer with it. -/
def keepAnswered (s : Session T) (name : String) (u : User Metadata) : Session T × Result T :=
  (s.keep (some name) u).answer (.user u.erase)

def concludeUser (s : Session T) (name : Option String) (o : Outcome T Repository (User Metadata)) :
    Session T × Result T :=
  s.conclude o fun t u => (t.keep name u, .user u.erase)

def withSupply (s : Session T) (supply : NodeId) : Session T :=
  { s with repository := { s.repository with supply := supply } }

/-- Put a node in its new form wherever it is, and answer with one of the users. -/
def updateNode (s : Session T) (name : String) (u : User Metadata) (node : Metadata) :
    Session T × Result T :=
  let renew := Tree.update node
  let held := s.held.mapValues fun v => v.withMetadata (renew v.metadata)
  let t := { s with held := held, repository := s.repository.mapMetadata renew }
  t.keepAnswered name (u.withMetadata (renew u.metadata))

/-- Assign a node that is held, in place of the metadata or inside them. -/
def assignHeld (s : Session T) (name : String) (u : User Metadata) (node : Metadata) :
    List Value → Session T × Result T
  | [] => s.keepAnswered name (u.withMetadata node)
  | path =>
    match Tree.assigned path node u.metadata with
    | .ok changed =>
      if ∃ c ∈ node.containers, c.tag = changed.tag then s.refuse .circular
      else s.updateNode name u changed
    | .error e => s.fail (.path e)

def changeUser (s : Session T) (name : String) (u : User Metadata) : Change → Session T × Result T
  | .email e => s.keepAnswered name { u with email := e }
  | .password v => s.keepAnswered name { u with password := v }
  | .metadata v =>
    let (m, next) := v.build s.repository.supply
    (s.withSupply next).keepAnswered name (u.withMetadata m)
  | .part path v =>
    let (node, next) := v.build s.repository.supply
    let t := s.withSupply next
    match Tree.assigned path node u.metadata with
    | .ok node => t.updateNode name u node
    | .error e => t.fail (.path e)
  | .share path source place =>
    s.withUser source fun v =>
      match Tree.descend place v.metadata with
      | .ok node => s.assignHeld name u node path
      | .error e => s.fail (.path e)

/-! ## What lies in the repository -/

def withBackend (s : Session T) (b : Backend) : Session T :=
  { s with repository := { s.repository with backend := b } }

/-- Put a document into an archive, once it can be encoded. -/
def seed (s : Session T) (document : Value) : Session T × Result T :=
  match s.repository.backend with
  | .directory _ => s.answer .done
  | .archive c =>
    match document.fault? with
    | some f => s.refuse (.document f (c.wording [document] f))
    | none =>
      let fields : Document := document.fields
      match fields.get? "_id" with
      | none => s.refuse (.unnamed "_id")
      | some id =>
        let documents := c.documents.put (id.text?.getD "") fields
        (s.withBackend (.archive { c with documents := documents })).answer .done

/-- Everything that is stored, in the order of the addresses. -/
def dump (s : Session T) : Answer T :=
  match s.repository.backend with
  | .directory d => .users (d.entries.sorted.map fun e => e.2.erase)
  | .archive c => .documents (c.documents.sorted.map (·.2))

end Session

end Accounts
