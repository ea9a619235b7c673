import Accounts.Store.Archive
import Accounts.Store.Directory

/-!
Repositories. A repository keeps users for a program whose metadata are made of nodes, and shares no
node with it: a directory takes copies and gives copies, and an archive keeps documents, which
have no nodes at all.
-/
namespace Accounts

inductive Backend where
  | directory (d : Directory Metadata)
  | archive (c : Collection)

/-- A repository, and the first node that is not in use. -/
structure Repository where
  backend : Backend
  supply : NodeId := 0

namespace Repository

variable {T : Type} [Timeline T]

def runDirectory (d : Directory Metadata) (supply : NodeId) (o : Occasion T)
    (r : Request Metadata) : Outcome T Repository (Reply Metadata) :=
  let (request, next) := r.copy supply
  let out := d.run o request
  match out.result with
  | .error e =>
    { result := .error e, state := ⟨.directory out.state, next⟩, events := out.events }
  | .ok reply =>
    let (reply, next) := reply.copy next
    { result := .ok reply, state := ⟨.directory out.state, next⟩, events := out.events }

def runArchive (c : Collection) (supply : NodeId) (o : Occasion T)
    (r : Request Metadata) : Outcome T Repository (Reply Metadata) :=
  let out := Archive.run c o r.erase
  match out.result with
  | .error e =>
    { result := .error e, state := ⟨.archive out.state, supply⟩, events := out.events }
  | .ok reply =>
    let (reply, next) := reply.build supply
    { result := .ok reply, state := ⟨.archive out.state, next⟩, events := out.events }

def run (s : Repository) (o : Occasion T) (r : Request Metadata) :
    Outcome T Repository (Reply Metadata) :=
  match s.backend with
  | .directory d => runDirectory d s.supply o r
  | .archive c => runArchive c s.supply o r

/-- Change every node that the repository holds. -/
def mapMetadata (f : Metadata → Metadata) (s : Repository) : Repository :=
  match s.backend with
  | .directory d =>
    let entries := d.entries.mapValues fun u => u.withMetadata (f u.metadata)
    { s with backend := .directory { d with entries := entries } }
  | .archive _ => s

/-! ## Failures to come -/

/-- The failure that a directory is to show. -/
def failWith (message : Option String) (s : Repository) : Repository :=
  match s.backend with
  | .directory d => { s with backend := .directory { d with failWith := message } }
  | .archive _ => s

/-- The error that the driver of an archive is to report next. -/
def arm (m : Method) (e : StorageError) (s : Repository) : Repository :=
  match s.backend with
  | .directory _ => s
  | .archive c => { s with backend := .archive (c.arm m e) }

/-! ## What is kept -/

def storedUsers (d : Directory Metadata) : List (User Value) :=
  d.entries.map fun e => e.2.erase

def storedDocuments (c : Collection) : List (User Value) :=
  c.documents.map fun e => Archive.user e.1 e.2

def users (s : Repository) : List (User Value) :=
  match s.backend with
  | .directory d => storedUsers d
  | .archive c => storedDocuments c

end Repository

end Accounts
