import Accounts.Store.Request
import Accounts.Table

/-!
The directory: users in memory. A request is accepted first, by its context and by the failure the
directory may have been told to show; then its body runs on the entries. The two steps are separate
because requests of several clients may interleave between them.
-/
namespace Accounts

/-- Users by address, and a failure to show. -/
structure Directory (M : Type) where
  entries : Table (User M) := []
  failWith : Option String := none

namespace Directory

variable {M T : Type}

/-- The failure that every accepted request is to show. An empty message shows none. -/
def failure? (d : Directory M) : Option Failure :=
  match d.failWith with
  | some message => if message.isEmpty then none else some (.offline message)
  | none => none

/-- The first step of a request. -/
def accept [Timeline T] (d : Directory M) (o : Occasion T) : Except Failure Unit :=
  match o.check with
  | .error e => .error e
  | .ok _ =>
    match d.failure? with
    | some f => .error f
    | none => .ok ()

def modify (email : String) (f : User M → User M) (entries : Table (User M)) :
    Except Failure (Table (User M)) :=
  match entries.get? email with
  | some u => .ok (entries.put email (f u))
  | none => .error (.unknown email)

/-- The second step of a request, on the entries. -/
def body (entries : Table (User M)) : Request M → Except Failure (Reply M × Table (User M))
  | .save u =>
    match entries.get? u.email with
    | some _ => .error (.taken u.email none)
    | none => .ok (.done, entries.put u.email u)
  | .updateUser u => (modify u.email (·.withMetadata u.metadata) entries).map (.done, ·)
  | .updatePassword email password =>
    (modify email (fun u => { u with password := password }) entries).map (.done, ·)
  | .retrieve email =>
    match entries.get? email with
    | some u => .ok (.user u, entries)
    | none => .error (.unknown email)

/-- The directory after the second step. -/
def perform (d : Directory M) (r : Request M) : Except Failure (Reply M) × Directory M :=
  match body d.entries r with
  | .ok (reply, entries) => (.ok reply, { d with entries := entries })
  | .error e => (.error e, d)

/-- A request that fails leaves the directory as it is. -/
theorem perform_of_error {d : Directory M} {r : Request M} {f : Failure}
    (h : (d.perform r).1 = .error f) : (d.perform r).2 = d := by
  cases hb : body d.entries r with
  | error e => simp [perform, hb]
  | ok p => simp [perform, hb] at h

def run [Timeline T] (d : Directory M) (o : Occasion T) (r : Request M) :
    Outcome T (Directory M) (Reply M) :=
  match d.accept o with
  | .error e => { result := .error e, state := d }
  | .ok () =>
    let (result, state) := d.perform r
    { result := result, state := state }

end Directory

end Accounts
