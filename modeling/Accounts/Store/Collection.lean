import Accounts.Store.Request
import Accounts.Table

/-!
A collection of documents behind a database driver. Every call is encoded first; then an error that
the driver has in store for it is used up; then it takes effect. Writes are atomic: a call that
fails has changed no document.
-/
namespace Accounts

/-- A document: fields by name. -/
abbrev Document := Table Value

/-- Documents by address, and the errors in store for the next call of each method. The driver has
its own words for arguments that it cannot encode. -/
structure Collection where
  documents : Table Document := []
  armed : List (Method × StorageError) := []
  wording : List Value → EncodingFault → String := fun _ f => f.message

namespace Collection

def fault? (c : Collection) (m : Method) : Option StorageError := c.armed.lookup m

/-- An error comes in place of one that is still in store. -/
def arm (c : Collection) (m : Method) (e : StorageError) : Collection :=
  { c with armed := (m, e) :: c.armed.filter (·.1 ≠ m) }

def disarm (c : Collection) (m : Method) : Collection :=
  { c with armed := c.armed.filter (·.1 ≠ m) }

def query (email : String) : Value := .record [("_id", .text email)]

/-- What an update sets. -/
def setting (fields : Document) : Value := .record [("$set", .record fields)]

/-- What a call goes through before it takes effect. -/
def enter (c : Collection) (m : Method) (arguments : List Value) : Except Cause Unit × Collection :=
  match Tree.itemsFault? arguments with
  | some f => (.error (.encoding f (c.wording arguments f)), c)
  | none =>
    match c.fault? m with
    | some e => (.error (.storage e), c.disarm m)
    | none => (.ok (), c)

/-- No call changes a document before it takes effect. -/
@[simp] theorem documents_enter (c : Collection) (m : Method) (arguments : List Value) :
    (c.enter m arguments).2.documents = c.documents := by
  unfold enter
  split
  · rfl
  · split <;> rfl

/-- Add a document under a new address. -/
def insert (c : Collection) (email : String) (d : Document) : Except Cause Unit × Collection :=
  match c.enter .insert [.record d] with
  | (.error e, c) => (.error e, c)
  | (.ok (), c) =>
    match c.documents.get? email with
    | some _ => (.error (.storage StorageError.takenKey), c)
    | none => (.ok (), { c with documents := c.documents.put email d })

/-- Fields replaced where they are, or put at the end. -/
def setFields (fields : Document) (d : Document) : Document :=
  fields.foldl (fun d f => d.put f.1 f.2) d

/-- Set fields of a document; tells whether there is one. -/
def update (c : Collection) (email : String) (fields : Document) : Except Cause Bool × Collection :=
  match c.enter .update [query email, setting fields] with
  | (.error e, c) => (.error e, c)
  | (.ok (), c) =>
    match c.documents.get? email with
    | some d => (.ok true, { c with documents := c.documents.put email (setFields fields d) })
    | none => (.ok false, c)

def find (c : Collection) (email : String) : Except Cause (Option Document) × Collection :=
  match c.enter .find [query email] with
  | (.error e, c) => (.error e, c)
  | (.ok (), c) => (.ok (c.documents.get? email), c)

end Collection

end Accounts
