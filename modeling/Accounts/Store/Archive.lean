import Accounts.Store.Collection

/-!
The archive: users as documents, one for each account, with the address as key. A document holds
the password, the metadata, and when it was created and last changed. Every request makes one call
of the driver, within the time its context leaves; what the driver reports becomes a failure.
-/
namespace Accounts.Archive

variable {T : Type}

def logger : String := "adapter.mongodb.user_repository"

/-- A log entry about an address, perhaps with an error. -/
def entry (level : Log.Level) (message email : String) (error : Option String) : Log.Entry :=
  { logger := logger
    level := level
    template := .text message
    extras := ("email", .text email) ::
      match error with
      | some e => [("error", .text e)]
      | none => [] }

/-! ## Documents -/

def document (u : User Value) (time : Int) : Document :=
  [("_id", .text u.email), ("password", u.password), ("metadata", u.metadata),
    ("created_at", .instant time), ("updated_at", .instant time)]

/-- The user of a document. A missing password is empty, and so is metadata that counts as nothing.
-/
def user (email : String) (d : Document) : User Value :=
  { email := email
    password := (d.get? "password").getD (.text "")
    metadata :=
      match d.get? "metadata" with
      | some m => if m.isNothing then .empty else m
      | none => .empty }

/-! ## Failures -/

/-- The failure for what the driver reports, and the log entry about it. A taken key is a conflict
only when a user is saved. -/
def failureOf (action : Action) (email : String) (cause : Cause) : Failure × Option Log.Entry :=
  match cause with
  | .encoding _ message | .overflow message =>
    (.storage action cause,
      some (entry Log.Level.error (action.failed ++ ": document not encodable") email message))
  | .storage e =>
    if action = .save ∧ e.kind = .duplicateKey then
      (.taken email cause,
        some (entry Log.Level.warning "User save failed: email already exists" email none))
    else if e.kind = .tooLarge then
      if action = .retrieve then (.driver e, none)
      else
        (.storage action cause,
          some (entry Log.Level.error (action.failed ++ ": document not encodable") email
            e.message))
    else if e.isTimeout then
      (.timedOut action cause,
        some (entry Log.Level.warning (action.failed ++ ": deadline exceeded") email none))
    else (.storage action cause, some (entry Log.Level.error action.failed email e.message))

/-- What is raised before the call of a request is made. A number or a date that is too large counts
as data that cannot be encoded, and is handed on as it is only when a user is retrieved. -/
def raised (action : Action) (f : Failure) : Failure ⊕ Cause :=
  match f.overflow? with
  | some message => if action = .retrieve then .inl f else .inr (.overflow message)
  | none => .inl f

def succeeded (action : Action) (email : String) : Option Log.Entry :=
  match action with
  | .save => some (entry Log.Level.info "User saved" email none)
  | .updateUser => some (entry Log.Level.debug "Updated user metadata" email none)
  | .updatePassword => some (entry Log.Level.info "Updated password" email none)
  | .retrieve => none

/-! ## Requests -/

/-- The call of the driver that a request makes at a given time. -/
def call (r : Request Value) (time : Int) (timeout : Option T) : DriverCall T :=
  match r with
  | .save u => ⟨.insert, [.record (document u time)], timeout⟩
  | .updateUser u =>
    ⟨.update, [Collection.query u.email,
      Collection.setting [("metadata", u.metadata), ("updated_at", .instant time)]], timeout⟩
  | .updatePassword email password =>
    ⟨.update, [Collection.query email,
      Collection.setting [("password", password), ("updated_at", .instant time)]], timeout⟩
  | .retrieve email => ⟨.find, [Collection.query email], timeout⟩

/-- A document that must be there. -/
def matched (email : String) (found : Except Cause Bool) : Except (Failure ⊕ Cause) (Reply Value) :=
  match found with
  | .error c => .error (.inr c)
  | .ok true => .ok .done
  | .ok false => .error (.inl (.unknown email))

/-- What the call does to the collection. A failure is the archive's own, or what the driver
reports. -/
def execute (c : Collection) (r : Request Value) (time : Int) :
    Except (Failure ⊕ Cause) (Reply Value) × Collection :=
  match r with
  | .save u =>
    let (result, c) := c.insert u.email (document u time)
    (match result with
      | .ok () => .ok .done
      | .error e => .error (.inr e), c)
  | .updateUser u =>
    let (found, c) := c.update u.email [("metadata", u.metadata), ("updated_at", .instant time)]
    (matched u.email found, c)
  | .updatePassword email password =>
    let (found, c) := c.update email [("password", password), ("updated_at", .instant time)]
    (matched email found, c)
  | .retrieve email =>
    let (found, c) := c.find email
    (match found with
      | .error e => .error (.inr e)
      | .ok none => .error (.inl (.unknown email))
      | .ok (some d) => .ok (.user (user email d)), c)

def logged (e : Option Log.Entry) : List (Event T) :=
  match e with
  | some e => [.logged e]
  | none => []

/-- A request that comes to nothing, after these events. -/
def stop (c : Collection) (r : Request Value) (events : List (Event T)) :
    Failure ⊕ Cause → Outcome T Collection (Reply Value)
  | .inl f => { result := .error f, state := c, events := events }
  | .inr cause =>
    let (f, e) := failureOf r.action r.email cause
    { result := .error f, state := c, events := events ++ logged e }

def perform (c : Collection) (r : Request Value) (time : Int) (timeout : Option T) :
    Outcome T Collection (Reply Value) :=
  let event : Event T := .called (call r time timeout)
  match execute c r time with
  | (.ok reply, c) =>
    { result := .ok reply, state := c, events := event :: logged (succeeded r.action r.email) }
  | (.error e, c) => stop c r [event] e

/-- The wall time of a request and the time it is left. A new document takes its time before the
context is looked at, and what is raised then is handed on; a change of one takes it afterwards. -/
def prepare [Timeline T] (o : Occasion T) (r : Request Value) :
    Except (Failure ⊕ Cause) (Int × Option T) :=
  let left := o.check.mapError (raised r.action)
  match r with
  | .save _ => do
    let time ← o.wallTime.mapError .inl
    return (time, ← left)
  | .retrieve _ => return (0, ← left)
  | _ => do
    let timeout ← left
    return (← o.wallTime.mapError (raised r.action), timeout)

def run [Timeline T] (c : Collection) (o : Occasion T) (r : Request Value) :
    Outcome T Collection (Reply Value) :=
  match prepare o r with
  | .error e => stop c r [] e
  | .ok (time, timeout) => perform c r time timeout

end Accounts.Archive
