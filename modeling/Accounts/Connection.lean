import Accounts.Log.Logger
import Accounts.Failure

/-!
The connection to the document database. A manager keeps one client and gives it out as long as it
answers a ping. A missing address or a failed attempt to connect is remembered: the manager
tries no more until it is reset.
-/
namespace Accounts.Connection

/-- A client is known by the number of clients before it. -/
abbrev ClientId := Nat

/-- What the environment says, and what the driver says to the name of the database if it refuses
it. -/
structure Settings where
  url : Option String := none
  database : String := "users"
  refusal : Option StorageError := none
  deriving DecidableEq, Repr

def collectionName : String := "users"

inductive Setting where
  | number (n : Nat)
  | flag (b : Bool)
  deriving DecidableEq, Repr

def options : List (String × Setting) :=
  [("serverSelectionTimeoutMS", .number 5000), ("connectTimeoutMS", .number 5000),
    ("maxPoolSize", .number 10), ("retryWrites", .flag true), ("retryReads", .flag true)]

/-- A manager: the client it keeps, whether it has given up, and how many clients there have been.
-/
structure Manager where
  cached : Option ClientId := none
  failed : Bool := false
  created : Nat := 0
  deriving DecidableEq, Repr

inductive Command where
  | client | database | reset
  deriving DecidableEq, Repr

/-- How the next attempts to connect and the next pings come out. What is not foreseen succeeds. -/
structure Script where
  constructs : List (Option StorageError) := []
  pings : List (Option StorageError) := []

/-- What is asked of the driver. -/
inductive Call where
  | construct (url : String)
  | ping (client : ClientId)
  deriving DecidableEq, Repr

inductive Answer where
  | nothing
  | client (id : ClientId)
  | database (id : ClientId) (name : String)
  deriving DecidableEq, Repr

/-- What comes of a command. An error that the manager does not expect is handed on. -/
structure Outcome where
  answer : Except StorageError Answer
  manager : Manager
  calls : List Call := []
  entries : List Log.Entry := []

/-! ## Log entries -/

def logger : String := "adapter.mongodb.connection"

def entry (level : Log.Level) (message : String) (extras : List (String × Log.Item)) : Log.Entry :=
  { logger := logger
    level := level
    template := .text ("[MONGODB] " ++ message)
    extras := extras }

/-- How much of an error is logged. -/
def errorLength : Nat := 200

def lostEntry : Log.Entry := entry Log.Level.debug "Cached client failed ping, reconnecting" []

def unconfiguredEntry : Log.Entry := entry Log.Level.error "MONGO_URL not configured" []

def failedEntry (e : StorageError) : Log.Entry :=
  entry Log.Level.error "Initial connection failed"
    [("error", .text (String.ofList (e.message.toList.take errorLength)))]

def connectedEntry (s : Settings) : Log.Entry :=
  entry Log.Level.info ("Connected successfully to " ++ s.database) []

/-! ## Commands -/

/-- The errors that the manager expects are those of the driver; an error of the encoder is none. -/
def expected (e : StorageError) : Bool := e.kind != .tooLarge

def next (outcomes : List (Option StorageError)) : Option StorageError := outcomes.head?.join

def giveUp (m : Manager) (calls : List Call) (entries : List Log.Entry) : Outcome :=
  { answer := .ok .nothing
    manager := { m with failed := true }
    calls := calls
    entries := entries }

/-- What comes of an attempt to connect that ends in an error. -/
def refused (m : Manager) (e : StorageError) (calls : List Call) : Outcome :=
  if expected e then giveUp m calls [failedEntry e]
  else { answer := .error e, manager := m, calls := calls }

/-- Connect for the first time, with a ping to see whether it worked. -/
def connect (s : Settings) (m : Manager) (url : String) (script : Script) : Outcome :=
  match next script.constructs with
  | some e => refused m e [.construct url]
  | none =>
    let id := m.created
    let m := { m with created := id + 1 }
    match next script.pings with
    | some e => refused m e [.construct url, .ping id]
    | none =>
      { answer := .ok (.client id)
        manager := { m with cached := some id }
        calls := [.construct url, .ping id]
        entries := [connectedEntry s] }

/-- Connect unless that is known not to work. -/
def reconnect (s : Settings) (m : Manager) (script : Script) : Outcome :=
  if m.failed then { answer := .ok .nothing, manager := m }
  else
    match s.url.filter (!·.isEmpty) with
    | none => giveUp m [] [unconfiguredEntry]
    | some url => connect s m url script

/-- The client that is kept, if it answers, or else a new one. -/
def client (s : Settings) (m : Manager) (script : Script) : Outcome :=
  match m.cached with
  | none => reconnect s m script
  | some id =>
    match next script.pings with
    | none => { answer := .ok (.client id), manager := m, calls := [.ping id] }
    | some e =>
      if expected e then
        let out := reconnect s { m with cached := none } { script with pings := script.pings.tail }
        { out with calls := .ping id :: out.calls, entries := lostEntry :: out.entries }
      else { answer := .error e, manager := m, calls := [.ping id] }

/-- The database of a client, unless the driver refuses its name. -/
def Answer.toDatabase (s : Settings) : Answer → Except StorageError Answer
  | .client id =>
    match s.refusal with
    | some e => .error e
    | none => .ok (.database id s.database)
  | a => .ok a

def step (s : Settings) (m : Manager) (script : Script) : Command → Outcome
  | .client => client s m script
  | .database =>
    let out := client s m script
    { out with answer := out.answer.bind (Answer.toDatabase s) }
  | .reset => { answer := .ok .nothing, manager := { m with cached := none, failed := false } }

def run (s : Settings) (m : Manager) : List (Command × Script) → List Outcome
  | [] => []
  | (c, script) :: rest => step s m script c :: run s (step s m script c).manager rest

end Accounts.Connection
