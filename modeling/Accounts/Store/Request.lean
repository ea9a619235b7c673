import Accounts.Log.Logger
import Accounts.User

/-!
What a store of users is asked, under which circumstances, and what comes of it.
-/
namespace Accounts

inductive Request (M : Type) where
  | save (user : User M)
  /-- Replace the metadata. -/
  | updateUser (user : User M)
  | updatePassword (email : String) (password : Value)
  | retrieve (email : String)
  deriving Repr

inductive Reply (M : Type) where
  | done
  | user (u : User M)
  deriving Repr

namespace Request

variable {M : Type}

def email : Request M → String
  | .save u | .updateUser u => u.email
  | .updatePassword e _ | .retrieve e => e

def action : Request M → Action
  | .save _ => .save
  | .updateUser _ => .updateUser
  | .updatePassword .. => .updatePassword
  | .retrieve _ => .retrieve

def copy (supply : NodeId) : Request Metadata → Request Metadata × NodeId
  | .save u => (.save (u.copy supply).1, (u.copy supply).2)
  | .updateUser u => (.updateUser (u.copy supply).1, (u.copy supply).2)
  | .updatePassword email password => (.updatePassword email password, supply)
  | .retrieve email => (.retrieve email, supply)

def erase : Request Metadata → Request Value
  | .save u => .save u.erase
  | .updateUser u => .updateUser u.erase
  | .updatePassword email password => .updatePassword email password
  | .retrieve email => .retrieve email

end Request

namespace Reply

def copy (supply : NodeId) : Reply Metadata → Reply Metadata × NodeId
  | .done => (.done, supply)
  | .user u => (.user (u.copy supply).1, (u.copy supply).2)

def build (supply : NodeId) : Reply Value → Reply Metadata × NodeId
  | .done => (.done, supply)
  | .user u => (.user (u.build supply).1, (u.build supply).2)

def erase : Reply Metadata → Reply Value
  | .done => .done
  | .user u => .user u.erase

end Reply

/-- The circumstances of a request: its context and the clock. -/
structure Occasion (T : Type) where
  contexts : Contexts T
  now : T
  context : Nat

namespace Occasion

variable {T : Type} [Timeline T]

def check (o : Occasion T) : Except Failure (Option T) :=
  match o.contexts.check o.now o.context with
  | .ok r => .ok r
  | .error e => .error (.context e)

/-- The beginning of the clock, in seconds since 1970: the first day of 2024. -/
def epoch : Int := 1704067200

/-- The wall time of a moment of the clock, if it is a date. -/
def wallTime? (now : T) : Option Int :=
  match Timeline.floor? now with
  | some s => if (DateTime.ofSeconds (epoch + s) 0).date.inRange then some (epoch + s) else none
  | none => none

def wallTime (o : Occasion T) : Except Failure Int :=
  match wallTime? o.now with
  | some s => .ok s
  | none => .error .date

end Occasion

inductive Method where
  | insert | update | find
  deriving DecidableEq, Repr

namespace Method

def name : Method → String
  | .insert => "insert_one"
  | .update => "update_one"
  | .find => "find_one"

def all : List Method := [.insert, .update, .find]

def ofName? (s : String) : Option Method := all.find? fun m => m.name == s

end Method

/-- A call of the driver: its arguments and the time it is given. -/
structure DriverCall (T : Type) where
  method : Method
  arguments : List Value
  timeout : Option T

/-- What an operation leaves behind besides its result. -/
inductive Event (T : Type) where
  | logged (e : Log.Entry)
  | called (c : DriverCall T)

/-- The result of an operation, the state after it, and the events on the way. -/
structure Outcome (T σ α : Type) where
  result : Except Failure α
  state : σ
  events : List (Event T) := []

def Outcome.withResult {T σ α β : Type} (o : Outcome T σ α) (result : Except Failure β) :
    Outcome T σ β :=
  { result := result, state := o.state, events := o.events }

end Accounts
