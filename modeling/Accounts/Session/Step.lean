import Accounts.Service

/-!
Steps of a session and what comes of them. Contexts and users go by names. Every step is answered
with a value or refused, and leaves behind log entries and calls of the database driver.
-/
namespace Accounts.Session

inductive Origin (T : Type) where
  | background
  | timeout (seconds : T) (parent : Option String)
  | deadline (moment : Option T) (parent : Option String)

inductive Inquiry where
  | cancel | isCancelled | deadline | remaining | check
  deriving DecidableEq, Repr

inductive Change where
  | email (e : String)
  | password (v : Value)
  | metadata (v : Value)
  /-- An assignment inside the metadata. -/
  | part (path : List Value) (v : Value)
  /-- An assignment of what is found at a place inside the metadata of a user that is held. Both
  users share it then. -/
  | share (path : List Value) (source : String) (place : List Value)

/-- What is asked of the repository or the service. The user of an answer can be given a name. -/
inductive Ask where
  | save (user : String)
  | updateUser (user : String)
  | updatePassword (email : String) (password : Value)
  | retrieve (email : String) (result : Option String)
  /-- Several clients save the same user at once. -/
  | race (user : String) (count : Nat)
  | register (user : String) (result : Option String)
  | view (email : String) (result : Option String)
  | serviceUpdateUser (user : String)
  | serviceUpdatePassword (email : String) (password : Value)
  | login (email : String) (password : Value)

inductive Step (T : Type) where
  | advance (time : T)
  | create (name : String) (origin : Origin T)
  | inquire (context : String) (inquiry : Inquiry)
  | hold (name : String) (user : User Value)
  | change (user : String) (change : Change)
  | look (user : String)
  | equal (first second : String)
  | validate (user : String)
  | ask (context : String) (ask : Ask)
  /-- The failure that a directory is to show. -/
  | failWith (message : Option String)
  /-- The error that the driver of an archive is to report next. -/
  | arm (method : Method) (error : StorageError)
  /-- Put a document into an archive, under the address it holds. -/
  | seed (document : Value)
  | dump

inductive Answer (T : Type) where
  | done
  | moment (t : Option T)
  | truth (b : Bool)
  | user (u : User Value)
  | users (us : List (User Value))
  | documents (ds : List Document)
  | names (ns : List String)

inductive Refusal where
  | failure (f : Failure)
  /-- There is no context, user or field of that name. -/
  | unnamed (name : String)
  /-- A document cannot be encoded. -/
  | document (fault : EncodingFault) (message : String)
  /-- A list or dictionary would be inside itself, and the metadata no tree any more. -/
  | circular
  deriving DecidableEq, Repr

namespace Refusal

def name : Refusal → String
  | .failure f => f.name
  | .unnamed _ => "KeyError"
  | .document f _ => f.name
  | .circular => "ValueError"

def message : Refusal → String
  | .failure f => f.message
  | .unnamed n => Text.quote n
  | .document _ m => m
  | .circular => "circular reference"

def kind? : Refusal → Option Kind
  | .failure f => f.kind?
  | _ => none

def cause? : Refusal → Option Cause
  | .failure f => f.cause?
  | _ => none

end Refusal

structure Result (T : Type) where
  answer : Except Refusal (Answer T)
  events : List (Event T) := []

namespace Result

variable {T : Type}

def calls (r : Result T) : List (DriverCall T) :=
  r.events.filterMap fun
    | .called c => some c
    | .logged _ => none

def entries (r : Result T) : List Log.Entry :=
  r.events.filterMap fun
    | .called _ => none
    | .logged e => some e

end Result

end Accounts.Session
