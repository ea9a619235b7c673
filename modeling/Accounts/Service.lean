import Accounts.Hash.Hasher
import Accounts.Store.Repository

/-!
The account service: registering, looking up and changing accounts, and logging in. Input is
checked before anything else happens, passwords are hashed before they reach the repository, and
what the repository refuses is handed on as it is.
-/
namespace Accounts.Service

variable {T : Type}

def logger : String := "services.user_service"

/-- A log entry about an address. -/
def entry (message email : String) : Log.Entry :=
  { logger := logger
    level := Log.Level.info
    template := .text message
    extras := [("email", .text email)] }

/-- What each hasher cannot do with something that is no text. -/
def fault (h : Hasher) (password : Value) : Failure :=
  match h with
  | .reversing => .password (.reversal password.typeName)
  | .bcrypt .. => .password (.encoding password.typeName)

/-- The hash of a password, which has to be a text. -/
def hashed (h : Hasher) (password : Value) : Except Failure String :=
  match password.text? with
  | none => .error (fault h password)
  | some s =>
    match h.hash s with
    | .ok digest => .ok digest
    | .error e => .error (.hashing e)

/-- The user that is stored for a new account. Its metadata is a dictionary of its own, whose values
it shares with the user it was made from. -/
def enrolled (h : Hasher) (supply : NodeId) (u : User Metadata) :
    Except Failure (User Metadata × NodeId) :=
  match u.validate with
  | .error e => .error e
  | .ok () =>
    match hashed h u.password with
    | .error e => .error e
    | .ok digest =>
      match u.metadata.freshDict supply with
      | .error e => .error (.metadataType e)
      | .ok (m, next) => .ok ({ email := u.email, password := .text digest, metadata := m }, next)

variable [Timeline T]

/-- Open an account. The answer is the user that was handed to the repository. -/
def register (h : Hasher) (s : Repository) (o : Occasion T) (u : User Metadata) :
    Outcome T Repository (User Metadata) :=
  match enrolled h s.supply u with
  | .error e => { result := .error e, state := s }
  | .ok (stored, next) =>
    let out := { s with supply := next }.run o (.save stored)
    match out.result with
    | .error e => out.withResult (.error e)
    | .ok _ =>
      { result := .ok stored
        state := out.state
        events := out.events ++ [.logged (entry "User registered" u.email)] }

def userOf (email : String) : Reply Metadata → Except Failure (User Metadata)
  | .user u => .ok u
  | .done => .error (.unknown email)

def viewUser (s : Repository) (o : Occasion T) (email : String) :
    Outcome T Repository (User Metadata) :=
  let out := s.run o (.retrieve email)
  out.withResult (out.result.bind (userOf email))

/-- Replace the metadata of an account. -/
def updateUser (s : Repository) (o : Occasion T) (u : User Metadata) :
    Outcome T Repository (Reply Metadata) :=
  if Address.isEmail u.email then s.run o (.updateUser u)
  else { result := .error .invalidAddress, state := s }

def updatePassword (h : Hasher) (s : Repository) (o : Occasion T) (email : String)
    (password : Value) : Outcome T Repository (Reply Metadata) :=
  match User.checkPassword password with
  | .error e => { result := .error e, state := s }
  | .ok () =>
    match hashed h password with
    | .error e => { result := .error e, state := s }
    | .ok digest =>
      let out := s.run o (.updatePassword email (.text digest))
      match out.result with
      | .error _ => out
      | .ok _ => { out with events := out.events ++ [.logged (entry "Password updated" email)] }

/-- What is stored in place of a password can be compared with one, which has to be a text. Only the
transparent hasher compares it with anything but a text, and finds them different. -/
def verified (h : Hasher) (password stored : Value) : Except Failure Bool :=
  match password.text?, stored.text? with
  | none, _ => .error (fault h password)
  | some s, some digest => .ok (h.verify s digest)
  | some _, none =>
    match h with
    | .reversing => .ok false
    | .bcrypt .. => .error (fault h stored)

def login (h : Hasher) (s : Repository) (o : Occasion T) (email : String) (password : Value) :
    Outcome T Repository Bool :=
  let out := viewUser s o email
  out.withResult (out.result.bind fun u => verified h password u.password)

end Accounts.Service
