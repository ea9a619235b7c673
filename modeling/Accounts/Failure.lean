import Accounts.Context
import Accounts.Hash.Bcrypt
import Accounts.Metadata.Assignment
import Accounts.Metadata.Copy
import Accounts.Metadata.Encodable

/-!
How operations fail. A failure is a cause; its class, kind and wording follow from it. The failures
that callers are meant to branch on form a family with four kinds, the others are faults of the
call or of the machine and belong to no kind.
-/
namespace Accounts

/-! ## The family -/

/-- What a caller can branch on. -/
inductive Kind where
  | malformedEntity | notFound | conflict | internal
  deriving DecidableEq, Repr

namespace Kind

def all : List Kind := [.malformedEntity, .notFound, .conflict, .internal]

def name : Kind → String
  | .malformedEntity => "MALFORMED_ENTITY"
  | .notFound => "NOT_FOUND"
  | .conflict => "CONFLICT"
  | .internal => "INTERNAL"

def value : Kind → String
  | .malformedEntity => "malformed_entity"
  | .notFound => "not_found"
  | .conflict => "conflict"
  | .internal => "internal"

def ofValue? (s : String) : Option Kind := all.find? fun k => k.value == s

/-- A text that is no kind's value. -/
structure Unknown where
  value : String
  deriving DecidableEq, Repr

def Unknown.message (u : Unknown) : String := Text.quote u.value ++ " is not a valid ErrorKind"

/-- The kind with that value, which has to be one. -/
def find (s : String) : Except Unknown Kind :=
  match ofValue? s with
  | some k => .ok k
  | none => .error ⟨s⟩

@[simp] theorem ofValue?_value (k : Kind) : ofValue? k.value = some k := by cases k <;> decide

end Kind

/-- The classes of the family, from the general to the special. -/
inductive FailureClass where
  | domain | malformedEntity | notFound | conflict | internal | cancelled | deadlineExceeded
  deriving DecidableEq, Repr

namespace FailureClass

def all : List FailureClass :=
  [.domain, .malformedEntity, .notFound, .conflict, .internal, .cancelled, .deadlineExceeded]

def name : FailureClass → String
  | .domain => "DomainError"
  | .malformedEntity => "MalformedEntityError"
  | .notFound => "NotFoundError"
  | .conflict => "ConflictError"
  | .internal => "InternalError"
  | .cancelled => "OperationCancelledError"
  | .deadlineExceeded => "DeadlineExceededError"

/-- The name with the place where the family is defined. -/
def qualifiedName (c : FailureClass) : String := "domain.model.errors." ++ c.name

def ofName? (s : String) : Option FailureClass := all.find? fun c => c.name == s

def kind : FailureClass → Kind
  | .malformedEntity => .malformedEntity
  | .notFound => .notFound
  | .conflict => .conflict
  | _ => .internal

/-- The class and everything it is a special case of, most special first. -/
def lineage : FailureClass → List FailureClass
  | .domain => [.domain]
  | .malformedEntity => [.malformedEntity, .domain]
  | .notFound => [.notFound, .domain]
  | .conflict => [.conflict, .domain]
  | .internal => [.internal, .domain]
  | .cancelled => [.cancelled, .internal, .domain]
  | .deadlineExceeded => [.deadlineExceeded, .cancelled, .internal, .domain]

end FailureClass

/-! ## Errors of the document database -/

/-- Errors of the database, as far as the difference matters. -/
inductive StorageClass where
  /-- The key is taken. -/
  | duplicateKey
  /-- The document is too large to be encoded. -/
  | tooLarge
  /-- A time limit was hit. -/
  | timeout (name : String)
  /-- The server refused a command; code 50 stands for a time limit. -/
  | command (name : String)
  /-- Anything else. -/
  | other (name : String)
  deriving DecidableEq, Repr

namespace StorageClass

def timeoutNames : List String :=
  ["NetworkTimeout", "ServerSelectionTimeoutError", "WaitQueueTimeoutError", "ExecutionTimeout",
    "WTimeoutError"]

def commandNames : List String :=
  ["OperationFailure", "CursorNotFound", "WriteConcernError", "WriteError"]

def ofName (s : String) : StorageClass :=
  if s = "DuplicateKeyError" then .duplicateKey
  else if s = "DocumentTooLarge" then .tooLarge
  else if timeoutNames.contains s then .timeout s
  else if commandNames.contains s then .command s
  else .other s

def name : StorageClass → String
  | .duplicateKey => "DuplicateKeyError"
  | .tooLarge => "DocumentTooLarge"
  | .timeout s | .command s | .other s => s

end StorageClass

/-- An error that the database reports. -/
structure StorageError where
  kind : StorageClass
  message : String
  code : Option Int := none
  deriving DecidableEq, Repr

namespace StorageError

def timeoutCode : Int := 50

/-- The error says that a time limit was hit. -/
def isTimeout (e : StorageError) : Bool :=
  match e.kind with
  | .timeout _ => true
  | .command _ | .duplicateKey => e.code == some timeoutCode
  | .tooLarge | .other _ => false

def takenKey : StorageError := { kind := .duplicateKey, message := "E11000 duplicate key error" }

end StorageError

/-- What lies behind a failure of the document store. -/
inductive Cause where
  /-- What the encoder says is its own affair. -/
  | encoding (fault : EncodingFault) (message : String)
  /-- A number or a date is too large. -/
  | overflow (message : String)
  | storage (error : StorageError)
  deriving DecidableEq, Repr

namespace Cause

def name : Cause → String
  | .encoding f _ => f.name
  | .overflow _ => "OverflowError"
  | .storage e => e.kind.name

def message : Cause → String
  | .encoding _ m | .overflow m => m
  | .storage e => e.message

end Cause

/-! ## Failures -/

inductive Action where
  | save | updateUser | updatePassword | retrieve
  deriving DecidableEq, Repr

def Action.failed : Action → String
  | .save => "Failed to save user"
  | .updateUser => "Failed to update user"
  | .updatePassword => "Failed to update password"
  | .retrieve => "Failed to retrieve user"

/-- What cannot be done with something that stands for a password and is no text. -/
inductive PasswordFault where
  /-- It has no length. -/
  | length (type : String)
  /-- It has no bytes. -/
  | encoding (type : String)
  /-- It cannot be written backwards behind a mark. -/
  | reversal (type : String)
  deriving DecidableEq, Repr

namespace PasswordFault

def name : PasswordFault → String
  | .encoding _ => "AttributeError"
  | _ => "TypeError"

def message : PasswordFault → String
  | .length t => "object of type '" ++ t ++ "' has no len()"
  | .encoding t => "'" ++ t ++ "' object has no attribute 'encode'"
  | .reversal t =>
    if t = "list" then "can only concatenate str (not \"list\") to str"
    else if t = "dict" then "unhashable type: 'slice'"
    else "'" ++ t ++ "' object is not subscriptable"

end PasswordFault

inductive Failure where
  | invalidAddress
  | shortPassword
  | taken (email : String) (cause : Option Cause)
  | unknown (email : String)
  | context (error : ContextError)
  /-- The store has been told to fail. -/
  | offline (message : String)
  | storage (action : Action) (cause : Cause)
  | timedOut (action : Action) (cause : Cause)
  /-- An error of the database that is handed on as it is. -/
  | driver (error : StorageError)
  | hashing (error : Bcrypt.Error)
  | password (fault : PasswordFault)
  | metadataType (error : Tree.DictError)
  | path (error : Tree.PathError)
  /-- A moment that lies in no calendar year. -/
  | date
  /-- A number that is too large for the clock. -/
  | clockRange
  deriving DecidableEq, Repr

def leastPasswordLength : Nat := 8

namespace Bcrypt.Error

def name : Bcrypt.Error → String
  | .roundsSize | .roundsWord => "OverflowError"
  | _ => "ValueError"

def message : Bcrypt.Error → String
  | .invalidRounds => "Invalid rounds"
  | .roundsSize => "out of range integral type conversion attempted"
  | .roundsWord => "Python int too large to convert to C long"
  | .invalidSalt => "Invalid salt"
  | .longPassword =>
    "password cannot be longer than 72 bytes, " ++
      "truncate manually if necessary (e.g. my_password[:72])"

end Bcrypt.Error

namespace Tree.DictError

def name : DictError → String
  | .length .. => "ValueError"
  | _ => "TypeError"

def message : DictError → String
  | .notIterable t => "'" ++ t ++ "' object is not iterable"
  | .notPair i =>
    "cannot convert dictionary update sequence element #" ++ toString i ++ " to a sequence"
  | .length i n =>
    "dictionary update sequence element #" ++ toString i ++ " has length " ++ toString n ++
      "; 2 is required"
  | .unhashable t => "unhashable type: '" ++ t ++ "'"

end Tree.DictError

namespace Tree.PathError

def name : PathError → String
  | .missingKey _ => "KeyError"
  | .outOfRange .. | .indexSize | .emptyPath => "IndexError"
  | _ => "TypeError"

def message : PathError → String
  | .missingKey key => String.ofList (key.shown .printable)
  | .outOfRange container assigning =>
    container ++ (if assigning then " assignment" else "") ++ " index out of range"
  | .indexSize => "cannot fit 'int' into an index-sized integer"
  | .keyType t => "unhashable type: '" ++ t ++ "'"
  | .indexType container t =>
    if container = "list" then "list indices must be integers or slices, not " ++ t
    else container ++ " indices must be integers, not '" ++ t ++ "'"
  | .notSubscriptable t => "'" ++ t ++ "' object is not subscriptable"
  | .notAssignable t => "'" ++ t ++ "' object does not support item assignment"
  | .emptyPath => "list index out of range"

end Tree.PathError

namespace Failure

def overflowMessage : String := "int too large to convert to float"

/-- The class of a failure that belongs to the family. -/
def family? : Failure → Option FailureClass
  | .invalidAddress | .shortPassword => some .malformedEntity
  | .taken .. => some .conflict
  | .unknown _ => some .notFound
  | .context .cancelled => some .cancelled
  | .context .expired => some .deadlineExceeded
  | .offline _ | .storage .. => some .internal
  | .timedOut .. => some .deadlineExceeded
  | _ => none

def kind? (f : Failure) : Option Kind := f.family?.map FailureClass.kind

/-- The name of the class. -/
def name (f : Failure) : String :=
  match f.family? with
  | some c => c.name
  | none =>
    match f with
    | .driver e => e.kind.name
    | .hashing e => e.name
    | .password e => e.name
    | .metadataType e => e.name
    | .path e => e.name
    | _ => "OverflowError"

def message : Failure → String
  | .invalidAddress => "Invalid email address"
  | .shortPassword =>
    "Password must be at least " ++ toString leastPasswordLength ++ " characters"
  | .taken email _ => "User " ++ email ++ " already exists"
  | .unknown email => "User " ++ email ++ " not found"
  | .context .cancelled => "Operation cancelled"
  | .context .expired => "Operation deadline exceeded"
  | .context .overflow => overflowMessage
  | .offline message => message
  | .storage action _ | .timedOut action _ => action.failed
  | .driver e => e.message
  | .hashing e => e.message
  | .password e => e.message
  | .metadataType e => e.message
  | .path e => e.message
  | .date => "date value out of range"
  | .clockRange => overflowMessage

/-- What the failure was raised from. -/
def cause? : Failure → Option Cause
  | .taken _ c => c
  | .storage _ c | .timedOut _ c => some c
  | _ => none

/-- The wording, if the time left or the date is too large to be expressed. -/
def overflow? (f : Failure) : Option String :=
  match f with
  | .context .overflow | .date => some f.message
  | _ => none

end Failure

end Accounts
