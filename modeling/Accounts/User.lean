import Accounts.Address
import Accounts.Failure

/-!
Users. A user is known by an address and has a password and metadata. What is kept in a store may
hold anything in place of the password.
-/
namespace Accounts

/-- A user with metadata of type `M`. -/
structure User (M : Type) where
  email : String
  password : Value
  metadata : M
  deriving Repr

namespace User

variable {M N : Type}

def withMetadata (u : User M) (m : N) : User N :=
  { email := u.email, password := u.password, metadata := m }

/-- The user without the identities of its metadata. -/
def erase (u : User Metadata) : User Value := u.withMetadata u.metadata.erase

/-- The user with metadata of its own. -/
def copy (supply : NodeId) (u : User Metadata) : User Metadata × NodeId :=
  let r := u.metadata.copy supply
  (u.withMetadata r.1, r.2)

/-- The user with metadata made of fresh nodes. -/
def build (supply : NodeId) (u : User Value) : User Metadata × NodeId :=
  let r := u.metadata.build supply
  (u.withMetadata r.1, r.2)

def same (u v : User Metadata) : Bool :=
  u.email == v.email && u.password.same (fun _ _ => false) v.password &&
    u.metadata.same (· == ·) v.metadata

/-- How long a password is: characters of a text, parts of anything else that has some. -/
def lengthOf? : Value → Option Nat
  | .atom _ (.text s) => some s.length
  | .atom .. => none
  | .list _ items => some items.length
  | .dict _ entries => some entries.length

def checkPassword (password : Value) : Except Failure Unit :=
  match lengthOf? password with
  | some n => if n < leastPasswordLength then .error .shortPassword else .ok ()
  | none => .error (.password (.length password.typeName))

/-- The address is well-formed and the password long enough; the address is looked at first. -/
def validate (u : User M) : Except Failure Unit :=
  if Address.isEmail u.email then checkPassword u.password else .error .invalidAddress

@[simp] theorem email_withMetadata (u : User M) (m : N) : (u.withMetadata m).email = u.email := rfl
@[simp] theorem password_withMetadata (u : User M) (m : N) :
    (u.withMetadata m).password = u.password := rfl
@[simp] theorem email_erase (u : User Metadata) : u.erase.email = u.email := rfl
@[simp] theorem email_copy (supply : NodeId) (u : User Metadata) :
    (u.copy supply).1.email = u.email := rfl

/-- A copy is the same user. -/
@[simp] theorem erase_copy (supply : NodeId) (u : User Metadata) :
    (u.copy supply).1.erase = u.erase := by
  simp [copy, erase, withMetadata]

@[simp] theorem metadata_withMetadata (u : User M) (m : N) : (u.withMetadata m).metadata = m := rfl

end User

end Accounts
