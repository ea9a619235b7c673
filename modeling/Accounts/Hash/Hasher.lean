import Accounts.Hash.Bcrypt

/-!
Password hashers: bcrypt, and a transparent one that only marks and reverses the password and makes
runs easy to follow.
-/
namespace Accounts

inductive Hasher where
  | reversing
  | bcrypt (rounds : Int) (salt : String)
  deriving DecidableEq, Repr

namespace Hasher

def reversedMark : List Char := ['f', 'a', 'k', 'e', '-', 'h', 'a', 's', 'h', ':']

def reversed (password : String) : String :=
  String.ofList (reversedMark ++ password.toList.reverse)

def hash : Hasher → String → Except Bcrypt.Error String
  | .reversing, password => .ok (reversed password)
  | .bcrypt rounds salt, password => Bcrypt.hash rounds salt password

def verify : Hasher → (password stored : String) → Bool
  | .reversing, password, stored => stored == reversed password
  | .bcrypt .., password, stored => Bcrypt.verify password stored

/-- The hasher with another salt. Each hash is made with a salt of its own. -/
def withSalt (salt : String) : Hasher → Hasher
  | .reversing => .reversing
  | .bcrypt rounds _ => .bcrypt rounds salt

/-- The transparent hasher accepts the password that was hashed and no other. -/
theorem verify_reversed_iff (password other : String) :
    verify .reversing other (reversed password) = true ↔ other = password := by
  constructor
  · intro h
    have heq : reversed password = reversed other := by simpa [verify] using h
    have hl : password.toList.reverse = other.toList.reverse := by
      have ht := String.ofList_inj.mp heq
      exact List.append_cancel_left ht
    have hp := List.reverse_inj.mp hl
    exact (String.toList_inj.mp hp).symm
  · intro h
    subst h
    simp [verify]

def defaultRounds : Int := 12

end Hasher

end Accounts
