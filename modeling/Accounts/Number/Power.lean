/-!
Powers of two and of ten, the two bases in which numbers are held and written.
-/
namespace Accounts

def twoPow (k : Nat) : Nat := Nat.pow 2 k

def tenPow (k : Nat) : Nat := Nat.pow 10 k

end Accounts
