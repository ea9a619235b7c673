import Accounts.Text.Numeral

/-!
JSON texts as trees. Members of an object keep their order, and a name may occur twice, because the
grammar allows both to show. A number is kept as it is written.
-/
namespace Accounts

/-- A JSON value. A string is a list of code points; the grammar lets a surrogate stand alone. -/
inductive Json where
  | null
  | bool (b : Bool)
  | number (written : List Char)
  | text (codePoints : List Nat)
  | array (items : List Json)
  | object (members : List (List Nat × Json))
  deriving Repr, Inhabited

namespace Json

def str (s : String) : Json := .text (Text.codePoints s)

def int (n : Int) : Json := .number (Text.decimalInt n)

def obj (members : List (String × Json)) : Json :=
  .object (members.map fun m => (Text.codePoints m.1, m.2))

def str? : Json → Option String
  | .text cs => some (String.ofList (cs.map Char.ofNat))
  | _ => none

def bool? : Json → Option Bool
  | .bool b => some b
  | _ => none

def array? : Json → Option (List Json)
  | .array items => some items
  | _ => none

/-- The members of an object, names as strings. -/
def members? : Json → Option (List (String × Json))
  | .object ms => some (ms.map fun m => (String.ofList (m.1.map Char.ofNat), m.2))
  | _ => none

/-- The integer of a number written without fraction and exponent. -/
def int? : Json → Option Int
  | .number ('-' :: digits) =>
    if digits.all Char.isDigit then some (-(Text.ofDecimal digits)) else none
  | .number digits => if digits.all Char.isDigit then some (Text.ofDecimal digits) else none
  | _ => none

/-- The last member of that name. -/
def get? (name : String) : Json → Option Json
  | .object ms => (ms.reverse.find? fun m => m.1 == Text.codePoints name).map (·.2)
  | _ => none

end Json

end Accounts
