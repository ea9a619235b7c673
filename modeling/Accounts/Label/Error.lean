/-!
Why a label cannot be encoded.
-/
namespace Accounts

inductive LabelError where
  /-- A code point that no label may contain. -/
  | disallowed
  /-- A code point that is only allowed next to certain others, which are missing. -/
  | context
  /-- Directions of writing mixed against the rules. -/
  | direction
  /-- Any other fault: empty, too long, not normalised, misplaced hyphens, a broken encoding. -/
  | malformed
  deriving DecidableEq, Repr

end Accounts
