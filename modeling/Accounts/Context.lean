import Accounts.Time.Moment

/-!
Contexts of operations. A context may have a parent, a deadline, and can be cancelled; it counts as
cancelled when any of its ancestors is, and takes over its parent's deadline when that comes
first. Contexts are kept in the order of their creation and named by their place in it, so that a
parent always stands before its children.
-/
namespace Accounts

/-- One context. The deadline is the effective one. -/
structure Context (T : Type) where
  parent : Option Nat := none
  deadline : Option T := none
  cancelled : Bool := false

/-- All contexts, the youngest first. -/
abbrev Contexts (T : Type) := List (Context T)

/-- Why a context allows no more work. -/
inductive ContextError where
  | cancelled
  | expired
  /-- The time left cannot be expressed. -/
  | overflow
  deriving DecidableEq, Repr

namespace Contexts

variable {T : Type}

def get? : Contexts T → Nat → Option (Context T)
  | [], _ => none
  | c :: older, id => if id = older.length then some c else get? older id

/-- Cancelled itself, or through an ancestor. -/
def isCancelled : Contexts T → Nat → Bool
  | [], _ => false
  | c :: older, id =>
    if id = older.length then
      c.cancelled ||
        match c.parent with
        | some p => isCancelled older p
        | none => false
    else isCancelled older id

def deadline? (cs : Contexts T) (id : Nat) : Option T := (cs.get? id).bind Context.deadline

def cancel (id : Nat) : Contexts T → Contexts T
  | [] => []
  | c :: older =>
    if id = older.length then { c with cancelled := true } :: older else c :: cancel id older

/-! ## Cancelling -/

@[simp] theorem length_cancel (id : Nat) (cs : Contexts T) : (cs.cancel id).length = cs.length := by
  induction cs with
  | nil => rfl
  | cons c older ih =>
    by_cases h : id = older.length
    · simp [cancel, h]
    · simp [cancel, h, ih]

/-- Cancelling changes no deadline. -/
@[simp] theorem deadline?_cancel (id other : Nat) (cs : Contexts T) :
    (cs.cancel id).deadline? other = cs.deadline? other := by
  induction cs with
  | nil => rfl
  | cons c older ih =>
    simp only [deadline?] at ih ⊢
    by_cases h : id = older.length
    · by_cases ho : other = older.length
      · simp [cancel, get?, h, ho]
      · simp [cancel, get?, h, ho]
    · by_cases ho : other = older.length
      · simp [cancel, get?, h, ho]
      · simp only [cancel, get?, h, ho, if_false, length_cancel]
        exact ih

/-- There is no context with the number of the next one. -/
theorem get?_of_length_le {cs : Contexts T} {id : Nat} (h : cs.length ≤ id) :
    cs.get? id = none := by
  induction cs with
  | nil => rfl
  | cons c older ih =>
    have hl : older.length + 1 ≤ id := by simpa using h
    rw [get?, if_neg (by omega)]
    exact ih (by omega)

/-! ## Deadlines -/

variable [Timeline T]

/-- The second moment if it comes before the first. -/
def earlier (a b : T) : T := if Timeline.lt b a then b else a

def inherit (requested inherited : Option T) : Option T :=
  match requested, inherited with
  | some d, some e => some (earlier d e)
  | some d, none => some d
  | none, e => e

/-- A new context; its number is the number of contexts before. -/
def create (cs : Contexts T) (requested : Option T) (parent : Option Nat) : Contexts T :=
  { parent := parent, deadline := inherit requested (parent.bind cs.deadline?) } :: cs

@[simp] theorem length_create (cs : Contexts T) (requested : Option T) (parent : Option Nat) :
    (cs.create requested parent).length = cs.length + 1 := rfl

/-- The deadline of a new context. -/
@[simp] theorem deadline?_create_length (cs : Contexts T) (requested : Option T)
    (parent : Option Nat) :
    (cs.create requested parent).deadline? cs.length =
      inherit requested (parent.bind cs.deadline?) := by
  simp [create, deadline?, get?]

/-- A new context leaves the deadlines of the others as they are. -/
theorem deadline?_create_of_lt {cs : Contexts T} {id : Nat} (h : id < cs.length)
    (requested : Option T) (parent : Option Nat) :
    (cs.create requested parent).deadline? id = cs.deadline? id := by
  have hne : id ≠ cs.length := by omega
  simp [create, deadline?, get?, hne]

/-- The time left until the deadline, never less than zero. -/
def remaining (cs : Contexts T) (now : T) (id : Nat) : Except ContextError (Option T) :=
  match cs.deadline? id with
  | none => .ok none
  | some d =>
    match Timeline.sub? d now with
    | none => .error .overflow
    | some r => .ok (some (if Timeline.lt r (Timeline.zero : T) then Timeline.zero else r))

/-- The time left, if the context still allows work. -/
def check (cs : Contexts T) (now : T) (id : Nat) : Except ContextError (Option T) :=
  if cs.isCancelled id then .error .cancelled
  else
    match cs.remaining now id with
    | .error e => .error e
    | .ok none => .ok none
    | .ok (some r) => if Timeline.le r (Timeline.zero : T) then .error .expired else .ok (some r)

end Contexts

end Accounts
