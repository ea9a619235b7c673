import Accounts.Proofs.Session.Agreement

/-!
The course of a session: the state that a list of steps leads to, and what holds of every step on
the way. Most steps leave the clock, the contexts and their names as they are.
-/
namespace Accounts.Session

variable {T : Type}

section

variable [Timeline T]

/-- The session after some steps, each with the salt that is drawn for it. -/
def after (s : Session T) : List (Option String × Step T) → Session T
  | [] => s
  | (salt, step) :: steps => after ((s.draw salt).step step).1 steps

/-- The property holds of every step and the clock at which it is taken. -/
def Throughout (P : T → Step T → Prop) (s : Session T) : List (Option String × Step T) → Prop
  | [] => True
  | (salt, step) :: steps => P s.now step ∧ Throughout P ((s.draw salt).step step).1 steps

theorem throughout_append {P : T → Step T → Prop} {s : Session T}
    {before later : List (Option String × Step T)} :
    Throughout P s (before ++ later) ↔
      Throughout P s before ∧ Throughout P (s.after before) later := by
  induction before generalizing s with
  | nil => simp [Throughout, after]
  | cons p steps ih =>
    exact (and_congr_right fun _ => ih).trans and_assoc.symm

end

/-! ## What most steps leave alone -/

/-- The clock, the contexts and their names. -/
def frame (s : Session T) : T × Contexts T × Table Nat := (s.now, s.contexts, s.named)

@[simp] theorem frame_draw (s : Session T) (salt : Option String) :
    (s.draw salt).frame = s.frame := by
  cases salt <;> rfl

@[simp] theorem frame_keep (s : Session T) (name : Option String) (u : User Metadata) :
    (s.keep name u).frame = s.frame := by
  cases name <;> rfl

variable {s : Session T}

theorem frame_withUser {name : String} {f : User Metadata → Session T × Result T}
    (hf : ∀ u, (f u).1.frame = s.frame) : (s.withUser name f).1.frame = s.frame := by
  unfold withUser
  cases s.held.get? name with
  | none => rfl
  | some u => exact hf u

theorem frame_conclude {α : Type} (o : Outcome T Repository α)
    {rest : Session T → α → Session T × Answer T} (hr : ∀ t a, (rest t a).1.frame = t.frame) :
    (s.conclude o rest).1.frame = s.frame := by
  unfold conclude
  cases o.result with
  | error f => rfl
  | ok a => exact hr _ a

theorem frame_concludeDone {α : Type} (o : Outcome T Repository α) :
    (s.concludeDone o).1.frame = s.frame := frame_conclude o fun _ _ => rfl

theorem frame_concludeUser (name : Option String) (o : Outcome T Repository (User Metadata)) :
    (s.concludeUser name o).1.frame = s.frame := frame_conclude o fun t u => frame_keep t name u

theorem frame_assignHeld (name : String) (u : User Metadata) (node : Metadata)
    (path : List Value) : (s.assignHeld name u node path).1.frame = s.frame := by
  unfold assignHeld
  split
  · rfl
  · split
    · split <;> rfl
    · rfl

theorem frame_changeUser (name : String) (u : User Metadata) (c : Change) :
    (s.changeUser name u c).1.frame = s.frame := by
  cases c with
  | part path v =>
    simp only [changeUser]
    split <;> rfl
  | share path source place =>
    refine frame_withUser fun v => ?_
    cases Tree.descend place v.metadata with
    | ok node => exact frame_assignHeld name u node path
    | error e => rfl
  | _ => rfl

theorem frame_seed (document : Value) : (s.seed document).1.frame = s.frame := by
  unfold seed
  split
  · rfl
  · split
    · rfl
    · simp only
      split <;> rfl

variable [Timeline T]

/-- Whatever is asked of the repository or the service. -/
theorem frame_perform (o : Occasion T) (a : Ask) : (s.perform o a).1.frame = s.frame := by
  cases a with
  | save user => exact frame_withUser fun u => frame_concludeDone _
  | updateUser user => exact frame_withUser fun u => frame_concludeDone _
  | updatePassword email password => exact frame_concludeDone _
  | retrieve email result => exact frame_concludeUser _ _
  | race user count => exact frame_withUser fun u => rfl
  | register user result => exact frame_withUser fun u => frame_concludeUser _ _
  | view email result => exact frame_concludeUser _ _
  | serviceUpdateUser user => exact frame_withUser fun u => frame_concludeDone _
  | serviceUpdatePassword email password => exact frame_concludeDone _
  | login email password => exact frame_conclude _ fun _ _ => rfl

/-- A step that has nothing to do with the clock or with contexts. -/
def Step.IsOther : Step T → Prop
  | .advance _ | .create .. | .inquire .. => False
  | _ => True

theorem frame_step {step : Step T} (h : step.IsOther) : (s.step step).1.frame = s.frame := by
  cases step with
  | advance time => exact h.elim
  | create name origin => exact h.elim
  | inquire context inquiry => exact h.elim
  | hold name u => rfl
  | change user c => exact frame_withUser fun u => frame_changeUser user u c
  | look user => exact frame_withUser fun u => rfl
  | equal first second => exact frame_withUser fun u => frame_withUser fun v => rfl
  | validate user =>
    refine frame_withUser fun u => ?_
    cases u.validate <;> rfl
  | ask context a =>
    simp only [Session.step]
    cases s.named.get? context with
    | none => rfl
    | some id => exact frame_perform _ a
  | failWith message => rfl
  | arm m e => rfl
  | seed document => exact frame_seed document
  | dump => rfl

end Accounts.Session
