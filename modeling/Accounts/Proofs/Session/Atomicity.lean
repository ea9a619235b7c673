import Accounts.Proofs.Service.Atomicity
import Accounts.Proofs.Session.Course

/-!
Refused steps. Whatever is asked of a session, a refusal leaves the stored users or documents and
the users of the caller exactly as they were before, nodes, fields and times included. At most an
error in store for the driver is used up.
-/
namespace Accounts.Session

variable {T α : Type}

/-- A refusal has changed neither what is stored nor the users that are held. -/
def RefusedIntact (s : Session T) (x : Session T × Result T) : Prop :=
  ∀ r, x.2.answer = .error r →
    x.1.repository.stored = s.repository.stored ∧ x.1.held = s.held

variable {s : Session T}

theorem refusedIntact_refuse (s : Session T) (r : Refusal) : s.RefusedIntact (s.refuse r) :=
  fun _ _ => ⟨rfl, rfl⟩

theorem refusedIntact_answer (s t : Session T) (a : Answer T) : s.RefusedIntact (t.answer a) :=
  fun _ h => by cases h

theorem refusedIntact_conclude {out : Outcome T Repository α} (h : out.IsAtomic s.repository)
    (rest : Session T → α → Session T × Answer T) : s.RefusedIntact (s.conclude out rest) := by
  obtain ⟨result, state, events⟩ := out
  intro r hr
  cases result with
  | error f => exact ⟨h f rfl, rfl⟩
  | ok a => cases hr

theorem refusedIntact_withUser {name : String} {f : User Metadata → Session T × Result T}
    (hf : ∀ u, s.RefusedIntact (f u)) : s.RefusedIntact (s.withUser name f) := by
  unfold withUser
  cases s.held.get? name with
  | none => exact refusedIntact_refuse s _
  | some u => exact hf u

theorem refusedIntact_assignHeld (s : Session T) (name : String) (u : User Metadata)
    (node : Metadata) (path : List Value) : s.RefusedIntact (s.assignHeld name u node path) := by
  unfold assignHeld
  split
  · exact refusedIntact_answer _ _ _
  · split
    · split
      · exact refusedIntact_refuse s _
      · exact refusedIntact_answer _ _ _
    · exact refusedIntact_refuse s _

theorem refusedIntact_changeUser (s : Session T) (name : String) (u : User Metadata) (c : Change) :
    s.RefusedIntact (s.changeUser name u c) := by
  cases c with
  | part path v =>
    simp only [changeUser]
    cases Tree.assigned path (v.build s.repository.supply).1 u.metadata with
    | ok node => exact refusedIntact_answer _ _ _
    | error e => exact fun _ _ => ⟨rfl, rfl⟩
  | share path source place =>
    refine refusedIntact_withUser fun v => ?_
    cases Tree.descend place v.metadata with
    | ok node => exact refusedIntact_assignHeld s name u node path
    | error e => exact refusedIntact_refuse s _
  | _ => exact refusedIntact_answer _ _ _

theorem refusedIntact_seed (s : Session T) (document : Value) :
    s.RefusedIntact (s.seed document) := by
  unfold seed
  split
  · exact refusedIntact_answer _ _ _
  · split
    · exact refusedIntact_refuse s _
    · simp only
      split
      · exact refusedIntact_refuse s _
      · exact refusedIntact_answer _ _ _

variable [Timeline T]

theorem refusedIntact_create (s : Session T) (name : String) (origin : Origin T) :
    s.RefusedIntact (s.create name origin) := by
  cases origin with
  | background => exact refusedIntact_answer _ _ _
  | timeout seconds parent =>
    simp only [create]
    cases s.parent parent with
    | error r => exact refusedIntact_refuse s r
    | ok p =>
      simp only
      cases Timeline.add? s.now seconds with
      | some d => exact refusedIntact_answer _ _ _
      | none => exact refusedIntact_refuse s _
  | deadline d parent =>
    simp only [create]
    cases s.parent parent with
    | error r => exact refusedIntact_refuse s r
    | ok p => exact refusedIntact_answer _ _ _

theorem refusedIntact_inquire (s : Session T) (id : Nat) (inquiry : Inquiry) :
    s.RefusedIntact (s.inquire id inquiry) := by
  have hmoment : ∀ m, s.RefusedIntact (s.answerMoment m) := by
    intro m
    cases m with
    | ok t => exact refusedIntact_answer _ _ _
    | error e => exact refusedIntact_refuse s _
  cases inquiry with
  | remaining => exact hmoment _
  | check => exact hmoment _
  | _ => exact refusedIntact_answer _ _ _

/-- Every operation of the repository and of the service fails before it writes. -/
theorem refusedIntact_perform (s : Session T) (o : Occasion T) (a : Ask) :
    s.RefusedIntact (s.perform o a) := by
  cases a with
  | save user =>
    exact refusedIntact_withUser fun u => refusedIntact_conclude (Repository.isAtomic_run _ _ _) _
  | updateUser user =>
    exact refusedIntact_withUser fun u => refusedIntact_conclude (Repository.isAtomic_run _ _ _) _
  | updatePassword email password =>
    exact refusedIntact_conclude (Repository.isAtomic_run _ _ _) _
  | retrieve email result => exact refusedIntact_conclude (Service.isAtomic_viewUser email) _
  | race user count => exact refusedIntact_withUser fun u _ h => by cases h
  | register user result =>
    exact refusedIntact_withUser fun u => refusedIntact_conclude (Service.isAtomic_register _ u) _
  | view email result => exact refusedIntact_conclude (Service.isAtomic_viewUser email) _
  | serviceUpdateUser user =>
    exact refusedIntact_withUser fun u => refusedIntact_conclude (Service.isAtomic_updateUser u) _
  | serviceUpdatePassword email password =>
    exact refusedIntact_conclude (Service.isAtomic_updatePassword _ email password) _
  | login email password =>
    exact refusedIntact_conclude (Service.isAtomic_login _ email password) _

/-- Whatever the state of a session and the step, a step that is refused leaves what is stored and
the users that are held exactly as they were. -/
theorem step_refused_intact (s : Session T) (step : Step T) {r : Refusal}
    (h : (s.step step).2.answer = .error r) :
    (s.step step).1.repository.stored = s.repository.stored ∧ (s.step step).1.held = s.held := by
  have hintact : s.RefusedIntact (s.step step) := by
    cases step with
    | advance time =>
      simp only [Session.step]
      cases Timeline.add? s.now time with
      | some now => exact refusedIntact_answer _ _ _
      | none => exact refusedIntact_refuse s _
    | create name origin => exact refusedIntact_create s name origin
    | inquire context inquiry =>
      simp only [Session.step]
      cases s.named.get? context with
      | some id => exact refusedIntact_inquire s id inquiry
      | none => exact refusedIntact_refuse s _
    | change user c => exact refusedIntact_withUser fun u => refusedIntact_changeUser s user u c
    | look user => exact refusedIntact_withUser fun u => refusedIntact_answer _ _ _
    | equal first second =>
      exact refusedIntact_withUser fun u =>
        refusedIntact_withUser fun v => refusedIntact_answer _ _ _
    | validate user =>
      refine refusedIntact_withUser fun u => ?_
      cases u.validate with
      | ok _ => exact refusedIntact_answer _ _ _
      | error f => exact refusedIntact_refuse s _
    | ask context a =>
      simp only [Session.step]
      cases s.named.get? context with
      | some id => exact refusedIntact_perform s (s.occasion id) a
      | none => exact refusedIntact_refuse s _
    | seed document => exact refusedIntact_seed s document
    | _ => exact refusedIntact_answer _ _ _
  exact hintact r h

/-- An account is opened, and its new metadata hold a number of 65 bits three levels down. -/
def overflowing : List (Option String × Step Moment) :=
  [(none, .hold "u" { email := "a@b.c", password := .text "password", metadata := .empty }),
    (none, .ask "bg" (.save "u")),
    (none, .advance (.whole 60)),
    (none, .change "u" (.metadata (Value.record [("plan", .list ()
      [Value.record [("size", .atom () (.int 18446744073709551616))]])]))),
    (none, .arm .update ⟨.other "AutoReconnect", "lost", none⟩)]

theorem step_refused_intact_overflowing :
    let s : Session Moment := (start (.whole 0) (.archive {}) .reversing).after overflowing
    (s.step (.ask "bg" (.updateUser "u"))).2.answer =
        .error (.failure (.storage .updateUser
          (.encoding .integerSize EncodingFault.integerSize.message))) ∧
      (s.step (.ask "bg" (.updateUser "u"))).1.repository.stored =
        .inr [("a@b.c", [("_id", .text "a@b.c"), ("password", .text "password"),
          ("metadata", .empty), ("created_at", .instant 1704067200),
          ("updated_at", .instant 1704067200)])] ∧
      (s.step (.ask "bg" (.updateUser "u"))).1.held = s.held := by
  intro s
  have h : (s.step (.ask "bg" (.updateUser "u"))).2.answer =
      .error (.failure (.storage .updateUser
        (.encoding .integerSize EncodingFault.integerSize.message))) := by rfl
  obtain ⟨hstored, hheld⟩ := step_refused_intact s (.ask "bg" (.updateUser "u")) h
  refine ⟨h, hstored.trans ?_, hheld⟩
  rfl

end Accounts.Session
