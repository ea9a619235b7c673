import Accounts.Connection

/-!
The course of a connection. A command that asks for a client can go in a few ways, which are listed
once. From them it follows which managers commands can lead to, and that a manager that has given
up stays idle until it is reset.
-/
namespace Accounts.Connection

/-! ## What is asked and answered -/

/-- The address to connect to, which must not be empty. -/
def Settings.address? (s : Settings) : Option String := s.url.filter (!·.isEmpty)

/-- A command that asks for a client or its database. -/
def Command.Asks (c : Command) : Prop := c ≠ .reset

instance (c : Command) : Decidable c.Asks := inferInstanceAs (Decidable (_ ≠ _))

def Answer.client? : Answer → Option ClientId
  | .nothing => none
  | .client id | .database id _ => some id

/-- The client that is given out, by itself or with its database. -/
def Outcome.client? (out : Outcome) : Option ClientId :=
  match out.answer with
  | .ok a => a.client?
  | .error _ => none

/-- The driver has not been asked for anything, and nothing is given out. -/
structure Outcome.IsIdle (out : Outcome) : Prop where
  answer : out.answer = .ok .nothing
  calls : out.calls = []

theorem Outcome.client?_of_nothing {out : Outcome} (h : out.answer = .ok .nothing) :
    out.client? = none := by
  rw [client?, h]
  rfl

/-! ## The ways of a command -/

/-- What connecting anew comes to. -/
inductive Attempt (s : Settings) (m : Manager) (script : Script) : Outcome → Prop
  | spared (given : m.failed = true) : Attempt s m script { answer := .ok .nothing, manager := m }
  | unconfigured (trying : m.failed = false) (missing : s.address? = none) :
      Attempt s m script (giveUp m [] [unconfiguredEntry])
  | unbuilt {url : String} {e : StorageError} (trying : m.failed = false)
      (found : s.address? = some url) (broken : next script.constructs = some e) :
      Attempt s m script (refused m e [.construct url])
  | silent {url : String} {e : StorageError} (trying : m.failed = false)
      (found : s.address? = some url) (built : next script.constructs = none)
      (broken : next script.pings = some e) :
      Attempt s m script
        (refused { m with created := m.created + 1 } e [.construct url, .ping m.created])
  | connected {url : String} (trying : m.failed = false) (found : s.address? = some url)
      (built : next script.constructs = none) (alive : next script.pings = none) :
      Attempt s m script
        { answer := .ok (.client m.created)
          manager := { m with cached := some m.created, created := m.created + 1 }
          calls := [.construct url, .ping m.created]
          entries := [connectedEntry s] }

theorem attempt_reconnect (s : Settings) (m : Manager) (script : Script) :
    Attempt s m script (reconnect s m script) := by
  unfold reconnect
  cases hf : m.failed with
  | true => exact .spared hf
  | false =>
    simp only [Bool.false_eq_true, if_false]
    cases hu : s.url.filter (!·.isEmpty) with
    | none => exact .unconfigured hf hu
    | some url =>
      simp only [connect]
      cases hc : next script.constructs with
      | some e => exact .unbuilt hf hu hc
      | none =>
        simp only
        cases hp : next script.pings with
        | some e => exact .silent hf hu hc hp
        | none => exact .connected hf hu hc hp

/-- What asking for a client comes to. -/
inductive Turn (s : Settings) (m : Manager) (script : Script) : Outcome → Prop
  | fresh {out : Outcome} (empty : m.cached = none) (attempt : Attempt s m script out) :
      Turn s m script out
  | alive {id : ClientId} (kept : m.cached = some id) (alive : next script.pings = none) :
      Turn s m script { answer := .ok (.client id), manager := m, calls := [.ping id] }
  | lost {id : ClientId} {e : StorageError} {out : Outcome} (kept : m.cached = some id)
      (broken : next script.pings = some e) (known : expected e = true)
      (attempt : Attempt s { m with cached := none }
        { script with pings := script.pings.tail } out) :
      Turn s m script
        { out with calls := .ping id :: out.calls, entries := lostEntry :: out.entries }
  | broken {id : ClientId} {e : StorageError} (kept : m.cached = some id)
      (broken : next script.pings = some e) (unknown : expected e = false) :
      Turn s m script { answer := .error e, manager := m, calls := [.ping id] }

theorem turn_client (s : Settings) (m : Manager) (script : Script) :
    Turn s m script (client s m script) := by
  unfold client
  cases hc : m.cached with
  | none => exact .fresh hc (attempt_reconnect s m script)
  | some id =>
    simp only
    cases hp : next script.pings with
    | none => exact .alive hc hp
    | some e =>
      simp only
      cases he : expected e with
      | true => exact .lost hc hp he (attempt_reconnect _ _ _)
      | false => exact .broken hc hp he

/-- The database goes the way of its client, unless the driver refuses its name. -/
structure Accompanies (out origin : Outcome) : Prop where
  manager : out.manager = origin.manager
  calls : out.calls = origin.calls
  nothing_iff : out.answer = .ok .nothing ↔ origin.answer = .ok .nothing
  client : ∀ id, out.client? = some id → origin.client? = some id

theorem step_accompanies {c : Command} (h : c.Asks) (s : Settings) (m : Manager) (script : Script) :
    Accompanies (step s m script c) (client s m script) := by
  cases c with
  | client => exact ⟨rfl, rfl, Iff.rfl, fun _ => id⟩
  | reset => exact absurd rfl h
  | database =>
    refine ⟨rfl, rfl, ?_, ?_⟩ <;> simp only [step, Outcome.client?] <;>
      rcases (client s m script).answer with e | (_ | _ | _) <;> cases hr : s.refusal <;>
      simp [Except.bind, Answer.toDatabase, Answer.client?, hr]

/-! ## Managers that commands lead to -/

/-- What every manager keeps to. A client is only kept by one that has not given up and has an
address, and it is the latest client. -/
structure Manager.IsSound (s : Settings) (m : Manager) : Prop where
  exclusive : m.cached = none ∨ m.failed = false
  latest : ∀ id, m.cached = some id → id + 1 = m.created
  configured : ∀ id, m.cached = some id → s.address? ≠ none

theorem isSound_of_empty {s : Settings} {m : Manager} (h : m.cached = none) : m.IsSound s where
  exclusive := .inl h
  latest := by simp [h]
  configured := by simp [h]

/-- An unknown error is handed on, any other makes the manager give up. -/
theorem refused_cases (m : Manager) (e : StorageError) (calls : List Call) :
    (expected e = true ∧ refused m e calls = giveUp m calls [failedEntry e]) ∨
      (expected e = false ∧
        refused m e calls = { answer := .error e, manager := m, calls := calls }) := by
  unfold refused
  cases expected e with
  | true => exact .inl ⟨rfl, rfl⟩
  | false => exact .inr ⟨rfl, rfl⟩

@[simp] theorem calls_refused (m : Manager) (e : StorageError) (calls : List Call) :
    (refused m e calls).calls = calls := by
  rcases refused_cases m e calls with ⟨-, h⟩ | ⟨-, h⟩ <;> rw [h]
  rfl

@[simp] theorem cached_refused (m : Manager) (e : StorageError) (calls : List Call) :
    (refused m e calls).manager.cached = m.cached := by
  rcases refused_cases m e calls with ⟨-, h⟩ | ⟨-, h⟩ <;> rw [h]
  rfl

@[simp] theorem created_refused (m : Manager) (e : StorageError) (calls : List Call) :
    (refused m e calls).manager.created = m.created := by
  rcases refused_cases m e calls with ⟨-, h⟩ | ⟨-, h⟩ <;> rw [h]
  rfl

/-- A manager that was still trying has given up exactly when nothing is given out. -/
theorem failed_refused_iff {m : Manager} (trying : m.failed = false) (e : StorageError)
    (calls : List Call) :
    (refused m e calls).manager.failed = true ↔ (refused m e calls).answer = .ok .nothing := by
  rcases refused_cases m e calls with ⟨-, h⟩ | ⟨-, h⟩ <;> rw [h]
  · exact iff_of_true rfl rfl
  · simp [trying]

variable {s : Settings} {m : Manager} {script : Script} {out : Outcome}

namespace Attempt

theorem isSound (h : Attempt s m script out) (empty : m.cached = none) : out.manager.IsSound s := by
  cases h with
  | spared given => exact isSound_of_empty empty
  | unconfigured trying missing => exact isSound_of_empty empty
  | unbuilt trying found broken => exact isSound_of_empty ((cached_refused _ _ _).trans empty)
  | silent trying found built broken =>
    exact isSound_of_empty ((cached_refused _ _ _).trans empty)
  | connected trying found built alive =>
    refine ⟨.inr trying, ?_, fun id _ => by simp [found]⟩
    intro id hid
    cases hid
    rfl

theorem failed_iff (h : Attempt s m script out) :
    out.manager.failed = true ↔ out.answer = .ok .nothing := by
  cases h with
  | spared given => exact iff_of_true given rfl
  | unconfigured trying missing => exact iff_of_true rfl rfl
  | unbuilt trying found broken => exact failed_refused_iff trying _ _
  | silent trying found built broken =>
    exact failed_refused_iff (m := { m with created := m.created + 1 }) trying _ _
  | connected trying found built alive => simp [trying]

theorem calls_eq_nil_iff (h : Attempt s m script out) :
    out.calls = [] ↔ m.failed = true ∨ s.address? = none := by
  cases h with
  | spared given => exact iff_of_true rfl (.inl given)
  | unconfigured trying missing => exact iff_of_true rfl (.inr missing)
  | unbuilt trying found broken => simp [trying, found]
  | silent trying found built broken => simp [trying, found]
  | connected trying found built alive => simp [trying, found]

/-- Without a call there is nothing to give out. -/
theorem nothing_of_calls (h : Attempt s m script out) (hc : out.calls = []) :
    out.answer = .ok .nothing := by
  cases h with
  | spared given => rfl
  | unconfigured trying missing => rfl
  | unbuilt trying found broken => simp at hc
  | silent trying found built broken => simp at hc
  | connected trying found built alive => cases hc

end Attempt

namespace Turn

theorem isSound (h : Turn s m script out) (hm : m.IsSound s) : out.manager.IsSound s := by
  cases h with
  | fresh empty attempt => exact attempt.isSound empty
  | alive kept alive => exact hm
  | lost kept broken known attempt => exact attempt.isSound rfl
  | broken kept broken unknown => exact hm

theorem trying_of_kept (hm : m.IsSound s) {id : ClientId} (kept : m.cached = some id) :
    m.failed = false := by
  rcases hm.exclusive with h | h
  · simp [kept] at h
  · exact h

/-- A manager has given up exactly when it gives out nothing. -/
theorem failed_iff (h : Turn s m script out) (hm : m.IsSound s) :
    out.manager.failed = true ↔ out.answer = .ok .nothing := by
  cases h with
  | fresh empty attempt => exact attempt.failed_iff
  | alive kept alive => simp [trying_of_kept hm kept]
  | lost kept broken known attempt => exact attempt.failed_iff
  | broken kept broken unknown => simp [trying_of_kept hm kept]

/-- The driver is left alone by a manager that has given up or has no address, and by no other. -/
theorem calls_eq_nil_iff (h : Turn s m script out) (hm : m.IsSound s) :
    out.calls = [] ↔ m.failed = true ∨ s.address? = none := by
  cases h with
  | fresh empty attempt => exact attempt.calls_eq_nil_iff
  | alive kept alive => simp [trying_of_kept hm kept, hm.configured _ kept]
  | lost kept broken known attempt => simp [trying_of_kept hm kept, hm.configured _ kept]
  | broken kept broken unknown => simp [trying_of_kept hm kept, hm.configured _ kept]

theorem isIdle_of_calls (h : Turn s m script out) (hc : out.calls = []) : out.IsIdle := by
  cases h with
  | fresh empty attempt => exact ⟨attempt.nothing_of_calls hc, hc⟩
  | alive kept alive => cases hc
  | lost kept broken known attempt => cases hc
  | broken kept broken unknown => cases hc

end Turn

/-! ## Commands one after another -/

variable {c : Command}

theorem isSound_step (hm : m.IsSound s) : (step s m script c).manager.IsSound s := by
  by_cases hc : c.Asks
  · rw [(step_accompanies hc s m script).manager]
    exact (turn_client s m script).isSound hm
  · obtain rfl : c = .reset := Decidable.not_not.mp hc
    exact isSound_of_empty rfl

theorem failed_step_iff (hc : c.Asks) (hm : m.IsSound s) :
    (step s m script c).manager.failed = true ↔ (step s m script c).answer = .ok .nothing := by
  have h := step_accompanies hc s m script
  rw [h.manager, h.nothing_iff]
  exact (turn_client s m script).failed_iff hm

theorem calls_step_eq_nil_iff (hc : c.Asks) (hm : m.IsSound s) :
    (step s m script c).calls = [] ↔ m.failed = true ∨ s.address? = none := by
  rw [(step_accompanies hc s m script).calls]
  exact (turn_client s m script).calls_eq_nil_iff hm

/-- Who has given up or has no address gives out nothing and asks for nothing. -/
theorem isIdle_step (hc : c.Asks) (hm : m.IsSound s) (h : m.failed = true ∨ s.address? = none) :
    (step s m script c).IsIdle := by
  have hacc := step_accompanies hc s m script
  have hturn := turn_client s m script
  have hidle := hturn.isIdle_of_calls ((hturn.calls_eq_nil_iff hm).mpr h)
  exact ⟨hacc.nothing_iff.mpr hidle.answer, hacc.calls.trans hidle.calls⟩

/-- The manager after some commands, each with its script. -/
def after (s : Settings) (m : Manager) : List (Command × Script) → Manager
  | [] => m
  | (c, script) :: rest => after s (step s m script c).manager rest

theorem after_append (before later : List (Command × Script)) :
    after s m (before ++ later) = after s (after s m before) later := by
  induction before generalizing m with
  | nil => rfl
  | cons x rest ih => exact ih

theorem isSound_after (hm : m.IsSound s) (commands : List (Command × Script)) :
    (after s m commands).IsSound s := by
  induction commands generalizing m with
  | nil => exact hm
  | cons x rest ih => exact ih (isSound_step hm)

theorem isSound_start : Manager.IsSound s {} := isSound_of_empty rfl

/-- What the last command comes to after some others, given to a new manager. -/
def outcomeAfter (s : Settings) (history : List (Command × Script)) (last : Command × Script) :
    Outcome :=
  step s (after s {} history) last.2 last.1

/-- The manager goes on with what the last command has left. -/
theorem after_concat (history : List (Command × Script)) (last : Command × Script) :
    after s {} (history ++ [last]) = (outcomeAfter s history last).manager := after_append _ _

/-- A command in the middle leaves its manager to those behind it. -/
theorem after_middle (before between : List (Command × Script)) (first : Command × Script) :
    after s {} (before ++ first :: between) =
      after s (outcomeAfter s before first).manager between := after_append _ _

theorem isSound_outcomeAfter (history : List (Command × Script)) (last : Command × Script) :
    (outcomeAfter s history last).manager.IsSound s :=
  isSound_step (isSound_after isSound_start history)

/-- Nobody resets the manager. -/
def Unreset (commands : List (Command × Script)) : Prop := ∀ x ∈ commands, x.1.Asks

/-- Without a reset, a manager has given up when it had before or has given out nothing once. -/
theorem failed_after_iff (hm : m.IsSound s) {commands : List (Command × Script)}
    (hc : Unreset commands) :
    (after s m commands).failed = true ↔
      m.failed = true ∨ ∃ out ∈ run s m commands, out.answer = .ok .nothing := by
  induction commands generalizing m with
  | nil => simp [after, run]
  | cons x rest ih =>
    obtain ⟨c, script⟩ := x
    have hask : c.Asks := hc _ List.mem_cons_self
    have hrest : Unreset rest := fun y hy => hc y (List.mem_cons_of_mem _ hy)
    have hfirst : (step s m script c).manager.failed = true ↔
        (step s m script c).answer = .ok .nothing := failed_step_iff hask hm
    have hkept : m.failed = true → (step s m script c).answer = .ok .nothing :=
      fun h => (isIdle_step hask hm (.inl h)).answer
    rw [after, ih (isSound_step hm) hrest, hfirst, run]
    simp only [List.mem_cons, exists_eq_or_imp]
    constructor
    · exact .inr
    · rintro (h | h)
      · exact .inl (hkept h)
      · exact h

end Accounts.Connection
