import Accounts.Proofs.Connection.Outage

/-!
The conduct of a connection. Whatever has been asked before and however the driver has answered, a
client that is given out is the latest one and has just answered, at most one client is made for a
command and only where one is missing, and a manager without an address or after a failure is idle.
After a reset everything goes as it does for a new manager, only that clients are counted on.
-/
namespace Accounts.Connection

/-! ## How calls come out -/

/-- Each call with what comes of it, as the script has it. -/
def replies : Script → List Call → List (Call × Option StorageError)
  | _, [] => []
  | script, .construct url :: calls =>
    (.construct url, next script.constructs) ::
      replies { script with constructs := script.constructs.tail } calls
  | script, .ping id :: calls =>
    (.ping id, next script.pings) :: replies { script with pings := script.pings.tail } calls

def Call.isConstruct : Call → Bool
  | .construct _ => true
  | .ping _ => false

/-- How many clients have been made by some calls. -/
def built (script : Script) (calls : List Call) : Nat :=
  (replies script calls).countP fun r => r.1.isConstruct && r.2.isNone

/-- How many clients have been made by some commands. -/
def clientsBuilt (s : Settings) (m : Manager) : List (Command × Script) → Nat
  | [] => 0
  | (c, script) :: rest =>
    built script (step s m script c).calls + clientsBuilt s (step s m script c).manager rest

/-- The driver only reports errors that the manager expects of it. -/
def Script.IsForeseen (script : Script) : Prop :=
  ∀ e, some e ∈ script.constructs ++ script.pings → expected e = true

theorem Script.IsForeseen.next {outcomes : List (Option StorageError)} {e : StorageError}
    (h : next outcomes = some e) : some e ∈ outcomes := by
  cases outcomes with
  | nil => cases h
  | cons o rest =>
    obtain rfl : o = some e := h
    exact List.mem_cons_self

theorem Script.IsForeseen.construct {script : Script} (h : script.IsForeseen) {e : StorageError}
    (hn : Connection.next script.constructs = some e) : expected e = true :=
  h e (List.mem_append_left _ (IsForeseen.next hn))

theorem Script.IsForeseen.ping {script : Script} (h : script.IsForeseen) {e : StorageError}
    (hn : Connection.next script.pings = some e) : expected e = true :=
  h e (List.mem_append_right _ (IsForeseen.next hn))

/-- What is left of a script after a ping. -/
theorem Script.IsForeseen.tail {script : Script} (h : script.IsForeseen) :
    Script.IsForeseen { script with pings := script.pings.tail } := by
  intro e he
  rcases List.mem_append.mp he with he | he
  · exact h e (List.mem_append_left _ he)
  · exact h e (List.mem_append_right _ (List.mem_of_mem_tail he))

variable {s : Settings} {m : Manager} {script : Script} {out : Outcome}

@[simp] theorem client?_refused (m : Manager) (e : StorageError) (calls : List Call) :
    (refused m e calls).client? = none := by
  rcases refused_cases m e calls with ⟨-, h⟩ | ⟨-, h⟩ <;> rw [h] <;> rfl

theorem answer_refused (m : Manager) {e : StorageError} (calls : List Call)
    (h : expected e = true) : (refused m e calls).answer = .ok .nothing := by
  rcases refused_cases m e calls with ⟨-, hr⟩ | ⟨he, -⟩
  · rw [hr]
    rfl
  · simp [h] at he

/-! ## One command -/

/-- What a command that asks for a client keeps to, as far as the driver is concerned. -/
structure Orderly (s : Settings) (m : Manager) (script : Script) (out : Outcome) : Prop where
  counted : out.manager.created = m.created + built script out.calls
  alive : ∀ id, out.client? = some id → (.ping id, none) ∈ replies script out.calls
  latest : ∀ id, out.client? = some id → id + 1 = out.manager.created
  once : out.calls.countP Call.isConstruct ≤ 1
  needed : ∀ url, .construct url ∈ out.calls →
    m.cached = none ∨ ∃ id e, m.cached = some id ∧ (.ping id, some e) ∈ replies script out.calls

theorem orderly_of_isIdle (h : out.IsIdle) (kept : out.manager.created = m.created) :
    Orderly s m script out := by
  have hclient : out.client? = none := Outcome.client?_of_nothing h.answer
  constructor
  · simp [h.calls, kept, built, replies]
  · simp [hclient]
  · simp [hclient]
  · simp [h.calls]
  · simp [h.calls]

theorem Attempt.orderly (h : Attempt s m script out) (empty : m.cached = none) :
    Orderly s m script out := by
  cases h with
  | spared given => exact orderly_of_isIdle ⟨rfl, rfl⟩ rfl
  | unconfigured trying missing => exact orderly_of_isIdle ⟨rfl, rfl⟩ rfl
  | unbuilt trying found broken =>
    refine ⟨?_, by simp, by simp, ?_, fun _ _ => .inl empty⟩
    · simp [built, replies, broken, Call.isConstruct]
    · simp [Call.isConstruct]
  | silent trying found made broken =>
    refine ⟨?_, by simp, by simp, ?_, fun _ _ => .inl empty⟩
    · simp [built, replies, made, Call.isConstruct]
    · simp [List.countP_cons, Call.isConstruct]
  | connected trying found made alive =>
    refine ⟨?_, ?_, ?_, ?_, fun _ _ => .inl empty⟩
    · simp [built, replies, made, Call.isConstruct]
    · intro id hid
      cases hid
      simp [replies, alive]
    · intro id hid
      cases hid
      rfl
    · simp [List.countP_cons, Call.isConstruct]

theorem Turn.orderly (h : Turn s m script out) (hm : m.IsSound s) : Orderly s m script out := by
  cases h with
  | fresh empty attempt => exact attempt.orderly empty
  | alive kept alive =>
    refine ⟨rfl, ?_, ?_, ?_, by simp⟩
    · intro id hid
      cases hid
      simp [replies, alive]
    · intro id hid
      cases hid
      exact hm.latest _ kept
    · simp [Call.isConstruct]
  | @lost id e out kept broken known attempt =>
    -- The ping that failed stands in front of whatever the attempt asks for.
    have ho := attempt.orderly rfl
    refine ⟨ho.counted, ?_, ho.latest, ho.once, ?_⟩
    · exact fun id hid => List.mem_cons_of_mem _ (ho.alive id hid)
    · exact fun _ _ => .inr ⟨id, e, kept, by simp [replies, broken]⟩
  | broken kept broken unknown =>
    refine ⟨rfl, by simp [Outcome.client?], by simp [Outcome.client?], ?_, by simp⟩
    simp [Call.isConstruct]

theorem orderly_step {c : Command} (hm : m.IsSound s) :
    Orderly s m script (step s m script c) := by
  by_cases hc : c.Asks
  · have h := step_accompanies hc s m script
    have ho := (turn_client s m script).orderly hm
    refine ⟨?_, ?_, ?_, ?_, ?_⟩
    · rw [h.manager, h.calls]
      exact ho.counted
    · rw [h.calls]
      exact fun id hid => ho.alive id (h.client id hid)
    · rw [h.manager]
      exact fun id hid => ho.latest id (h.client id hid)
    · rw [h.calls]
      exact ho.once
    · rw [h.calls]
      exact ho.needed
  · obtain rfl : c = .reset := Decidable.not_not.mp hc
    exact orderly_of_isIdle ⟨rfl, rfl⟩ rfl

/-! ## No error is handed on -/

theorem Attempt.answered (h : Attempt s m script out) (foreseen : script.IsForeseen) :
    ∃ a, out.answer = .ok a := by
  cases h with
  | spared given => exact ⟨_, rfl⟩
  | unconfigured trying missing => exact ⟨_, rfl⟩
  | unbuilt trying found broken => exact ⟨_, answer_refused _ _ (foreseen.construct broken)⟩
  | silent trying found made broken => exact ⟨_, answer_refused _ _ (foreseen.ping broken)⟩
  | connected trying found made alive => exact ⟨_, rfl⟩

theorem Turn.answered (h : Turn s m script out) (foreseen : script.IsForeseen) :
    ∃ a, out.answer = .ok a := by
  cases h with
  | fresh empty attempt => exact attempt.answered foreseen
  | alive kept alive => exact ⟨_, rfl⟩
  | lost kept broken known attempt => exact attempt.answered foreseen.tail
  | broken kept broken unknown => simp [foreseen.ping broken] at unknown

/-- Only the name of a database can still be refused. -/
theorem answered_step {c : Command} (foreseen : script.IsForeseen)
    (taken : c = .database → s.refusal = none) : ∃ a, (step s m script c).answer = .ok a := by
  obtain ⟨a, ha⟩ := (turn_client s m script).answered foreseen
  cases c with
  | client => exact ⟨a, ha⟩
  | reset => exact ⟨_, rfl⟩
  | database =>
    have hname : s.refusal = none := taken rfl
    cases a <;> simp [step, ha, Except.bind, Answer.toDatabase, hname]

/-! ## Commands one after another -/

theorem created_after (hm : m.IsSound s) (commands : List (Command × Script)) :
    (after s m commands).created = m.created + clientsBuilt s m commands := by
  induction commands generalizing m with
  | nil => rfl
  | cons x rest ih =>
    obtain ⟨c, script⟩ := x
    rw [after, ih (isSound_step hm), (orderly_step hm).counted, clientsBuilt, Nat.add_assoc]

theorem created_start (history : List (Command × Script)) :
    (after s {} history).created = clientsBuilt s {} history := by
  rw [created_after isSound_start, Nat.zero_add]

/-- Who has given out nothing remains idle until a reset. -/
theorem isIdle_of_nothing {before between : List (Command × Script)}
    {first last : Command × Script} (asks : first.1.Asks)
    (nothing : (outcomeAfter s before first).answer = .ok .nothing) (unreset : Unreset between)
    (more : last.1.Asks) : (outcomeAfter s (before ++ first :: between) last).IsIdle := by
  have hm : (outcomeAfter s before first).manager.IsSound s := isSound_outcomeAfter before first
  have hfailed : (outcomeAfter s before first).manager.failed = true :=
    (failed_step_iff asks (isSound_after isSound_start before)).mpr nothing
  rw [outcomeAfter, after_middle]
  exact isIdle_step more (isSound_after hm between)
    (.inl ((failed_after_iff hm unreset).mpr (.inl hfailed)))

/-! ## Counting on -/

/-- The same with clients that are counted from another number on. -/
def Manager.renumber (k : Nat) (m : Manager) : Manager :=
  { m with cached := m.cached.map (· + k), created := m.created + k }

def Call.renumber (k : Nat) : Call → Call
  | .construct url => .construct url
  | .ping id => .ping (id + k)

def Answer.renumber (k : Nat) : Answer → Answer
  | .nothing => .nothing
  | .client id => .client (id + k)
  | .database id name => .database (id + k) name

def Outcome.renumber (k : Nat) (out : Outcome) : Outcome :=
  { out with
    answer := out.answer.map (Answer.renumber k)
    manager := out.manager.renumber k
    calls := out.calls.map (Call.renumber k) }

variable {c : Command}

theorem refused_renumber (k : Nat) (m : Manager) (e : StorageError) (calls : List Call) :
    refused (m.renumber k) e (calls.map (Call.renumber k)) =
      (refused m e calls).renumber k := by
  unfold refused
  cases expected e <;> rfl

theorem connect_renumber (k : Nat) (m : Manager) (url : String) (script : Script) :
    connect s (m.renumber k) url script = (connect s m url script).renumber k := by
  have hcount : m.created + k + 1 = m.created + 1 + k := by omega
  unfold connect
  cases next script.constructs with
  | some e => exact refused_renumber k m e [.construct url]
  | none =>
    cases next script.pings with
    | some e =>
      have h := refused_renumber k { m with created := m.created + 1 } e
        [.construct url, .ping m.created]
      simpa [Manager.renumber, Call.renumber, hcount] using h
    | none => simp [Outcome.renumber, Manager.renumber, Answer.renumber, Call.renumber, Except.map,
        hcount]

theorem reconnect_renumber (k : Nat) (m : Manager) (script : Script) :
    reconnect s (m.renumber k) script = (reconnect s m script).renumber k := by
  unfold reconnect
  cases hf : m.failed with
  | true => simp [Manager.renumber, Outcome.renumber, Answer.renumber, Except.map, hf]
  | false =>
    have hk : (m.renumber k).failed = false := hf
    simp only [hk, Bool.false_eq_true, if_false]
    cases s.url.filter (!·.isEmpty) with
    | none => rfl
    | some url => exact connect_renumber k m url script

theorem client_renumber (k : Nat) (m : Manager) (script : Script) :
    client s (m.renumber k) script = (client s m script).renumber k := by
  unfold client
  cases hc : m.cached with
  | none =>
    have hk : (m.renumber k).cached = none := by simp [Manager.renumber, hc]
    simp only [hk]
    exact reconnect_renumber k m script
  | some id =>
    have hk : (m.renumber k).cached = some (id + k) := by simp [Manager.renumber, hc]
    simp only [hk]
    cases next script.pings with
    | none => rfl
    | some e =>
      simp only
      cases expected e with
      | false => rfl
      | true =>
        have h := reconnect_renumber (s := s) k { m with cached := none }
          { script with pings := script.pings.tail }
        simp only [if_true]
        rw [show ({ m.renumber k with cached := none } : Manager) =
          Manager.renumber k { m with cached := none } from rfl, h]
        rfl

theorem step_renumber (k : Nat) (m : Manager) (script : Script) (c : Command) :
    step s (m.renumber k) script c = (step s m script c).renumber k := by
  cases c with
  | client => exact client_renumber k m script
  | reset => rfl
  | database =>
    simp only [step, client_renumber]
    simp only [Outcome.renumber]
    rcases (client s m script).answer with e | (_ | _ | _)
    · rfl
    · rfl
    · simp only [Except.map, Except.bind, Answer.renumber, Answer.toDatabase]
      cases s.refusal <;> rfl
    · rfl

theorem after_renumber (k : Nat) (m : Manager) (commands : List (Command × Script)) :
    after s (m.renumber k) commands = (after s m commands).renumber k := by
  induction commands generalizing m with
  | nil => rfl
  | cons x rest ih =>
    obtain ⟨c, script⟩ := x
    rw [after, step_renumber]
    exact ih _

/-- After a reset everything goes as for a new manager, only that clients are counted on. -/
theorem outcomeAfter_reset (before between : List (Command × Script)) (script : Script)
    (last : Command × Script) :
    outcomeAfter s (before ++ (.reset, script) :: between) last =
      (outcomeAfter s between last).renumber (clientsBuilt s {} before) := by
  have hreset : (step s (after s {} before) script .reset).manager =
      Manager.renumber (clientsBuilt s {} before) {} := by
    rw [← created_start]
    simp [step, Manager.renumber]
  rw [outcomeAfter, after_append, after, hreset, after_renumber, step_renumber]
  rfl

/-! ## The conduct -/

/-- How a manager conducts itself when a command follows on others. -/
structure Conduct (s : Settings) (history : List (Command × Script)) (last : Command × Script) :
    Prop where
  /-- A client is not kept by who has given up. -/
  exclusive : ¬((after s {} history).cached ≠ none ∧ (after s {} history).failed = true)
  /-- A client that is given out has answered a ping for this command. -/
  alive : ∀ id, (outcomeAfter s history last).client? = some id →
    (.ping id, none) ∈ replies last.2 (outcomeAfter s history last).calls
  /-- It is the client made last. -/
  latest : ∀ id, (outcomeAfter s history last).client? = some id →
    id + 1 = clientsBuilt s {} (history ++ [last])
  once : (outcomeAfter s history last).calls.countP Call.isConstruct ≤ 1
  /-- A client is made where none is kept or the one that is kept does not answer. -/
  needed : ∀ url, .construct url ∈ (outcomeAfter s history last).calls →
    (after s {} history).cached = none ∨
      ∃ id e, (after s {} history).cached = some id ∧
        (.ping id, some e) ∈ replies last.2 (outcomeAfter s history last).calls
  /-- No error is handed on, unless a database is asked for and the driver refuses its name. -/
  answered : (last.1 = .database → s.refusal = none) →
    ∃ a, (outcomeAfter s history last).answer = .ok a
  /-- Without an address nothing is given out or asked for. -/
  unconfigured : s.address? = none → last.1.Asks → (outcomeAfter s history last).IsIdle
  /-- So it is when nothing has been given out since the last reset, by the first attempt or a later
  one. -/
  final : ∀ before first between, history = before ++ first :: between → first.1.Asks →
    Unreset between → (outcomeAfter s before first).answer = .ok .nothing → last.1.Asks →
    (outcomeAfter s history last).IsIdle
  /-- What has been before a reset only shows in the number of clients. -/
  afresh : ∀ before script between, history = before ++ (.reset, script) :: between →
    outcomeAfter s history last =
      (outcomeAfter s between last).renumber (clientsBuilt s {} before)

/-- Every manager conducts itself so after any commands, as long as the driver reports only its own
errors. -/
theorem conduct_after (s : Settings) (history : List (Command × Script)) (last : Command × Script)
    (foreseen : last.2.IsForeseen) : Conduct s history last := by
  have hm : (after s {} history).IsSound s := isSound_after isSound_start history
  have ho : Orderly s (after s {} history) last.2 (outcomeAfter s history last) := orderly_step hm
  constructor
  case exclusive =>
    rintro ⟨hcached, hfailed⟩
    rcases hm.exclusive with h | h
    · exact hcached h
    · simp [h] at hfailed
  case alive => exact ho.alive
  case latest =>
    intro id hid
    rw [ho.latest id hid, ← created_start, after_concat]
  case once => exact ho.once
  case needed => exact ho.needed
  case answered => exact answered_step foreseen
  case unconfigured => exact fun hs hask => isIdle_step hask hm (.inr hs)
  case final =>
    rintro before first between rfl hfirst hbetween hnothing hask
    exact isIdle_of_nothing hfirst hnothing hbetween hask
  case afresh =>
    rintro before script between rfl
    exact outcomeAfter_reset before between script last

/-- After an outage and a reset a new client is made, which does not answer at the next command and
is replaced. -/
theorem conduct_after_recovering :
    ∃ history last, last = (.database, { pings := [some dropped] }) ∧
      Conduct reachable history last ∧ (outcomeAfter reachable history last).client? = some 2 := by
  refine ⟨[(.client, {}), (.client, { pings := [some dropped], constructs := [some unreachable] }),
    (.reset, {}), (.client, {})], _, rfl, conduct_after _ _ _ ?_, by decide⟩
  intro e he
  obtain rfl : e = dropped := by simpa using he
  decide

end Accounts.Connection
