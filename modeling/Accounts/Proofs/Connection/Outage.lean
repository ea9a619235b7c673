import Accounts.Proofs.Connection.Course

/-!
Outages. A client that stops answering is replaced by a new one. When that fails the manager gives
up, as it does after a first attempt, and asks the driver for nothing until it is reset. So a manager
that has given out a client goes on trying exactly as long as it gives out clients.
-/
namespace Accounts.Connection

variable {s : Settings} {m : Manager} {script : Script} {c : Command}

theorem asks_of_served (served : (step s m script c).client? ≠ none) : c.Asks := by
  rintro rfl
  exact served rfl

/-- Who gives out a client has an address and has not given up. -/
theorem trying_of_served (hm : m.IsSound s) (served : (step s m script c).client? ≠ none) :
    (step s m script c).manager.failed = false ∧ s.address? ≠ none := by
  have hasks : c.Asks := asks_of_served served
  have hanswer : (step s m script c).answer ≠ .ok .nothing :=
    fun h => served (Outcome.client?_of_nothing h)
  constructor
  · rw [← Bool.not_eq_true, failed_step_iff hasks hm]
    exact hanswer
  · exact fun h => hanswer (isIdle_step hasks hm (.inr h)).answer

/-- Once a client has been given out, the driver is asked again for each command up to the next
reset exactly as long as no command in between has given out nothing. -/
theorem contacts_driver_iff (before between : List (Command × Script))
    (first last : Command × Script) (served : (outcomeAfter s before first).client? ≠ none)
    (unreset : Unreset between) (asks : last.1.Asks) :
    (outcomeAfter s (before ++ first :: between) last).calls ≠ [] ↔
      ∀ out ∈ run s (after s {} (before ++ [first])) between, out.answer ≠ .ok .nothing := by
  obtain ⟨htrying, haddress⟩ := trying_of_served (isSound_after isSound_start before) served
  have hm : (outcomeAfter s before first).manager.IsSound s := isSound_outcomeAfter before first
  rw [outcomeAfter, after_middle, ne_eq, calls_step_eq_nil_iff asks (isSound_after hm between),
    failed_after_iff hm unreset, after_concat]
  simp only [outcomeAfter, htrying, haddress]
  simp

/-! ## An outage -/

/-- The address of a server. -/
def reachable : Settings := { url := some "mongodb://localhost:27017" }

def dropped : StorageError := { kind := .other "AutoReconnect", message := "connection closed" }

def unreachable : StorageError :=
  { kind := .timeout "ServerSelectionTimeoutError", message := "no server found" }

/-- A client that does not answer is replaced, and its replacement is asked next time. -/
theorem contacts_driver_replacing :
    (outcomeAfter reachable
      [(.client, {}), (.client, { pings := [some dropped] }), (.database, {})]
      (.client, {})).calls ≠ [] := by
  refine (contacts_driver_iff [] [(.client, { pings := [some dropped] }), (.database, {})]
    (.client, {}) (.client, {}) ?_ ?_ ?_).mpr ?_
  · decide
  · unfold Unreset
    decide
  · decide
  · have hclients : ∀ out ∈ run reachable (after reachable {} [(.client, {})])
        [(.client, { pings := [some dropped] }), (.database, {})], out.client? ≠ none := by
      decide
    exact fun out hout h => hclients out hout (Outcome.client?_of_nothing h)

/-- With a server that is away for the length of one command, a manager that has given out a client
before asks for nothing afterwards. -/
theorem calls_after_outage :
    (outcomeAfter reachable [] (.client, {})).client? = some 0 ∧
      (outcomeAfter reachable
          [(.client, {}), (.client, { pings := [some dropped], constructs := [some unreachable] })]
          (.client, {})).calls = [] := by
  decide

end Accounts.Connection
