import Accounts.Proofs.Context.Contract
import Accounts.Proofs.Store.Documents
import Accounts.Proofs.Store.Driver

/-!
What comes of a write to an archive. Much may stand in its way at once: the context, data that no
document can hold, an error that the driver has in store, and the documents that are there. All
writes meet these in the same order, and only the first shows: in the class, the wording and the
cause of the failure, in the calls and the log, and in what is left of the archive.
-/
namespace Accounts

/-! ## Circumstances -/

namespace Occasion

/-- The clock is a double and shows a date. The deadline, if there is one, is a number, and not too
large for a double. -/
structure IsTimed (o : Occasion Moment) (time : Int) : Prop where
  clock : ∃ now, o.now = .real now
  date : o.wallTime = .ok time
  deadline : ∀ d, o.contexts.deadline? o.context = some d →
    ∃ x, d.double? = some x ∧ x.magnitude ≠ .undefined

/-- The deadline, as a double, has come. -/
def IsOver (o : Occasion Moment) : Prop :=
  ∃ d x, o.contexts.deadline? o.context = some d ∧ d.double? = some x ∧
    Timeline.le (.real x) o.now = true

variable {o : Occasion Moment} {time : Int}

/-- A clock that shows a date shows a finite number. -/
theorem IsTimed.exists_finite (h : o.IsTimed time) :
    ∃ now s m e, o.now = .real now ∧ now.magnitude = .finite s m e := by
  obtain ⟨now, hnow⟩ := h.clock
  have hfloor : now.magnitude.floor ≠ none := by
    intro hnone
    have hdate := h.date
    have hclock : Timeline.floor? o.now = none := by rwa [hnow]
    simp only [wallTime, wallTime?, hclock] at hdate
    cases hdate
  cases hm : now.magnitude with
  | finite s m e => exact ⟨now, s, m, e, hnow, hm⟩
  | undefined | infinite _ =>
    rw [hm] at hfloor
    exact absurd rfl hfloor

theorem isOver_iff {d : Moment} {x now : Double} (hnow : o.now = .real now)
    (hn : now.magnitude ≠ .undefined) (hd : o.contexts.deadline? o.context = some d)
    (hx : d.double? = some x) (hnumber : x.magnitude ≠ .undefined) :
    o.IsOver ↔ x.magnitude.place ≤ now.magnitude.place := by
  refine Iff.trans ?_ (Moment.le_iff_place (a := .real x) (b := .real now) hnumber hn)
  constructor
  · rintro ⟨d', x', hd', hx', hle⟩
    cases hd'.symm.trans hd
    cases hx'.symm.trans hx
    rwa [hnow] at hle
  · exact fun hle => ⟨d, x, hd, hx, by rwa [hnow]⟩

/-- A look finds the context cancelled, or else over, or else leaves time. -/
theorem IsTimed.check_cases (h : o.IsTimed time) :
    (o.contexts.isCancelled o.context = true ∧ o.check = .error (.context .cancelled)) ∨
      ¬o.contexts.isCancelled o.context = true ∧
        ((o.IsOver ∧ o.check = .error (.context .expired)) ∨
          ¬o.IsOver ∧ ∃ left, o.check = .ok left) := by
  obtain ⟨now, s, m, e, hnow, hm⟩ := h.exists_finite
  have hn : now.magnitude ≠ .undefined := by
    rw [hm]
    exact fun h => by cases h
  have hlook := Contexts.look_check o.contexts now o.context
  have hcheck : o.check = (o.contexts.check (.real now) o.context).mapError Failure.context := by
    rw [check, hnow]
    cases o.contexts.check (.real now) o.context <;> rfl
  rw [hcheck]
  generalize o.contexts.check (.real now) o.context = answer at hlook
  cases hlook with
  | cancelled hc => exact .inl ⟨hc, rfl⟩
  | unbounded hc hd =>
    refine .inr ⟨Bool.eq_false_iff.mp hc, .inr ⟨?_, none, rfl⟩⟩
    rintro ⟨d, x, hd', -⟩
    cases hd'.symm.trans hd
  | overflow hc hd hx =>
    obtain ⟨x, hx', -⟩ := h.deadline _ hd
    cases hx.symm.trans hx'
  | undefined hc hd hx hu =>
    -- The clock is finite, and the deadline a number.
    obtain ⟨y, hy, hnumber⟩ := h.deadline _ hd
    cases hx.symm.trans hy
    rcases (Double.magnitude_sub_undefined_iff _ _).mp hu with hu | hu | ⟨t, -, hu⟩
    · exact absurd hu hnumber
    · exact absurd hu hn
    · cases hu.symm.trans hm
  | expired hc hd hx hu hr =>
    obtain ⟨y, hy, hnumber⟩ := h.deadline _ hd
    cases hx.symm.trans hy
    exact .inr ⟨Bool.eq_false_iff.mp hc, .inl ⟨(isOver_iff hnow hn hd hx hnumber).mpr hr, rfl⟩⟩
  | left hc hd hx hu hr hp =>
    obtain ⟨y, hy, hnumber⟩ := h.deadline _ hd
    cases hx.symm.trans hy
    have hover := mt (isOver_iff hnow hn hd hx hnumber).mp (not_le.mpr hr)
    exact .inr ⟨Bool.eq_false_iff.mp hc, .inr ⟨hover, _, rfl⟩⟩

end Occasion

namespace Request

/-- Something that is given cannot be held by a document, and why. -/
def IsUnencodable (r : Request Value) (f : EncodingFault) : Prop :=
  f.IsIn (Tree.itemIntegers r.given) (Tree.itemKeys r.given)

end Request

namespace Archive

/-! ## Obstacles -/

/-- What may stand in the way of a write. -/
inductive Obstacle where
  | cancelled
  | expired
  | unencodable
  | armed
  /-- There is a document under the address that is to get a new one. -/
  | taken
  /-- There is none under the address whose document is to be changed. -/
  | unknown

/-- The order in which obstacles are met. -/
def Obstacle.rank : Obstacle → Nat
  | .cancelled => 0
  | .expired => 1
  | .unencodable => 2
  | .armed => 3
  | .taken => 4
  | .unknown => 5

/-- The obstacle is there, met or not. -/
def Obstacle.Stands (c : Collection) (o : Occasion Moment) (r : Request Value) : Obstacle → Prop
  | .cancelled => o.contexts.isCancelled o.context = true
  | .expired => o.IsOver
  | .unencodable => ∃ f, r.IsUnencodable f
  | .armed => ∃ e, c.fault? r.method = some e
  | .taken => r.action = .save ∧ ∃ d, c.documents.get? r.email = some d
  | .unknown => r.action ≠ .save ∧ c.documents.get? r.email = none

namespace Obstacle

/-- So many obstacles may be met before the first one that is there. -/
def Clears (c : Collection) (o : Occasion Moment) (r : Request Value) (n : Nat) : Prop :=
  ∀ x : Obstacle, x.Stands c o r → n ≤ x.rank

/-- The obstacle is there, and none that is met before. -/
structure IsFirst (c : Collection) (o : Occasion Moment) (r : Request Value) (x : Obstacle) :
    Prop where
  stands : x.Stands c o r
  clear : Clears c o r x.rank

section

variable {c : Collection} {o : Occasion Moment} {r : Request Value} {x y : Obstacle}

theorem rank_inj (h : x.rank = y.rank) : x = y := by
  cases x <;> cases y <;> first | rfl | cases h

theorem rank_lt (x : Obstacle) : x.rank < 6 := by
  cases x <;> decide

theorem clears_zero : Clears c o r 0 := fun _ _ => Nat.zero_le _

/-- One obstacle after another is found not to be there. -/
theorem Clears.past (h : Clears c o r x.rank) (hx : ¬x.Stands c o r) :
    Clears c o r (x.rank + 1) := by
  intro y hy
  refine Nat.lt_of_le_of_ne (h y hy) fun hrank => hx ?_
  rwa [rank_inj hrank]

theorem IsFirst.unique (hx : x.IsFirst c o r) (hy : y.IsFirst c o r) : x = y :=
  rank_inj (Nat.le_antisymm (hx.clear y hy.stands) (hy.clear x hx.stands))

end

end Obstacle

/-! ## What shows of them -/

/-- What a failure shows: its class, its wording and its cause, and besides what is left of the
archive, and what was called and logged. -/
structure Fails (out : Outcome Moment Collection (Reply Value)) (k : FailureClass)
    (message : String) (cause : Option Cause) (after : Collection) (events : List (Event Moment)) :
    Prop where
  result : ∃ f, out.result = .error f ∧ f.family? = some k ∧ f.message = message ∧
    f.cause? = cause
  state : out.state = after
  events : out.events = events

/-- How an error that the driver has in store for a write is shown and logged. -/
inductive Reported (action : Action) (email : String) (e : StorageError) :
    FailureClass → String → Log.Entry → Prop
  | taken (ha : action = .save) (hk : e.kind = .duplicateKey) :
    Reported action email e .conflict ("User " ++ email ++ " already exists")
      (entry Log.Level.warning "User save failed: email already exists" email none)
  | tooLarge (hk : e.kind = .tooLarge) :
    Reported action email e .internal action.failed
      (entry Log.Level.error (action.failed ++ ": document not encodable") email e.message)
  | late (hk : ¬(action = .save ∧ e.kind = .duplicateKey)) (hl : e.kind ≠ .tooLarge)
    (ht : e.isTimeout = true) :
    Reported action email e .deadlineExceeded action.failed
      (entry Log.Level.warning (action.failed ++ ": deadline exceeded") email none)
  | other (hk : ¬(action = .save ∧ e.kind = .duplicateKey)) (hl : e.kind ≠ .tooLarge)
    (ht : e.isTimeout = false) :
    Reported action email e .internal action.failed
      (entry Log.Level.error action.failed email e.message)

/-- What a write shows whose first obstacle this is. -/
def Obstacle.Shows (c : Collection) (o : Occasion Moment) (r : Request Value) (time : Int)
    (out : Outcome Moment Collection (Reply Value)) : Obstacle → Prop
  | .cancelled => Fails out .cancelled "Operation cancelled" none c []
  | .expired => Fails out .deadlineExceeded "Operation deadline exceeded" none c []
  | .unencodable => ∃ f left, o.check = .ok left ∧ r.IsUnencodable f ∧
    (f.name = "OverflowError" ∨ f.name = "InvalidDocument") ∧
    Fails out .internal r.action.failed
      (some (.encoding f (c.wording (call r time left).arguments f))) c
      [.called (call r time left), .logged (entry Log.Level.error
        (r.action.failed ++ ": document not encodable") r.email
        (c.wording (call r time left).arguments f))]
  | .armed => ∃ e k message log left, o.check = .ok left ∧ c.fault? r.method = some e ∧
    Reported r.action r.email e k message log ∧
    Fails out k message (some (.storage e)) (c.disarm r.method)
      [.called (call r time left), .logged log]
  | .taken => ∃ left, o.check = .ok left ∧
    Fails out .conflict ("User " ++ r.email ++ " already exists") (some (.storage .takenKey)) c
      [.called (call r time left), .logged (entry Log.Level.warning
        "User save failed: email already exists" r.email none)]
  | .unknown => ∃ left, o.check = .ok left ∧
    Fails out .notFound ("User " ++ r.email ++ " not found") none c [.called (call r time left)]

/-- The document that a write leaves in place of another, or of none. -/
def written (r : Request Value) (time : Int) (old : Document) : Document :=
  match r with
  | .save u => document u time
  | _ => Collection.setFields (r.fields time) old

/-- What a write shows that nothing stands in the way of. -/
def Succeeds (c : Collection) (o : Occasion Moment) (r : Request Value) (time : Int)
    (out : Outcome Moment Collection (Reply Value)) : Prop :=
  ∃ left, o.check = .ok left ∧ out =
    { result := .ok .done
      state := { c with
        documents := c.documents.put r.email
          (written r time ((c.documents.get? r.email).getD [])) }
      events := .called (call r time left) :: logged (succeeded r.action r.email) }

/-! ## Calls -/

variable {c : Collection} {o : Occasion Moment} {r : Request Value} {time : Int}

@[simp] theorem method_call (r : Request Value) (time : Int) (left : Option Moment) :
    (call r time left).method = r.method := by
  cases r <;> rfl

/-- A call that is refused is shown as the failure for what the driver reports. -/
theorem perform_of_refused {left : Option Moment} {cause : Cause} {c' : Collection}
    (h : c.enter (call r time left).method (call r time left).arguments = (.error cause, c')) :
    perform c r time left =
      { result := .error (failureOf r.action r.email cause).1
        state := c'
        events := .called (call r time left) :: logged (failureOf r.action r.email cause).2 } := by
  simp only [perform, execute_of_refused left h]
  rfl

theorem reported_failureOf {action : Action} (ha : action ≠ .retrieve) (email : String)
    (e : StorageError) : ∃ k message log, Reported action email e k message log ∧
      (failureOf action email (.storage e)).2 = some log ∧
      (failureOf action email (.storage e)).1.family? = some k ∧
      (failureOf action email (.storage e)).1.message = message ∧
      (failureOf action email (.storage e)).1.cause? = some (.storage e) := by
  simp only [failureOf]
  by_cases hk : action = .save ∧ e.kind = .duplicateKey
  · rw [if_pos hk]
    exact ⟨_, _, _, .taken hk.1 hk.2, rfl, rfl, rfl, rfl⟩
  · rw [if_neg hk]
    by_cases hl : e.kind = .tooLarge
    · rw [if_pos hl, if_neg ha]
      exact ⟨_, _, _, .tooLarge hl, rfl, rfl, rfl, rfl⟩
    · rw [if_neg hl]
      by_cases ht : e.isTimeout = true
      · rw [if_pos ht]
        exact ⟨_, _, _, .late hk hl ht, rfl, rfl, rfl, rfl⟩
      · rw [if_neg ht]
        exact ⟨_, _, _, .other hk hl (Bool.eq_false_iff.mpr ht), rfl, rfl, rfl, rfl⟩

theorem shows_unencodable {f : EncodingFault} {left : Option Moment} (ho : o.check = .ok left)
    (hf : Tree.itemsFault? r.given = some f) :
    Obstacle.unencodable.Shows c o r time (perform c r time left) := by
  have henter : c.enter (call r time left).method (call r time left).arguments =
      (.error (.encoding f (c.wording (call r time left).arguments f)), c) := by
    simp only [Collection.enter, itemsFault?_arguments, hf]
  have hin : r.IsUnencodable f := by
    have hfinds := Tree.finds_itemsFault? r.given
    rwa [hf] at hfinds
  have hname : f.name = "OverflowError" ∨ f.name = "InvalidDocument" := by
    cases f with
    | integerSize => exact .inl rfl
    | keyType _ | keyNull => exact .inr rfl
  rw [perform_of_refused henter]
  exact ⟨f, left, ho, hin, hname, ⟨⟨_, rfl, rfl, rfl, rfl⟩, rfl, rfl⟩⟩

theorem shows_armed {e : StorageError} {left : Option Moment} (ho : o.check = .ok left)
    (hr : r.action ≠ .retrieve) (hf : Tree.itemsFault? r.given = none)
    (he : c.fault? r.method = some e) :
    Obstacle.armed.Shows c o r time (perform c r time left) := by
  have henter : c.enter (call r time left).method (call r time left).arguments =
      (.error (.storage e), c.disarm r.method) := by
    simp only [Collection.enter, itemsFault?_arguments, hf, method_call, he]
  obtain ⟨k, message, log, hreported, hlog, hclass, hmessage, hcause⟩ :=
    reported_failureOf hr r.email e
  rw [perform_of_refused henter, hlog]
  exact ⟨e, k, message, log, left, ho, he, hreported,
    ⟨⟨_, rfl, hclass, hmessage, hcause⟩, rfl, rfl⟩⟩

/-- An update is a call with the fields that it sets. -/
theorem call_update (hs : r.action ≠ .save) (hr : r.action ≠ .retrieve) (left : Option Moment) :
    call r time left =
      ⟨.update, [Collection.query r.email, Collection.setting (r.fields time)], left⟩ := by
  cases r with
  | save u => exact absurd rfl hs
  | retrieve email => exact absurd rfl hr
  | updateUser u | updatePassword email password => rfl

theorem execute_update (c : Collection) (hs : r.action ≠ .save) (hr : r.action ≠ .retrieve)
    (time : Int) : execute c r time =
      (matched r.email (c.update r.email (r.fields time)).1,
        (c.update r.email (r.fields time)).2) := by
  cases r with
  | save u => exact absurd rfl hs
  | retrieve email => exact absurd rfl hr
  | updateUser u | updatePassword email password => rfl

theorem written_update (hs : r.action ≠ .save) (old : Document) :
    written r time old = Collection.setFields (r.fields time) old := by
  cases r with
  | save u => exact absurd rfl hs
  | _ => rfl

/-- A new document that is let through is added, unless there is one. -/
theorem perform_save {u : User Value} {left : Option Moment} (ho : o.check = .ok left)
    (h : c.enter (call (.save u) time left).method (call (.save u) time left).arguments =
      (.ok (), c)) :
    (Obstacle.taken.Stands c o (.save u) →
        Obstacle.taken.Shows c o (.save u) time (perform c (.save u) time left)) ∧
      (¬Obstacle.taken.Stands c o (.save u) →
        Succeeds c o (.save u) time (perform c (.save u) time left)) := by
  have henter : c.enter .insert [.record (document u time)] = (.ok (), c) := h
  cases hd : c.documents.get? u.email with
  | some d =>
    have hexecute : execute c (.save u) time =
        (.error (.inr (.storage .takenKey)), c) := by
      simp only [execute, Collection.insert, henter, hd]
    refine ⟨fun _ => ⟨left, ho, ?_⟩, fun hno => absurd ⟨rfl, d, hd⟩ hno⟩
    simp only [perform, hexecute]
    exact ⟨⟨_, rfl, rfl, rfl, rfl⟩, rfl, rfl⟩
  | none =>
    refine ⟨fun ht => ?_, fun _ => ⟨left, ho, ?_⟩⟩
    · obtain ⟨d, hd'⟩ := ht.2
      cases hd.symm.trans hd'
    · simp only [perform, execute, Collection.insert, henter, hd]
      rfl

/-- A change that is let through is made, unless there is no document. -/
theorem perform_update {left : Option Moment} (ho : o.check = .ok left) (hs : r.action ≠ .save)
    (hr : r.action ≠ .retrieve)
    (h : c.enter (call r time left).method (call r time left).arguments = (.ok (), c)) :
    (Obstacle.unknown.Stands c o r → Obstacle.unknown.Shows c o r time (perform c r time left)) ∧
      (¬Obstacle.unknown.Stands c o r → Succeeds c o r time (perform c r time left)) := by
  have henter := h
  rw [call_update hs hr] at henter
  cases hd : c.documents.get? r.email with
  | none =>
    have hexecute : execute c r time = (.error (.inl (.unknown r.email)), c) := by
      simp only [execute_update c hs hr, Collection.update, henter, hd, matched]
    refine ⟨fun _ => ⟨left, ho, ?_⟩, fun hno => absurd ⟨hs, hd⟩ hno⟩
    simp only [perform, hexecute]
    exact ⟨⟨_, rfl, rfl, rfl, rfl⟩, rfl, rfl⟩
  | some d =>
    refine ⟨fun hno => (by cases hd.symm.trans hno.2), fun _ => ⟨left, ho, ?_⟩⟩
    simp only [perform, execute_update c hs hr, Collection.update, henter, hd, matched,
      written_update hs, Option.getD_some]

/-- A call that is let through depends on the document that is there. -/
theorem perform_of_entered {left : Option Moment} (ho : o.check = .ok left)
    (hr : r.action ≠ .retrieve)
    (h : c.enter (call r time left).method (call r time left).arguments = (.ok (), c)) :
    (Obstacle.taken.Stands c o r → Obstacle.taken.Shows c o r time (perform c r time left)) ∧
      (Obstacle.unknown.Stands c o r → Obstacle.unknown.Shows c o r time (perform c r time left)) ∧
      (¬Obstacle.taken.Stands c o r → ¬Obstacle.unknown.Stands c o r →
        Succeeds c o r time (perform c r time left)) := by
  by_cases hs : r.action = .save
  · cases r with
    | save u =>
      obtain ⟨hshows, hsucceeds⟩ := perform_save ho h
      exact ⟨hshows, fun hu => absurd hs hu.1, fun ht _ => hsucceeds ht⟩
    | updateUser u | updatePassword email password | retrieve email => cases hs
  · obtain ⟨hshows, hsucceeds⟩ := perform_update ho hs hr h
    exact ⟨fun ht => absurd ht.1 hs, hshows, fun _ hu => hsucceeds hu⟩

/-! ## Precedence -/

/-- A write shows the first obstacle in its way, or there is none and it succeeds. -/
theorem run_cases_first (ho : o.IsTimed time) (hr : r.action ≠ .retrieve) :
    (∃ x : Obstacle, x.IsFirst c o r ∧ x.Shows c o r time (run c o r)) ∨
      (∀ x : Obstacle, ¬x.Stands c o r) ∧ Succeeds c o r time (run c o r) := by
  have hzero : Obstacle.Clears c o r 0 := Obstacle.clears_zero
  rcases ho.check_cases with ⟨hc, hcheck⟩ | ⟨hc, hcases⟩
  · rw [run_of_refused ho.date hcheck rfl]
    exact .inl ⟨.cancelled, ⟨hc, hzero⟩, ⟨_, rfl, rfl, rfl, rfl⟩, rfl, rfl⟩
  have hone : Obstacle.Clears c o r 1 := hzero.past (x := .cancelled) hc
  rcases hcases with ⟨he, hcheck⟩ | ⟨he, left, hcheck⟩
  · rw [run_of_refused ho.date hcheck rfl]
    exact .inl ⟨.expired, ⟨he, hone⟩, ⟨_, rfl, rfl, rfl, rfl⟩, rfl, rfl⟩
  have htwo : Obstacle.Clears c o r 2 := hone.past (x := .expired) he
  have hrun : run c o r = perform c r time left := by rw [run_dated ho.date, hcheck]
  rw [hrun]
  have hfinds := Tree.finds_itemsFault? r.given
  cases hf : Tree.itemsFault? r.given with
  | some f =>
    rw [hf] at hfinds
    exact .inl ⟨.unencodable, ⟨⟨f, hfinds⟩, htwo⟩, shows_unencodable hcheck hf⟩
  | none =>
    rw [hf] at hfinds
    have hthree : Obstacle.Clears c o r 3 :=
      htwo.past (x := .unencodable) fun ⟨f, hin⟩ => hfinds f hin
    cases ha : c.fault? r.method with
    | some e => exact .inl ⟨.armed, ⟨⟨e, ha⟩, hthree⟩, shows_armed hcheck hr hf ha⟩
    | none =>
      have hfour : Obstacle.Clears c o r 4 :=
        hthree.past (x := .armed) fun ⟨e, he⟩ => by cases ha.symm.trans he
      have henter : c.enter (call r time left).method (call r time left).arguments =
          (.ok (), c) := by
        simp only [Collection.enter, itemsFault?_arguments, hf, method_call, ha]
      obtain ⟨htaken, hunknown, hdone⟩ := perform_of_entered hcheck hr henter
      by_cases ht : Obstacle.taken.Stands c o r
      · exact .inl ⟨.taken, ⟨ht, hfour⟩, htaken ht⟩
      have hfive : Obstacle.Clears c o r 5 := hfour.past (x := .taken) ht
      by_cases hu : Obstacle.unknown.Stands c o r
      · exact .inl ⟨.unknown, ⟨hu, hfive⟩, hunknown hu⟩
      have hsix : Obstacle.Clears c o r 6 := hfive.past (x := .unknown) hu
      exact .inr ⟨fun x hx => absurd (hsix x hx) (Nat.not_le.mpr x.rank_lt), hdone ht hu⟩

/-- On a date, and with a deadline that is a number or none: if anything stands in the way of a
write there is one obstacle that is met first, and the write shows that one, whatever else stands
there. If nothing does it succeeds. -/
theorem run_first_obstacle (ho : o.IsTimed time) (hr : r.action ≠ .retrieve) :
    ((∃ x : Obstacle, x.Stands c o r) → ∃ x : Obstacle, x.IsFirst c o r) ∧
      (∀ x : Obstacle, x.IsFirst c o r → x.Shows c o r time (run c o r)) ∧
      ((∀ x : Obstacle, ¬x.Stands c o r) → Succeeds c o r time (run c o r)) := by
  rcases run_cases_first (c := c) ho hr with ⟨x, hfirst, hshows⟩ | ⟨hnone, hdone⟩
  · refine ⟨fun _ => ⟨x, hfirst⟩, fun y hy => ?_, fun hno => absurd hfirst.stands (hno x)⟩
    rwa [hy.unique hfirst]
  · have hno : ¬∃ x : Obstacle, x.Stands c o r := fun ⟨x, hx⟩ => hnone x hx
    exact ⟨fun h => absurd h hno, fun x hx => absurd hx.stands (hnone x), fun _ => hdone⟩

/-- The address is taken, and an error for a taken key is in store, with the code of a time limit.
-/
def crowded : Collection :=
  { documents := [("ann@site.org", [])]
    armed := [(.insert, ⟨.duplicateKey, "taken", some 50⟩)] }

/-- There is time left. -/
def inTime : Occasion Moment :=
  { contexts := [{ deadline := some (.real Contexts.fifteenHundred) }]
    now := .real Contexts.thousand
    context := 0 }

/-- A number is a key, some way down. -/
def numbered : Value :=
  .record [("notes", .list () [.dict () [(.int 1, Value.null)]])]

/-- A user with such metadata is refused for them, and one without for the error in store, which is
no time limit. -/
theorem run_first_obstacle_crowded :
    inTime.IsTimed 1704068200 ∧
      Obstacle.unencodable.Shows crowded inTime (.save ⟨"ann@site.org", .text "password", numbered⟩)
        1704068200 (run crowded inTime (.save ⟨"ann@site.org", .text "password", numbered⟩)) ∧
      Obstacle.armed.Shows crowded inTime (.save ⟨"ann@site.org", .text "password", .empty⟩)
        1704068200 (run crowded inTime (.save ⟨"ann@site.org", .text "password", .empty⟩)) := by
  have ho : inTime.IsTimed 1704068200 := by
    refine ⟨⟨_, rfl⟩, rfl, fun d hd => ?_⟩
    cases hd
    exact ⟨_, rfl, by decide⟩
  have htwo : ∀ r, Obstacle.Clears crowded inTime r 2 := by
    intro r
    have hc : ¬Obstacle.cancelled.Stands crowded inTime r := by
      change ¬inTime.contexts.isCancelled inTime.context = true
      decide
    have he : ¬Obstacle.expired.Stands crowded inTime r := by
      rintro ⟨d, x, hd, hx, hle⟩
      cases hd
      cases hx
      exact absurd hle (by decide)
    exact (Obstacle.clears_zero.past (x := .cancelled) hc).past (x := .expired) he
  refine ⟨ho, ?_, ?_⟩
  · apply (run_first_obstacle ho (by decide)).2.1
    exact ⟨⟨.keyType (.int 1), by decide, fun s h => by cases h⟩, htwo _⟩
  · apply (run_first_obstacle ho (by decide)).2.1
    have hfinds := Tree.finds_itemsFault? [Value.text "password", Value.empty]
    exact ⟨⟨_, rfl⟩, (htwo _).past (x := .unencodable) fun ⟨f, hf⟩ => hfinds f hf⟩

end Archive

end Accounts
