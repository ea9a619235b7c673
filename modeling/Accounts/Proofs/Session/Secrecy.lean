import Accounts.Proofs.Service.Secrecy
import Accounts.Proofs.Session.Reach
import Accounts.Proofs.Session.Veil

/-!
Sessions that differ in nothing but passwords. What a step shows is its log lines, its answer and
its calls of the driver, with a veil over the passwords; whether a login succeeds and whether two
users are equal is behind the veil too. Whichever texts the passwords are, every step shows the
same, as long as the service treats alike what it is given to hash and the driver does not quote the
passwords of what it cannot encode.
-/
namespace Accounts.Session

variable {T : Type}

/-! ## Steps that do not look at passwords -/

/-- An operation that does not look at a password. -/
def Ask.IsOpen : Ask → Prop
  | .register .. | .serviceUpdatePassword .. | .login .. => False
  | _ => True

def Step.IsOpen : Step T → Prop
  | .equal .. | .validate _ => False
  | .ask _ a => a.IsOpen
  | _ => True

theorem isOpen_veiled (step : Step T) : step.veiled.IsOpen ↔ step.IsOpen := by
  cases step with
  | ask context a => cases a <;> exact Iff.rfl
  | _ => exact Iff.rfl

theorem seen_of_isOpen {step : Step T} (h : step.IsOpen) : step.seen = behindVeil := by
  cases step with
  | equal first second => exact h.elim
  | ask context a =>
    cases a with
    | login email password => exact h.elim
    | _ => rfl
  | _ => rfl

section

variable [Timeline T]

theorem create_veiled (s : Session T) (name : String) (origin : Origin T) :
    s.veiled.create name origin = behindVeil (s.create name origin) := by
  have hparent : ∀ p, s.veiled.parent p = s.parent p := fun p => by cases p <;> rfl
  cases origin with
  | background => rfl
  | timeout seconds p =>
    have hnow : s.veiled.now = s.now := rfl
    simp only [create, hparent, hnow]
    cases s.parent p with
    | error r => rfl
    | ok id =>
      simp only
      cases Timeline.add? s.now seconds <;> rfl
  | deadline d p =>
    simp only [create, hparent]
    cases s.parent p <;> rfl

theorem inquire_veiled (s : Session T) (id : Nat) (inquiry : Inquiry) :
    s.veiled.inquire id inquiry = behindVeil (s.inquire id inquiry) := by
  have hmoment : ∀ m : Except ContextError (Option T),
      s.veiled.answerMoment m = behindVeil (s.answerMoment m) := fun m => by cases m <;> rfl
  cases inquiry with
  | remaining => exact hmoment (s.contexts.remaining s.now id)
  | check => exact hmoment (s.contexts.check s.now id)
  | _ => rfl

theorem race_veiled {r : Repository} (hr : r.IsDiscreet) (o : Occasion T) (u : User Metadata)
    (count : Nat) : race o u.veiled count r.veiled =
      ((race o u count r).1, (race o u count r).2.1.veiled,
        (race o u count r).2.2.map Event.veiled) := by
  induction count generalizing r with
  | zero => rfl
  | succ n ih =>
    have hrun : r.veiled.run o (.save u.veiled) = _ := Repository.run_veiled hr o (.save u)
    have hrest := ih (hr.run o (.save u))
    simp only [race, hrun]
    simp only [Outcome.veiled, hrest, List.map_append]
    cases (r.run o (.save u)).result <;> rfl

theorem perform_veiled {s : Session T} (hs : s.repository.IsDiscreet) (o : Occasion T) {a : Ask}
    (h : a.IsOpen) :
    s.veiled.perform o a.veiled = behindVeil (s.perform o a) := by
  have hrun : ∀ r, s.veiled.repository.run o (Request.veiled r) =
      (s.repository.run o r).veiled Reply.veiled Repository.veiled := Repository.run_veiled hs o
  have hview : ∀ email, Service.viewUser s.veiled.repository o email =
      (Service.viewUser s.repository o email).veiled User.veiled Repository.veiled :=
    Service.viewUser_veiled hs o
  cases a with
  | save user =>
    refine withUser_veiled fun u => ?_
    rw [← concludeDone_veiled, ← hrun]
    rfl
  | updateUser user =>
    refine withUser_veiled fun u => ?_
    rw [← concludeDone_veiled, ← hrun]
    rfl
  | updatePassword email password =>
    simp only [perform]
    rw [← concludeDone_veiled, ← hrun]
    rfl
  | retrieve email result =>
    simp only [perform, Ask.veiled, hview]
    exact concludeUser_veiled s result _
  | view email result =>
    simp only [perform, Ask.veiled, hview]
    exact concludeUser_veiled s result _
  | race user count =>
    refine withUser_veiled fun u => ?_
    have hrace : race o u.veiled count s.veiled.repository = _ :=
      race_veiled hs o u count
    simp only [hrace]
    rfl
  | serviceUpdateUser user =>
    refine withUser_veiled fun u => ?_
    have hupdate : Service.updateUser s.veiled.repository o u.veiled = _ :=
      Service.updateUser_veiled hs o u
    rw [← concludeDone_veiled, hupdate]
  | register user result => exact h.elim
  | serviceUpdatePassword email password => exact h.elim
  | login email password => exact h.elim

/-- A step that does not look at a password does the same before and behind the veil. -/
theorem step_veiled {s : Session T} (hs : s.repository.IsDiscreet) {step : Step T} (h : step.IsOpen) :
    s.veiled.step step.veiled = behindVeil (s.step step) := by
  cases step with
  | advance time =>
    have hnow : s.veiled.now = s.now := rfl
    simp only [Session.step, Step.veiled, hnow]
    cases Timeline.add? s.now time <;> rfl
  | create name origin => exact create_veiled s name origin
  | inquire context inquiry =>
    have hnamed : s.veiled.named = s.named := rfl
    simp only [Session.step, Step.veiled, hnamed]
    cases s.named.get? context with
    | none => rfl
    | some id => exact inquire_veiled s id inquiry
  | hold name u =>
    exact keepAnswered_veiled (s.withSupply (u.build s.repository.supply).2) name
      (u.build s.repository.supply).1
  | change user c => exact withUser_veiled fun u => changeUser_veiled s user u c
  | look user => exact withUser_veiled fun u => rfl
  | ask context a =>
    have hnamed : s.veiled.named = s.named := rfl
    simp only [Session.step, Step.veiled, hnamed]
    cases s.named.get? context with
    | none => rfl
    | some id => exact perform_veiled hs (s.occasion id) h
  | failWith message =>
    have hfail := failWith_veiled s.repository message
    exact congrArg (fun r => { s.veiled with repository := r }.answer .done) hfail
  | arm m e =>
    have harm := arm_veiled s.repository m e
    exact congrArg (fun r => { s.veiled with repository := r }.answer .done) harm
  | seed document => exact seed_veiled hs document
  | dump =>
    simp only [Session.step, Step.veiled, dump_veiled]
    rfl
  | equal first second => exact h.elim
  | validate user => exact h.elim

end

/-! ## The words of the driver -/

section

variable {s : Session T}

theorem wording?_withUser {name : String} {f : User Metadata → Session T × Result T}
    (hf : ∀ u, (f u).1.repository.wording? = s.repository.wording?) :
    (s.withUser name f).1.repository.wording? = s.repository.wording? := by
  unfold withUser
  split
  · exact hf _
  · rfl

theorem wording?_assignHeld (s : Session T) (name : String) (u : User Metadata) (node : Metadata)
    (path : List Value) :
    (s.assignHeld name u node path).1.repository.wording? = s.repository.wording? := by
  unfold assignHeld
  split
  · rfl
  · split
    · split
      · rfl
      · exact Repository.wording?_mapMetadata _ _
    · rfl

theorem wording?_changeUser (s : Session T) (name : String) (u : User Metadata) (c : Change) :
    (s.changeUser name u c).1.repository.wording? = s.repository.wording? := by
  cases c with
  | part path v =>
    simp only [changeUser]
    split
    · next node _ => exact Repository.wording?_mapMetadata _ _
    · rfl
  | share path source place =>
    refine wording?_withUser fun v => ?_
    cases Tree.descend place v.metadata with
    | ok node => exact wording?_assignHeld s name u node path
    | error e => rfl
  | _ => rfl

theorem wording?_seed (s : Session T) (document : Value) :
    (s.seed document).1.repository.wording? = s.repository.wording? := by
  obtain ⟨now, contexts, named, held, ⟨backend, supply⟩, hasher⟩ := s
  cases backend with
  | directory d => rfl
  | archive c =>
    simp only [seed]
    split
    · rfl
    · split <;> rfl

variable [Timeline T]

theorem wording?_race (o : Occasion T) (u : User Metadata) (n : Nat) (r : Repository) :
    (race o u n r).2.1.wording? = r.wording? := by
  induction n generalizing r with
  | zero => rfl
  | succ n ih => exact (ih _).trans (Repository.wording?_run r o (.save u))

theorem wording?_perform (s : Session T) (o : Occasion T) (a : Ask) :
    (s.perform o a).1.repository.wording? = s.repository.wording? := by
  by_cases hr : ∃ r, s.Reaches a r
  · obtain ⟨r, hr⟩ := hr
    obtain ⟨supply, hshows⟩ := shows_perform hr o
    exact (Repository.wording?_of_backend hshows.backend).trans (Repository.wording?_run _ o r)
  by_cases hrace : ∃ user n, a = .race user n
  · obtain ⟨user, n, rfl⟩ := hrace
    exact wording?_withUser fun u => wording?_race o u n s.repository
  · have hidle := isIdle_perform (not_exists.mp hr) (fun user n h => hrace ⟨user, n, h⟩) o
    exact Repository.wording?_of_backend hidle.backend

/-- No step gives the driver other words. -/
theorem wording?_step (s : Session T) (step : Step T) :
    (s.step step).1.repository.wording? = s.repository.wording? := by
  cases step with
  | advance time =>
    simp only [Session.step]
    split <;> rfl
  | create name origin =>
    cases origin with
    | background => rfl
    | timeout seconds parent =>
      simp only [Session.step, create]
      split
      · rfl
      · split <;> rfl
    | deadline d parent =>
      simp only [Session.step, create]
      split <;> rfl
  | inquire context inquiry =>
    simp only [Session.step]
    split
    · cases inquiry with
      | remaining | check =>
        simp only [inquire, answerMoment]
        split <;> rfl
      | _ => rfl
    · rfl
  | change user c => exact wording?_withUser fun u => wording?_changeUser s user u c
  | look user => exact wording?_withUser fun u => rfl
  | equal first second => exact wording?_withUser fun u => wording?_withUser fun v => rfl
  | validate user =>
    refine wording?_withUser fun u => ?_
    split <;> rfl
  | ask context a =>
    simp only [Session.step]
    split
    · exact wording?_perform s _ a
    · rfl
  | failWith message => exact Repository.wording?_failWith message s.repository
  | arm m e => exact Repository.wording?_arm m e s.repository
  | seed document => exact wording?_seed s document
  | hold name u => rfl
  | dump => rfl

theorem isDiscreet_step (hs : s.repository.IsDiscreet) (step : Step T) :
    (s.step step).1.repository.IsDiscreet := by
  rw [Repository.IsDiscreet, wording?_step]
  exact hs

end

/-! ## Steps of two sessions -/

/-- What two steps hand over to be checked or hashed is treated alike. -/
def Fit (s t : Session T) : Step T → Step T → Prop
  | .validate user, .validate _ => ∀ u v, s.held.get? user = some u → t.held.get? user = some v →
    u.password.LengthAlike v.password
  | .ask _ (.register user _), .ask _ (.register _ _) => ∀ u v, s.held.get? user = some u →
    t.held.get? user = some v → s.hasher.TreatsAlike u.password v.password
  | .ask _ (.serviceUpdatePassword _ p), .ask _ (.serviceUpdatePassword _ q) =>
    s.hasher.TreatsAlike p q
  | _, _ => True

section

variable {s t : Session T} (hs : s.repository.IsDiscreet) (h : s.veiled = t.veiled)
include h

theorem hasher_alike : s.hasher = t.hasher := by
  have hhasher : s.veiled.hasher = t.veiled.hasher := congrArg Session.hasher h
  exact hhasher

theorem repository_alike : s.repository.veiled = t.repository.veiled :=
  congrArg Session.repository h

theorem behindVeil_refuse (r : Refusal) : behindVeil (s.refuse r) = behindVeil (t.refuse r) :=
  congrArg (fun v => (v, Result.mk (.error r) [])) h

theorem hidden_refuse (r : Refusal) : hidden (s.refuse r) = hidden (t.refuse r) :=
  congrArg (fun v => (v, Result.mk (.error r) [])) h

/-- What needs a user finds one on both sides, or on neither. -/
theorem withUser_alike {γ : Type} {see : Session T × Result T → γ} {name : String}
    {f g : User Metadata → Session T × Result T}
    (hrefuse : ∀ r, see (s.refuse r) = see (t.refuse r))
    (hfg : ∀ u v, s.held.get? name = some u → t.held.get? name = some v → u.veiled = v.veiled →
      see (f u) = see (g v)) :
    see (s.withUser name f) = see (t.withUser name g) := by
  have hheld : s.held.mapValues User.veiled = t.held.mapValues User.veiled :=
    congrArg Session.held h
  have hget := congrArg (fun held => held.get? name) hheld
  simp only [Table.get?_mapValues] at hget
  unfold withUser
  cases hs : s.held.get? name with
  | none =>
    cases ht : t.held.get? name with
    | none => exact hrefuse _
    | some v =>
      rw [hs, ht] at hget
      cases hget
  | some u =>
    cases ht : t.held.get? name with
    | none =>
      rw [hs, ht] at hget
      cases hget
    | some v =>
      rw [hs, ht] at hget
      exact hfg u v hs ht (Option.some.inj hget)

variable [Timeline T]

theorem seen_validate {user : String} (hfit : Fit s t (.validate user) (.validate user)) :
    behindVeil (s.step (.validate user)) = behindVeil (t.step (.validate user)) := by
  refine withUser_alike h (behindVeil_refuse h) fun u v hu hv huv => ?_
  rw [User.validate_alike huv (hfit u v hu hv)]
  cases v.validate with
  | error f => exact behindVeil_refuse h _
  | ok _ => exact congrArg (fun v => (v, Result.mk (.ok .done) [])) h

theorem seen_equal (first second : String) :
    hidden (s.step (.equal first second)) = hidden (t.step (.equal first second)) := by
  refine withUser_alike h (hidden_refuse h) fun u v _ _ _ => ?_
  refine withUser_alike h (hidden_refuse h) fun u' v' _ _ _ => ?_
  exact congrArg (fun v => (v, Result.mk (.ok .done) [])) h

include hs

theorem seen_register (o : Occasion T) {user : String} (result : Option String)
    (hfit : ∀ u v, s.held.get? user = some u → t.held.get? user = some v →
      s.hasher.TreatsAlike u.password v.password) :
    behindVeil (s.perform o (.register user result)) =
      behindVeil (t.perform o (.register user result)) := by
  refine withUser_alike h (behindVeil_refuse h) fun u v hu hv huv => ?_
  have hregister := Service.register_alike (o := o) hs (repository_alike h) huv (hfit u v hu hv)
  rw [← concludeUser_veiled, ← concludeUser_veiled, ← hasher_alike h, hregister, h]

theorem seen_updatePassword (o : Occasion T) (email : String) {p q : Value}
    (hpq : p.veiled = q.veiled) (hfit : s.hasher.TreatsAlike p q) :
    behindVeil (s.perform o (.serviceUpdatePassword email p)) =
      behindVeil (t.perform o (.serviceUpdatePassword email q)) := by
  have hupdate := Service.updatePassword_alike (o := o) hs (repository_alike h) email hpq hfit
  simp only [perform]
  rw [← concludeDone_veiled, ← concludeDone_veiled, ← hasher_alike h, hupdate, h]

theorem seen_login (o : Occasion T) (email : String) {p q : Value} (hpq : p.veiled = q.veiled) :
    hidden (s.perform o (.login email p)) = hidden (t.perform o (.login email q)) := by
  have hconclude : ∀ (s : Session T) (out : Outcome T Repository Bool),
      hidden (s.conclude out fun t b => (t, .truth b)) =
        s.veiled.concludeDone (out.veiled (fun _ => ()) Repository.veiled) := by
    rintro s ⟨result, state, events⟩
    cases result <;> rfl
  have hlogin := Service.login_alike (o := o) hs (repository_alike h) s.hasher email hpq
  simp only [perform]
  rw [hconclude, hconclude, ← hasher_alike h, hlogin, h]

omit hs in
/-- Whatever is asked is asked on the same occasion. -/
theorem seen_ask {γ : Type} {see : Session T × Result T → γ} {context : String} {a b : Ask}
    (hrefuse : ∀ r, see (s.refuse r) = see (t.refuse r))
    (hperform : ∀ o, see (s.perform o a) = see (t.perform o b)) :
    see (s.step (.ask context a)) = see (t.step (.ask context b)) := by
  have hnamed : s.veiled.named = t.veiled.named := congrArg Session.named h
  have hoccasion : ∀ id, s.veiled.occasion id = t.veiled.occasion id := by
    rw [h]
    exact fun _ => rfl
  change s.named = t.named at hnamed
  change ∀ id, s.occasion id = t.occasion id at hoccasion
  simp only [Session.step, hnamed, hoccasion]
  cases t.named.get? context with
  | none => exact hrefuse _
  | some id => exact hperform _

/-- Operations that look at passwords show of them only what the service treats alike. -/
theorem seen_closed {context : String} {a b : Ask} (hclosed : ¬a.IsOpen)
    (hab : a.veiled = b.veiled) (hfit : Fit s t (.ask context a) (.ask context b)) :
    (Step.ask context a).seen (s.step (.ask context a)) =
      (Step.ask context b).seen (t.step (.ask context b)) := by
  cases a with
  | register user result =>
    obtain rfl : b = .register user result := by
      cases b with
      | register user' result' =>
        cases hab
        rfl
      | _ => cases hab
    exact seen_ask h (behindVeil_refuse h) fun o => seen_register hs h o result hfit
  | serviceUpdatePassword email password =>
    obtain ⟨other, rfl, hv⟩ : ∃ other, b = .serviceUpdatePassword email other ∧
        password.veiled = other.veiled := by
      cases b with
      | serviceUpdatePassword email' other =>
        simp only [Ask.veiled, Ask.serviceUpdatePassword.injEq] at hab
        obtain ⟨rfl, hv⟩ := hab
        exact ⟨other, rfl, hv⟩
      | _ => cases hab
    exact seen_ask h (behindVeil_refuse h) fun o => seen_updatePassword hs h o email hv hfit
  | login email password =>
    obtain ⟨other, rfl, hv⟩ : ∃ other, b = .login email other ∧
        password.veiled = other.veiled := by
      cases b with
      | login email' other =>
        simp only [Ask.veiled, Ask.login.injEq] at hab
        obtain ⟨rfl, hv⟩ := hab
        exact ⟨other, rfl, hv⟩
      | _ => cases hab
    exact seen_ask h (hidden_refuse h) fun o => seen_login hs h o email hv
  | _ => exact (hclosed trivial).elim

end

variable [Timeline T]

/-- Steps that differ in passwords only are seen to do the same. -/
theorem seen_step {s t : Session T} (hs : s.repository.IsDiscreet) (h : s.veiled = t.veiled) {p q : Step T}
    (hpq : p.veiled = q.veiled) (hfit : Fit s t p q) : p.seen (s.step p) = q.seen (t.step q) := by
  by_cases hopen : p.IsOpen
  -- an open step can be taken behind the veil, where both sessions are the same
  · have hopen' : q.IsOpen := by
      rw [← isOpen_veiled, ← hpq, isOpen_veiled]
      exact hopen
    have ht : t.repository.IsDiscreet := hs.of_veiled_eq (repository_alike h)
    rw [seen_of_isOpen hopen, seen_of_isOpen hopen', ← step_veiled hs hopen,
      ← step_veiled ht hopen', h, hpq]
  · cases p with
    | validate user =>
      obtain rfl : q = .validate user := by
        cases q with
        | validate other =>
          cases hpq
          rfl
        | _ => cases hpq
      exact seen_validate h hfit
    | equal first second =>
      obtain rfl : q = .equal first second := by
        cases q with
        | equal first' second' =>
          cases hpq
          rfl
        | _ => cases hpq
      exact seen_equal h first second
    | ask context a =>
      obtain ⟨b, rfl, hab⟩ : ∃ b, q = .ask context b ∧ a.veiled = b.veiled := by
        cases q with
        | ask context' b =>
          simp only [Step.veiled, Step.ask.injEq] at hpq
          obtain ⟨rfl, hab⟩ := hpq
          exact ⟨b, rfl, hab⟩
        | _ => cases hpq
      exact seen_closed hs h hopen hab hfit
    | _ => exact (hopen trivial).elim

/-! ## Runs -/

/-- What anybody sees of a step. -/
structure Sight (T : Type) where
  lines : List (List Char)
  answer : Except Refusal (Answer T)
  calls : List (DriverCall T)

/-- What anybody sees of the steps of a run. -/
def sights (s : Session T) : List (Option String × Step T) → List (Sight T)
  | [] => []
  | (salt, step) :: steps =>
    let x := (s.draw salt).step step
    let result := (step.seen x).2
    ⟨x.1.lines x.2, result.answer, result.calls⟩ :: sights x.1 steps

/-- Step by step, two runs hand over to be checked or hashed what is treated alike. -/
def FitThroughout (s t : Session T) :
    List (Option String × Step T) → List (Option String × Step T) → Prop
  | (salt, p) :: ps, (salt', q) :: qs => Fit (s.draw salt) (t.draw salt') p q ∧
    FitThroughout ((s.draw salt).step p).1 ((t.draw salt').step q).1 ps qs
  | _, _ => True

/-- Log lines do not show passwords. -/
theorem lines_of_seen {p q : Step T} {x y : Session T × Result T} (h : p.seen x = q.seen y) :
    x.1.lines x.2 = y.1.lines y.2 := by
  have hentries : x.2.entries = y.2.entries :=
    (entries_seen p x).symm.trans ((congrArg (fun z => z.2.entries) h).trans (entries_seen q y))
  have hveiled : x.1.veiled = y.1.veiled := veiled_of_seen h
  have hnow : x.1.veiled.now = y.1.veiled.now := congrArg Session.now hveiled
  change x.1.now = y.1.now at hnow
  simp only [lines, hnow, hentries]

/-- Two runs that differ in passwords only, and whose passwords the service treats alike, show the
same at every step: the log lines, the answer or the failure with its cause, and the calls of the
driver. The driver may word its errors as it likes, but not quote the passwords of what it cannot
encode. -/
theorem passwords_unseen {s t : Session T} (hs : s.repository.IsDiscreet) (h : s.veiled = t.veiled)
    {steps steps' : List (Option String × Step T)}
    (hsteps : steps.map (fun p => (p.1, p.2.veiled)) = steps'.map fun p => (p.1, p.2.veiled))
    (hfit : FitThroughout s t steps steps') : s.sights steps = t.sights steps' := by
  induction steps generalizing s t steps' with
  | nil =>
    cases steps' with
    | nil => rfl
    | cons q qs => cases hsteps
  | cons p ps ih =>
    cases steps' with
    | nil => cases hsteps
    | cons q qs =>
      obtain ⟨salt, p⟩ := p
      obtain ⟨salt', q⟩ := q
      simp only [List.map_cons, List.cons.injEq, Prod.mk.injEq] at hsteps
      obtain ⟨⟨rfl, hpq⟩, hrest⟩ := hsteps
      obtain ⟨hone, hall⟩ := hfit
      have hdrawn : (s.draw salt).veiled = (t.draw salt).veiled := by
        rw [← draw_veiled, ← draw_veiled, h]
      have hdiscreet : (s.draw salt).repository.IsDiscreet := by cases salt <;> exact hs
      have hseen := seen_step hdiscreet hdrawn hpq hone
      have hnext := isDiscreet_step hdiscreet p
      simp only [sights, hseen, lines_of_seen hseen, ih hnext (veiled_of_seen hseen) hrest hall]

/-- An account is opened, opened again, given other passwords and logged in to; in between the
driver fails, a deadline is too far away to be expressed, and metadata cannot be encoded. -/
def confiding (first second third : String) : List (Option String × Step Moment) :=
  [(none, .hold "u" { email := "ann@site.org", password := .text first, metadata := .empty }),
    (none, .ask "bg" (.register "u" none)),
    (none, .ask "bg" (.save "u")),
    (none, .arm .update ⟨.other "AutoReconnect", "lost", none⟩),
    (none, .ask "bg" (.serviceUpdatePassword "ann@site.org" (.text second))),
    (none, .ask "bg" (.updatePassword "ann@site.org" (.text third))),
    (none, .create "far" (.deadline (some (.whole (twoPow 1024))) none)),
    (none, .ask "far" (.save "u")),
    (none, .change "u" (.metadata (.record [("size", .atom () (.int (twoPow 63)))]))),
    (none, .ask "bg" (.save "u")),
    (none, .ask "bg" (.login "ann@site.org" (.text first))),
    (none, .dump)]

theorem passwords_unseen_confiding :
    (start (.real Double.zero) (.archive {}) .reversing).sights
        (confiding "password one" "password" "x") =
      (start (.real Double.zero) (.archive {}) .reversing).sights
        (confiding "password three" "password four" "fake-hash:eerht drowssap") := by
  have hlong : ∀ a b : String, leastPasswordLength ≤ a.length → leastPasswordLength ≤ b.length →
      Hasher.TreatsAlike .reversing (.text a) (.text b) := by
    intro a b ha hb
    refine ⟨?_, trivial⟩
    rintro a' b' h h'
    cases h
    cases h'
    exact iff_of_true ha hb
  have hdiscreet : (start (Moment.real .zero) (.archive {}) .reversing).repository.IsDiscreet := by
    intro wording hwording
    cases hwording
    exact fun _ _ => rfl
  refine passwords_unseen hdiscreet rfl rfl
    ⟨trivial, ?_, trivial, trivial, hlong _ _ (by decide) (by decide), trivial, trivial, trivial,
      trivial, trivial, trivial, trivial, trivial⟩
  intro u v hu hv
  cases hu
  cases hv
  exact hlong _ _ (by decide) (by decide)

end Accounts.Session
