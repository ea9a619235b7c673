import Accounts.Proofs.Service.Ownership
import Accounts.Proofs.Session.Course

/-!
What a step does to the users that are held and to the accounts that are stored. The users that are
held stay as they are while an account may change, a field of one of them is edited, one of them gets
nodes of its own or comes to share those of another, an account is opened and its user shares nodes
with the one it was made from, or a part of a node is assigned, wherever the node is.
-/
namespace Accounts.Session

open Repository (Tends)
open Accounts.Tree (IsNumbered)

variable {T α : Type}

/-- The name that the user of an answer is given. -/
def Ask.result? : Ask → Option String
  | .retrieve _ result | .register _ result | .view _ result => result
  | _ => none

/-- The address of the account that an ask is about. -/
def Ask.address? (s : Session T) : Ask → Option String
  | .save user | .updateUser user | .race user _ | .register user _ | .serviceUpdateUser user =>
    (s.held.get? user).map User.email
  | .updatePassword email _ | .retrieve email _ | .view email _ | .serviceUpdatePassword email _
  | .login email _ => some email

/-- The address of the account that a step is about, if it is about one. -/
def Step.address? (s : Session T) : Step T → Option String
  | .ask _ a => a.address? s
  | _ => none

/-- The name under which a step may hold another user or change one. -/
def Step.target? : Step T → Option String
  | .hold name _ | .change name _ => some name
  | .ask _ a => a.result?
  | _ => none

/-- Everything that a step can do to users and accounts. -/
inductive Evolves (s t : Session T) (step : Step T) : Prop where
  | kept (held : t.held = s.held)
    (accounts : Tends (step.address? s) s.repository t.repository)
  | edited {name : String} {c : Change} {u v : User Metadata} (hstep : step = .change name c)
    (hu : s.held.get? name = some u) (hv : v.metadata = u.metadata)
    (held : t.held = s.held.put name v) (accounts : t.repository = s.repository)
  | renewed {name : String} {u : User Metadata} (hstep : step.target? = some name)
    (hnew : IsNumbered s.repository.supply t.repository.supply u.metadata.containers)
    (held : t.held = s.held.put name u)
    (accounts : t.repository.entries = s.repository.entries)
  | registered {context user name : String} {u v : User Metadata} {next : NodeId}
    (hstep : step = .ask context (.register user (some name)))
    (hu : s.held.get? user = some u)
    (hdict : u.metadata.freshDict s.repository.supply = .ok (v.metadata, next))
    (held : t.held = s.held.put name v)
    (accounts : Tends (some u.email) { s.repository with supply := next } t.repository)
  | assigned {name : String} {path : List Value} {v : Value} {u : User Metadata}
    {value node : Metadata} (hstep : step = .change name (.part path v))
    (hu : s.held.get? name = some u)
    (hvalue : IsNumbered s.repository.supply t.repository.supply value.containers)
    (hnode : Tree.assigned path value u.metadata = .ok node)
    (held : t.held = s.held.mapValues fun w => w.withMetadata (Tree.update node w.metadata))
    (accounts : t.repository.entries =
      s.repository.entries.mapValues fun w => w.withMetadata (Tree.update node w.metadata))
  | shared {name source : String} {place : List Value} {u v : User Metadata} {value : Metadata}
    (hstep : step = .change name (.share [] source place))
    (hu : s.held.get? name = some u) (hv : s.held.get? source = some v)
    (hvalue : Tree.descend place v.metadata = .ok value)
    (held : t.held = s.held.put name (u.withMetadata value))
    (accounts : t.repository = s.repository)
  | linked {name source : String} {path place : List Value} {u v : User Metadata}
    {value node : Metadata} (hstep : step = .change name (.share path source place))
    (hu : s.held.get? name = some u) (hv : s.held.get? source = some v)
    (hvalue : Tree.descend place v.metadata = .ok value)
    (hnode : Tree.assigned path value u.metadata = .ok node)
    (houtside : ∀ c ∈ value.containers, c.tag ≠ node.tag)
    (held : t.held = s.held.mapValues fun w => w.withMetadata (Tree.update node w.metadata))
    (supply : t.repository.supply = s.repository.supply)
    (accounts : t.repository.entries =
      s.repository.entries.mapValues fun w => w.withMetadata (Tree.update node w.metadata))

variable {s : Session T} {step : Step T}

/-! ## What leaves the users alone -/

theorem evolves_answer (s : Session T) (step : Step T) (a : Answer T) :
    Evolves s (s.answer a).1 step := .kept rfl (.refl _)

theorem evolves_refuse (s : Session T) (step : Step T) (r : Refusal) :
    Evolves s (s.refuse r).1 step := .kept rfl (.refl _)

theorem evolves_withUser {name : String} {f : User Metadata → Session T × Result T}
    (hf : ∀ u, s.held.get? name = some u → Evolves s (f u).1 step) :
    Evolves s (s.withUser name f).1 step := by
  unfold withUser
  cases hu : s.held.get? name with
  | none => exact evolves_refuse s step _
  | some u => exact hf u hu

/-- What is concluded without a user for the caller. -/
theorem evolves_conclude {out : Outcome T Repository α} {email : String}
    (haddress : step.address? s = some email) (h : Tends (some email) s.repository out.state)
    {rest : Session T → α → Session T × Answer T} (hrest : ∀ t a, (rest t a).1 = t) :
    Evolves s (s.conclude out rest).1 step := by
  rw [← haddress] at h
  unfold conclude
  cases out.result with
  | error f => exact .kept rfl h
  | ok a =>
    simp only [hrest]
    exact .kept rfl h

theorem evolves_concludeDone {out : Outcome T Repository α} {email : String}
    (haddress : step.address? s = some email) (h : Tends (some email) s.repository out.state) :
    Evolves s (s.concludeDone out).1 step := evolves_conclude haddress h fun _ _ => rfl

theorem concludeUser_cases (s : Session T) (name : Option String)
    (out : Outcome T Repository (User Metadata)) :
    (s.concludeUser name out).1 = { s with repository := out.state } ∨
      ∃ n u, name = some n ∧ out.result = .ok u ∧
        (s.concludeUser name out).1 =
          { s with repository := out.state, held := s.held.put n u } := by
  unfold concludeUser conclude
  cases out.result with
  | error f => exact .inl rfl
  | ok u =>
    cases name with
    | none => exact .inl rfl
    | some n => exact .inr ⟨n, u, rfl, rfl, rfl⟩

/-! ## Users -/

theorem entries_mapMetadata (f : Metadata → Metadata) (r : Repository) :
    (r.mapMetadata f).entries = r.entries.mapValues fun u => u.withMetadata (f u.metadata) := by
  obtain ⟨backend, supply⟩ := r
  cases backend <;> rfl

theorem supply_mapMetadata (f : Metadata → Metadata) (r : Repository) :
    (r.mapMetadata f).supply = r.supply := by
  obtain ⟨backend, supply⟩ := r
  cases backend <;> rfl

/-- An assignment puts the node in its new form wherever it is held. -/
theorem held_updateNode {name : String} {u : User Metadata} (hu : s.held.get? name = some u)
    (node : Metadata) : (s.updateNode name u node).1.held =
      s.held.mapValues fun w => w.withMetadata (Tree.update node w.metadata) := by
  refine Table.put_self ?_
  rw [Table.get?_mapValues]
  exact congrArg _ hu

theorem evolves_assignHeld {name source : String} {place : List Value} {u v : User Metadata}
    {value : Metadata} (hu : s.held.get? name = some u) (hv : s.held.get? source = some v)
    (hvalue : Tree.descend place v.metadata = .ok value) (path : List Value) :
    Evolves s (s.assignHeld name u value path).1 (.change name (.share path source place)) := by
  cases path with
  | nil => exact .shared rfl hu hv hvalue rfl rfl
  | cons first path =>
    simp only [assignHeld]
    cases hnode : Tree.assigned (first :: path) value u.metadata with
    | error e => exact evolves_refuse s _ _
    | ok node =>
      simp only
      split
      · exact evolves_refuse s _ _
      · next houtside =>
        exact .linked rfl hu hv hvalue hnode (fun c hc heq => houtside ⟨c, hc, heq⟩)
          (held_updateNode hu node) (supply_mapMetadata _ _) (entries_mapMetadata _ _)

theorem evolves_changeUser {name : String} {u : User Metadata} (hu : s.held.get? name = some u)
    (c : Change) : Evolves s (s.changeUser name u c).1 (.change name c) := by
  cases c with
  | email e => exact .edited (v := { u with email := e }) rfl hu rfl rfl rfl
  | password p => exact .edited (v := { u with password := p }) rfl hu rfl rfl rfl
  | metadata v =>
    have hnew := Tree.isNumbered_build s.repository.supply v
    exact .renewed (u := u.withMetadata (v.build s.repository.supply).1) rfl hnew rfl rfl
  | part path v =>
    have hvalue := Tree.isNumbered_build s.repository.supply v
    simp only [changeUser]
    cases hnode : Tree.assigned path (v.build s.repository.supply).1 u.metadata with
    | error e => exact .kept rfl (.of_entries hvalue.le rfl)
    | ok node =>
      have hsupply : ((s.withSupply (v.build s.repository.supply).2).updateNode name u
          node).1.repository.supply = (v.build s.repository.supply).2 := supply_mapMetadata _ _
      refine .assigned rfl hu ?_ hnode ?_ (entries_mapMetadata _ _)
      · rw [hsupply]
        exact hvalue
      · exact held_updateNode (s := s.withSupply (v.build s.repository.supply).2) hu node
  | share path source place =>
    refine evolves_withUser fun v hv => ?_
    cases hvalue : Tree.descend place v.metadata with
    | error e => exact evolves_refuse s _ _
    | ok value => exact evolves_assignHeld hu hv hvalue path

theorem evolves_seed (s : Session T) (document : Value) :
    Evolves s (s.seed document).1 (.seed document) := by
  unfold seed
  split
  · exact evolves_answer s _ _
  · next c hc =>
    split
    · exact evolves_refuse s _ _
    · simp only
      split
      · exact evolves_refuse s _ _
      · refine .kept rfl (.of_entries (Nat.le_refl _) ?_)
        simp only [Repository.entries, hc]
        rfl

theorem tends_failWith (message : Option String) (email : Option String) (r : Repository) :
    Tends email r (r.failWith message) := by
  obtain ⟨backend, supply⟩ := r
  cases backend with
  | directory d => exact .of_entries (Nat.le_refl _) rfl
  | archive c => exact .refl _

theorem tends_arm (m : Method) (e : StorageError) (email : Option String) (r : Repository) :
    Tends email r (r.arm m e) := by
  obtain ⟨backend, supply⟩ := r
  cases backend with
  | directory d => exact .refl _
  | archive c => exact .of_entries (Nat.le_refl _) rfl

/-! ## Asks -/

variable [Timeline T] {o : Occasion T}

theorem tends_race (o : Occasion T) (u : User Metadata) (n : Nat) (r : Repository) :
    Tends (some u.email) r (race o u n r).2.1 := by
  induction n generalizing r with
  | zero => exact .refl r
  | succ n ih => exact (Repository.tends_run r o (.save u)).trans (ih _)

theorem evolves_view (email : String) {result : Option String} (hstep : step.target? = result)
    (haddress : step.address? s = some email) :
    Evolves s (s.concludeUser result (Service.viewUser s.repository o email)).1 step := by
  rcases concludeUser_cases s result (Service.viewUser s.repository o email) with
    hx | ⟨name, u, rfl, hu, hx⟩
  · rw [hx]
    exact .kept rfl (haddress ▸ Service.tends_viewUser email)
  · rw [hx]
    exact .renewed hstep (Service.isNumbered_of_viewUser hu) rfl
      (Repository.entries_run_retrieve s.repository o email)

theorem evolves_register {context user : String} {u : User Metadata}
    (hu : s.held.get? user = some u) (result : Option String) :
    Evolves s (s.concludeUser result (Service.register s.hasher s.repository o u)).1
      (.ask context (.register user result)) := by
  rcases concludeUser_cases s result (Service.register s.hasher s.repository o u) with
    hx | ⟨name, v, rfl, hv, hx⟩
  · rw [hx]
    have haddress : Step.address? s (.ask context (.register user result)) = some u.email :=
      congrArg (Option.map User.email) hu
    exact .kept rfl (haddress ▸ Service.tends_register s.hasher u)
  · rw [hx]
    obtain ⟨next, reply, he, -⟩ := Service.register_of_ok hv
    exact .registered rfl hu (Service.freshDict_of_enrolled he).2 rfl
      (Service.tends_register_of_enrolled he)

theorem evolves_perform (context : String) (o : Occasion T) (a : Ask) :
    Evolves s (s.perform o a).1 (.ask context a) := by
  -- What is asked with a user that is held is about its address.
  have haddress : ∀ {user : String} {u : User Metadata}, s.held.get? user = some u →
      (s.held.get? user).map User.email = some u.email := fun hu => congrArg _ hu
  cases a with
  | save user =>
    exact evolves_withUser fun u hu => evolves_concludeDone (haddress hu)
      (Repository.tends_run s.repository o (.save u))
  | updateUser user =>
    exact evolves_withUser fun u hu => evolves_concludeDone (haddress hu)
      (Repository.tends_run s.repository o (.updateUser u))
  | updatePassword email password =>
    exact evolves_concludeDone rfl
      (Repository.tends_run s.repository o (.updatePassword email password))
  | retrieve email result => exact evolves_view email rfl rfl
  | race user count =>
    refine evolves_withUser fun u hu => .kept rfl ?_
    have hrace := tends_race o u count s.repository
    rw [← haddress hu] at hrace
    exact hrace
  | register user result => exact evolves_withUser fun u hu => evolves_register hu result
  | view email result => exact evolves_view email rfl rfl
  | serviceUpdateUser user =>
    exact evolves_withUser fun u hu => evolves_concludeDone (haddress hu)
      (Service.tends_updateUser u)
  | serviceUpdatePassword email password =>
    exact evolves_concludeDone rfl (Service.tends_updatePassword s.hasher email password)
  | login email password =>
    exact evolves_conclude rfl (Service.tends_login s.hasher email password) fun _ _ => rfl

/-! ## Steps -/

theorem evolves_create (s : Session T) (name : String) (origin : Origin T) (step : Step T) :
    Evolves s (s.create name origin).1 step := by
  cases origin with
  | background => exact .kept rfl (.refl _)
  | timeout seconds parent =>
    simp only [create]
    cases s.parent parent with
    | error r => exact evolves_refuse s step r
    | ok p =>
      simp only
      cases Timeline.add? s.now seconds with
      | some d => exact .kept rfl (.refl _)
      | none => exact evolves_refuse s step _
  | deadline d parent =>
    simp only [create]
    cases s.parent parent with
    | error r => exact evolves_refuse s step r
    | ok p => exact .kept rfl (.refl _)

theorem evolves_inquire (s : Session T) (id : Nat) (inquiry : Inquiry) (step : Step T) :
    Evolves s (s.inquire id inquiry).1 step := by
  have hmoment : ∀ m, Evolves s (s.answerMoment m).1 step := by
    intro m
    cases m with
    | ok t => exact evolves_answer s step _
    | error e => exact evolves_refuse s step _
  cases inquiry with
  | cancel => exact .kept rfl (.refl _)
  | remaining => exact hmoment _
  | check => exact hmoment _
  | isCancelled | deadline => exact evolves_answer s step _

/-- Every step does one of these things. -/
theorem evolves_step (s : Session T) (step : Step T) : Evolves s (s.step step).1 step := by
  cases step with
  | advance time =>
    simp only [Session.step]
    cases Timeline.add? s.now time with
    | some now => exact .kept rfl (.refl _)
    | none => exact evolves_refuse s _ _
  | create name origin => exact evolves_create s name origin _
  | inquire context inquiry =>
    simp only [Session.step]
    cases s.named.get? context with
    | some id => exact evolves_inquire s id inquiry _
    | none => exact evolves_refuse s _ _
  | hold name user =>
    have hnew := Tree.isNumbered_build s.repository.supply user.metadata
    exact .renewed (u := (user.build s.repository.supply).1) rfl hnew rfl rfl
  | change user c => exact evolves_withUser fun u hu => evolves_changeUser hu c
  | look user => exact evolves_withUser fun u _ => evolves_answer s _ _
  | equal first second =>
    exact evolves_withUser fun u _ => evolves_withUser fun v _ => evolves_answer s _ _
  | validate user =>
    refine evolves_withUser fun u _ => ?_
    cases u.validate with
    | ok _ => exact evolves_answer s _ _
    | error f => exact evolves_refuse s _ _
  | ask context a =>
    simp only [Session.step]
    cases s.named.get? context with
    | some id => exact evolves_perform context (s.occasion id) a
    | none => exact evolves_refuse s _ _
  | failWith message => exact .kept rfl (tends_failWith message _ s.repository)
  | arm m e => exact .kept rfl (tends_arm m e _ s.repository)
  | seed document => exact evolves_seed s document
  | dump => exact evolves_answer s _ _

end Accounts.Session
