import Accounts.Proofs.Service.Relay
import Accounts.Session.Run

/-!
What is asked of a session and what comes of it in the repository. An ask either reaches the
repository with one request, and then shows the calls, the backend and the failure of that request,
or it leaves the repository as it is. Only savers in a race make several requests.
-/
namespace Accounts.Session

variable {T α : Type}

/-- The request that an ask makes of the repository. What the service is given has to be valid, and
its password has to be hashed. -/
inductive Reaches (s : Session T) : Ask → Request Metadata → Prop where
  | save {user : String} {u : User Metadata} (hu : s.held.get? user = some u) :
    Reaches s (.save user) (.save u)
  | updateUser {user : String} {u : User Metadata} (hu : s.held.get? user = some u) :
    Reaches s (.updateUser user) (.updateUser u)
  | updatePassword (email : String) (password : Value) :
    Reaches s (.updatePassword email password) (.updatePassword email password)
  | retrieve (email : String) (result : Option String) :
    Reaches s (.retrieve email result) (.retrieve email)
  | register {user : String} {result : Option String} {u stored : User Metadata} {next : NodeId}
    (hu : s.held.get? user = some u)
    (he : Service.enrolled s.hasher s.repository.supply u = .ok (stored, next)) :
    Reaches s (.register user result) (.save stored)
  | view (email : String) (result : Option String) :
    Reaches s (.view email result) (.retrieve email)
  | serviceUpdateUser {user : String} {u : User Metadata} (hu : s.held.get? user = some u)
    (ha : Address.isEmail u.email = true) : Reaches s (.serviceUpdateUser user) (.updateUser u)
  | serviceUpdatePassword {email digest : String} {password : Value}
    (hp : User.checkPassword password = .ok ())
    (hd : Service.hashed s.hasher password = .ok digest) :
    Reaches s (.serviceUpdatePassword email password) (.updatePassword email (.text digest))
  | login (email : String) (password : Value) :
    Reaches s (.login email password) (.retrieve email)

/-! ## What a step shows of the repository -/

/-- A step shows the calls, the backend and the failure of an outcome. -/
structure Shows (x : Session T × Result T) (out : Outcome T Repository α) : Prop where
  calls : x.2.calls = out.calls
  backend : x.1.repository.backend = out.state.backend
  failure : ∀ f, out.result = .error f → x.2.answer = .error (.failure f)

/-- A step calls nothing and leaves the backend as it is. -/
structure IsIdle (s : Session T) (x : Session T × Result T) : Prop where
  calls : x.2.calls = []
  backend : x.1.repository.backend = s.repository.backend

variable {s : Session T}

theorem Shows.of_relays {β : Type} {x : Session T × Result T} {out : Outcome T Repository α}
    {inner : Outcome T Repository β} (h : Shows x out) (hr : out.Relays inner) : Shows x inner :=
  ⟨h.calls.trans hr.calls, h.backend.trans hr.backend, fun f hf => h.failure f (hr.failure f hf)⟩

theorem Shows.isIdle {x : Session T × Result T} {out : Outcome T Repository α} (h : Shows x out)
    (hi : out.IsIdle s.repository) : s.IsIdle x :=
  ⟨h.calls.trans hi.calls, h.backend.trans hi.backend⟩

theorem isIdle_refuse (r : Refusal) : s.IsIdle (s.refuse r) := ⟨rfl, rfl⟩

theorem shows_conclude (out : Outcome T Repository α) {rest : Session T → α → Session T × Answer T}
    (hr : ∀ t a, (rest t a).1.repository = t.repository) : Shows (s.conclude out rest) out := by
  obtain ⟨result, state, events⟩ := out
  cases result with
  | error f => exact ⟨rfl, rfl, fun g hg => by cases hg; rfl⟩
  | ok a => exact ⟨rfl, congrArg Repository.backend (hr _ a), fun g hg => by cases hg⟩

theorem shows_concludeDone (out : Outcome T Repository α) : Shows (s.concludeDone out) out :=
  shows_conclude out fun _ _ => rfl

theorem shows_concludeUser (name : Option String) (out : Outcome T Repository (User Metadata)) :
    Shows (s.concludeUser name out) out :=
  shows_conclude out fun _ _ => by cases name <;> rfl

theorem withUser_of_get? {name : String} {u : User Metadata} (hu : s.held.get? name = some u)
    (f : User Metadata → Session T × Result T) : s.withUser name f = f u := by
  simp only [withUser, hu]

/-- A user that is not held leaves nothing to do. -/
theorem isIdle_withUser {name : String} {f : User Metadata → Session T × Result T}
    (hf : ∀ u, s.held.get? name = some u → s.IsIdle (f u)) : s.IsIdle (s.withUser name f) := by
  unfold withUser
  cases hu : s.held.get? name with
  | none => exact isIdle_refuse _
  | some u => exact hf u hu

/-! ## Asks -/

variable [Timeline T] {o : Occasion T}

/-- An ask that reaches the repository shows what comes of its request. Fresh nodes may have been
used up before. -/
theorem shows_perform {a : Ask} {r : Request Metadata} (h : s.Reaches a r) (o : Occasion T) :
    ∃ supply, Shows (s.perform o a) ({ s.repository with supply := supply }.run o r) := by
  cases h with
  | save hu =>
    refine ⟨s.repository.supply, ?_⟩
    simp only [perform, withUser_of_get? hu]
    exact shows_concludeDone _
  | updateUser hu =>
    refine ⟨s.repository.supply, ?_⟩
    simp only [perform, withUser_of_get? hu]
    exact shows_concludeDone _
  | updatePassword email password => exact ⟨s.repository.supply, shows_concludeDone _⟩
  | retrieve email result =>
    exact ⟨s.repository.supply, (shows_concludeUser _ _).of_relays (Service.viewUser_relays email)⟩
  | @register _ _ _ _ next hu he =>
    refine ⟨next, ?_⟩
    simp only [perform, withUser_of_get? hu]
    exact (shows_concludeUser _ _).of_relays (Service.register_relays he)
  | view email result =>
    exact ⟨s.repository.supply, (shows_concludeUser _ _).of_relays (Service.viewUser_relays email)⟩
  | serviceUpdateUser hu ha =>
    refine ⟨s.repository.supply, ?_⟩
    simp only [perform, withUser_of_get? hu]
    exact (shows_concludeDone _).of_relays (Service.updateUser_relays ha)
  | serviceUpdatePassword hp hd =>
    exact ⟨s.repository.supply,
      (shows_concludeDone _).of_relays (Service.updatePassword_relays hp hd)⟩
  | login email password =>
    have hlogin : Shows (s.perform o (.login email password))
        (Service.login s.hasher s.repository o email password) := by
      simp only [perform]
      exact shows_conclude _ fun _ _ => rfl
    exact ⟨s.repository.supply, hlogin.of_relays (Service.login_relays email password)⟩

/-- Any other ask leaves the repository as it is, unless it is a race. -/
theorem isIdle_perform {a : Ask} (h : ∀ r, ¬s.Reaches a r)
    (hr : ∀ user count, a ≠ .race user count) (o : Occasion T) : s.IsIdle (s.perform o a) := by
  cases a with
  | save user => exact isIdle_withUser fun u hu => absurd (.save hu) (h _)
  | updateUser user => exact isIdle_withUser fun u hu => absurd (.updateUser hu) (h _)
  | updatePassword email password => exact absurd (.updatePassword email password) (h _)
  | retrieve email result => exact absurd (.retrieve email result) (h _)
  | race user count => exact absurd rfl (hr user count)
  | register user result =>
    refine isIdle_withUser fun u hu => ?_
    cases he : Service.enrolled s.hasher s.repository.supply u with
    | ok p => exact absurd (.register hu he) (h _)
    | error f => exact (shows_concludeUser _ _).isIdle (Service.register_isIdle he)
  | view email result => exact absurd (.view email result) (h _)
  | serviceUpdateUser user =>
    refine isIdle_withUser fun u hu => ?_
    by_cases ha : Address.isEmail u.email = true
    · exact absurd (.serviceUpdateUser hu ha) (h _)
    · exact (shows_concludeDone _).isIdle (Service.updateUser_isIdle ha)
  | serviceUpdatePassword email password =>
    refine (shows_concludeDone _).isIdle (Service.updatePassword_isIdle fun digest hp hd => ?_)
    exact absurd (.serviceUpdatePassword hp hd) (h _)
  | login email password => exact absurd (.login email password) (h _)

/-! ## Races -/

/-- What the savers of a race come to together. -/
def raced (o : Occasion T) (u : User Metadata) (n : Nat) (r : Repository) :
    Outcome T Repository (List String) :=
  { result := .ok (race o u n r).1
    state := (race o u n r).2.1
    events := (race o u n r).2.2 }

/-- The first saver goes before the others. -/
theorem calls_raced_succ (o : Occasion T) (u : User Metadata) (n : Nat) (r : Repository) :
    (raced o u (n + 1) r).calls =
      (r.run o (.save u)).calls ++ (raced o u n (r.run o (.save u)).state).calls :=
  List.filterMap_append

theorem shows_race {user : String} {u : User Metadata} (hu : s.held.get? user = some u) (n : Nat)
    (o : Occasion T) : Shows (s.perform o (.race user n)) (raced o u n s.repository) := by
  simp only [perform, withUser_of_get? hu]
  exact ⟨rfl, rfl, fun f hf => by cases hf⟩

/-- Savers under a context that allows no work all fail alike, and do nothing. -/
theorem race_of_refused {time : Int} (hw : o.wallTime = .ok time) {f : Failure}
    (hc : o.check = .error f) (hf : f.overflow? = none) (u : User Metadata) (n : Nat)
    (r : Repository) :
    (race o u n r).1 = List.replicate n f.name ∧ (raced o u n r).IsIdle r := by
  induction n generalizing r with
  | zero => exact ⟨rfl, rfl, rfl⟩
  | succ n ih =>
    obtain ⟨hresult, hidle⟩ := Repository.run_of_refused r hw hc hf (.save u)
    obtain ⟨hnames, hrest⟩ := ih (r.run o (.save u)).state
    refine ⟨?_, ?_, hrest.backend.trans hidle.backend⟩
    · simp only [race, hresult, hnames, List.replicate_succ]
    · rw [calls_raced_succ, hidle.calls, hrest.calls, List.append_nil]

/-- Savers in an archive under a context that allows work make one call each. -/
theorem calls_race_archive {time : Int} (hw : o.wallTime = .ok time) {left : Option T}
    (hc : o.check = .ok left) (u : User Metadata) (n : Nat) {r : Repository}
    (hr : r.isArchive = true) :
    (raced o u n r).calls = List.replicate n (Archive.call (.save u.erase) time left) := by
  induction n generalizing r with
  | zero => rfl
  | succ n ih =>
    rw [calls_raced_succ, Repository.calls_run_archive hr hw hc, ih (by simpa using hr),
      List.replicate_succ, List.singleton_append]
    rfl

end Accounts.Session
