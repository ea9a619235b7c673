import Accounts.Proofs.Service.Atomicity
import Accounts.Proofs.Store.History

/-!
Tasks of the service and what they do to a repository. A task whose input passes comes to one
request, in which a password stands hashed, and leaves what that request leaves; a task that fails
leaves everything that is stored as it was.
-/
namespace Accounts

variable {T : Type} [Timeline T]

theorem Value.eq_text_of_text? {v : Value} {s : String} (h : v.text? = some s) : v = .text s := by
  unfold Value.text? at h
  split at h
  · cases h
    rfl
  · cases h

namespace Service

/-! ## Tasks -/

/-- What the service is asked to do, logging in apart. -/
inductive Task where
  | register (u : User Metadata)
  | viewUser (email : String)
  | updateUser (u : User Metadata)
  | updatePassword (email : String) (password : Value)

namespace Task

/-- The address that a task is about. -/
def email : Task → String
  | .register u | .updateUser u => u.email
  | .viewUser e | .updatePassword e _ => e

/-- The password that a task gives to an address, before it is hashed. -/
def passwordFor (email : String) : Task → Option Value
  | .register u => if u.email = email then some u.password else none
  | .updatePassword e password => if e = email then some password else none
  | .viewUser _ | .updateUser _ => none

/-- The task opens the account of an address. -/
def registers (email : String) : Task → Bool
  | .register u => u.email == email
  | _ => false

theorem passwordFor_other {t : Task} {email : String} (h : t.email ≠ email) :
    t.passwordFor email = none := by
  cases t with
  | register u => exact if_neg h
  | updatePassword e p => exact if_neg h
  | viewUser e => rfl
  | updateUser u => rfl

theorem registers_other {t : Task} {email : String} (h : t.email ≠ email) :
    t.registers email = false := by
  cases t with
  | register u => exact beq_false_of_ne h
  | _ => rfl

/-- What comes of a task. The answer itself does not matter. -/
def perform (h : Hasher) (s : Repository) (o : Occasion T) : Task → Outcome T Repository Unit
  | .register u => (Service.register h s o u).silent
  | .viewUser email => (Service.viewUser s o email).silent
  | .updateUser u => (Service.updateUser s o u).silent
  | .updatePassword email password => (Service.updatePassword h s o email password).silent

end Task

/-- The request that a task comes to once its input has passed. A password is hashed. -/
inductive Carries (h : Hasher) : Task → Request Value → Prop where
  | register {u : User Metadata} {p digest : String} {m : Value} (hp : u.password = .text p)
    (hd : h.hash p = .ok digest) : Carries h (.register u) (.save ⟨u.email, .text digest, m⟩)
  | viewUser (email : String) : Carries h (.viewUser email) (.retrieve email)
  | updateUser {u : User Metadata} {m : Value} :
    Carries h (.updateUser u) (.updateUser ⟨u.email, u.password, m⟩)
  | updatePassword {email p digest : String} (hd : h.hash p = .ok digest) :
    Carries h (.updatePassword email (.text p)) (.updatePassword email (.text digest))

theorem Carries.email_eq {h : Hasher} {t : Task} {r : Request Value} (hc : Carries h t r) :
    r.email = t.email := by
  cases hc <;> rfl

theorem hashed_cases {h : Hasher} {password : Value} {digest : String}
    (hd : hashed h password = .ok digest) :
    ∃ p, password = .text p ∧ h.hash p = .ok digest := by
  unfold hashed at hd
  split at hd
  · cases hd
  · next p hp =>
    split at hd
    · next d hx =>
      cases hd
      exact ⟨p, Value.eq_text_of_text? hp, hx⟩
    · cases hd

/-- A user that is enrolled has its address and a hash of its password. -/
theorem enrolled_cases {h : Hasher} {supply next : NodeId} {u stored : User Metadata}
    (he : enrolled h supply u = .ok (stored, next)) :
    ∃ p digest m, u.password = .text p ∧ h.hash p = .ok digest ∧
      stored = ⟨u.email, .text digest, m⟩ := by
  unfold enrolled at he
  split at he
  · cases he
  · split at he
    · cases he
    · next digest hd =>
      obtain ⟨p, hp, hx⟩ := hashed_cases hd
      split at he
      · cases he
      · next m next' hm =>
        cases he
        exact ⟨p, digest, m, hp, hx, rfl⟩

theorem validate_of_enrolled {h : Hasher} {supply next : NodeId} {u stored : User Metadata}
    (he : enrolled h supply u = .ok (stored, next)) : u.validate = .ok () := by
  unfold enrolled at he
  split at he
  · cases he
  · next hv => exact hv

/-! ## What each task does -/

variable {s : Repository} {o : Occasion T}

/-- A task that fails leaves everything that is stored as it was. -/
theorem isAtomic_perform (h : Hasher) (t : Task) (s : Repository) (o : Occasion T) :
    (t.perform h s o).IsAtomic s := by
  cases t with
  | register u => exact (isAtomic_register h u).silent
  | viewUser email => exact (isAtomic_viewUser email).silent
  | updateUser u => exact (isAtomic_updateUser u).silent
  | updatePassword email password => exact (isAtomic_updatePassword h email password).silent

/-- The input of a task is well-formed, as far as the task looks at it. -/
def Task.IsValid : Task → Prop
  | .register u => u.validate = .ok ()
  | .viewUser _ => True
  | .updateUser u => Address.isEmail u.email = true
  | .updatePassword _ password => User.checkPassword password = .ok ()

/-- The input of a task is well-formed, the request that it comes to succeeds, and what is left is
what that leaves. The service may have used up nodes before it made the request. -/
def Fulfils (h : Hasher) (s : Repository) (o : Occasion T) (t : Task) (after : Repository) : Prop :=
  t.IsValid ∧ ∃ supply r reply, Carries h t r.erase ∧
    (Repository.run { s with supply := supply } o r).result = .ok reply ∧
    after.stored = (Repository.run { s with supply := supply } o r).state.stored

theorem fulfils_register {h : Hasher} {u stored : User Metadata}
    (hr : (register h s o u).result = .ok stored) :
    Fulfils h s o (.register u) (register h s o u).state := by
  obtain ⟨next, reply, he, hx⟩ := register_of_ok hr
  obtain ⟨p, digest, m, hp, hd, rfl⟩ := enrolled_cases he
  exact ⟨validate_of_enrolled he, next, .save ⟨u.email, .text digest, m⟩, reply, .register hp hd, hx,
    Repository.stored_eq_of_backend (register_relays he).backend⟩

theorem fulfils_updateUser {h : Hasher} {u : User Metadata} {reply : Reply Metadata}
    (hr : (updateUser s o u).result = .ok reply) :
    Fulfils h s o (.updateUser u) (updateUser s o u).state := by
  by_cases ha : Address.isEmail u.email = true
  · rw [updateUser, if_pos ha] at hr ⊢
    exact ⟨ha, s.supply, _, reply, .updateUser, hr, rfl⟩
  · rw [updateUser, if_neg ha] at hr
    cases hr

theorem fulfils_updatePassword {h : Hasher} {email : String} {password : Value}
    {answer : Reply Metadata} (hr : (updatePassword h s o email password).result = .ok answer) :
    Fulfils h s o (.updatePassword email password) (updatePassword h s o email password).state := by
  obtain ⟨hp, digest, reply, hd, hx⟩ := updatePassword_of_ok hr
  have hrelays : (updatePassword h s o email password).Relays
      (s.run o (.updatePassword email (.text digest))) := updatePassword_relays hp hd
  obtain ⟨p, rfl, hdigest⟩ := hashed_cases hd
  exact ⟨hp, s.supply, _, reply, .updatePassword hdigest, hx,
    Repository.stored_eq_of_backend hrelays.backend⟩

/-- A task that succeeds does what the request says that it comes to. -/
theorem fulfils_perform {h : Hasher} {t : Task} (hr : (t.perform h s o).result = .ok ()) :
    Fulfils h s o t (t.perform h s o).state := by
  cases t with
  | register u =>
    obtain ⟨stored, hx⟩ := Outcome.result_of_silent hr
    exact fulfils_register hx
  | viewUser email =>
    obtain ⟨v, hv⟩ := Outcome.result_of_silent hr
    simp only [viewUser, Outcome.withResult] at hv
    cases hx : (s.run o (.retrieve email)).result with
    | error f =>
      rw [hx] at hv
      cases hv
    | ok reply => exact ⟨trivial, s.supply, _, reply, .viewUser email, hx, rfl⟩
  | updateUser u =>
    obtain ⟨reply, hx⟩ := Outcome.result_of_silent hr
    exact fulfils_updateUser hx
  | updatePassword email password =>
    obtain ⟨answer, hx⟩ := Outcome.result_of_silent hr
    exact fulfils_updatePassword hx

/-- The metadata do not matter to the task. -/
theorem Carries.readBack {h : Hasher} {t : Task} {r : Request Value} (hc : Carries h t r) :
    Carries h t r.readBack := by
  cases hc with
  | register hp hd => exact .register hp hd
  | viewUser email => exact .viewUser email
  | updateUser => exact .updateUser
  | updatePassword hd => exact .updatePassword hd

theorem Carries.received {h : Hasher} {t : Task} {r : Request Metadata} (s : Repository)
    (hc : Carries h t r.erase) : Carries h t (s.received r) := by
  unfold Repository.received
  cases s.backend with
  | directory d => exact hc
  | archive c => exact hc.readBack

/-- A task that succeeds does to the contents what the request says that it comes to. -/
theorem body_of_perform {h : Hasher} {t : Task} (hr : (t.perform h s o).result = .ok ()) :
    ∃ r reply, Carries h t r ∧
      Directory.body s.contents r = .ok (reply, (t.perform h s o).state.contents) := by
  obtain ⟨-, supply, r, reply, hc, hx, hstored⟩ := fulfils_perform hr
  rcases Repository.run_cases { s with supply := supply } o r with ⟨f, hf, -⟩ | ⟨reply', hr', hb⟩
  · rw [hx] at hf
    cases hf
  · refine ⟨_, reply'.erase, hc.received { s with supply := supply }, ?_⟩
    rw [Repository.contents_eq_of_stored hstored]
    exact hb

end Service

end Accounts
