import Accounts.Proofs.Service.Relay
import Accounts.Proofs.Store.Atomicity

/-!
Tasks of the service that fail change nothing that is stored. A task fails before it makes a request,
or because its request fails, or on what it has looked up.
-/
namespace Accounts

namespace Service

variable {T : Type} [Timeline T] {s : Repository} {o : Occasion T}

theorem isAtomic_register (h : Hasher) (u : User Metadata) : (register h s o u).IsAtomic s := by
  intro f hf
  unfold register at hf ⊢
  cases he : enrolled h s.supply u with
  | error e => rfl
  | ok p =>
    obtain ⟨stored, next⟩ := p
    simp only [he] at hf ⊢
    cases hr : (Repository.run { s with supply := next } o (.save stored)).result with
    | error g => exact Repository.stored_run_of_error hr
    | ok reply =>
      rw [hr] at hf
      cases hf

theorem isAtomic_viewUser (email : String) : (viewUser s o email).IsAtomic s :=
  fun _ _ => Repository.stored_run_retrieve s o email

theorem isAtomic_updateUser (u : User Metadata) : (updateUser s o u).IsAtomic s := by
  unfold updateUser
  split
  · exact Repository.isAtomic_run s o _
  · exact fun _ _ => rfl

theorem isAtomic_updatePassword (h : Hasher) (email : String) (password : Value) :
    (updatePassword h s o email password).IsAtomic s := by
  intro f hf
  unfold updatePassword at hf ⊢
  cases hp : User.checkPassword password with
  | error e => rfl
  | ok _ =>
    cases hd : hashed h password with
    | error e => rfl
    | ok digest =>
      simp only [hp, hd] at hf ⊢
      cases hr : (s.run o (.updatePassword email (.text digest))).result with
      | error g => exact Repository.stored_run_of_error hr
      | ok reply =>
        rw [hr] at hf
        cases hf

theorem isAtomic_login (h : Hasher) (email : String) (password : Value) :
    (login h s o email password).IsAtomic s := fun _ _ => Repository.stored_run_retrieve s o email

/-- A task has succeeded only when the request that it comes to has. -/
theorem register_of_ok {h : Hasher} {u stored : User Metadata}
    (hr : (register h s o u).result = .ok stored) :
    ∃ next reply, enrolled h s.supply u = .ok (stored, next) ∧
      (Repository.run { s with supply := next } o (.save stored)).result = .ok reply := by
  unfold register at hr
  cases he : enrolled h s.supply u with
  | error e =>
    rw [he] at hr
    cases hr
  | ok p =>
    obtain ⟨v, next⟩ := p
    simp only [he] at hr
    cases hx : (Repository.run { s with supply := next } o (.save v)).result with
    | error f =>
      rw [hx] at hr
      cases hr
    | ok reply =>
      rw [hx] at hr
      cases hr
      exact ⟨next, reply, rfl, hx⟩

theorem updatePassword_of_ok {h : Hasher} {email : String} {password : Value}
    {answer : Reply Metadata} (hr : (updatePassword h s o email password).result = .ok answer) :
    User.checkPassword password = .ok () ∧ ∃ digest reply, hashed h password = .ok digest ∧
      (s.run o (.updatePassword email (.text digest))).result = .ok reply := by
  unfold updatePassword at hr
  cases hp : User.checkPassword password with
  | error e =>
    rw [hp] at hr
    cases hr
  | ok _ =>
    cases hd : hashed h password with
    | error e =>
      rw [hp, hd] at hr
      cases hr
    | ok digest =>
      simp only [hp, hd] at hr
      cases hx : (s.run o (.updatePassword email (.text digest))).result with
      | error f =>
        rw [hx] at hr
        cases hx.symm.trans hr
      | ok reply => exact ⟨rfl, digest, reply, rfl, hx⟩

end Service

end Accounts
