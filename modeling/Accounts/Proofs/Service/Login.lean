import Accounts.Proofs.Hash.RoundTrip
import Accounts.Proofs.Service.Task
import Accounts.Proofs.Store.Office

/-!
Logging in. The service carries out tasks under any circumstances, each with a salt of its own, and
its repository may be told to fail. Each account keeps a hash of the password that was last given to
it, so that this password opens it.
-/
namespace Accounts.Service

variable {T : Type} [Timeline T]

/-- A task, the circumstances under which it comes up and the salt that is drawn for it. -/
structure Job (T : Type) where
  salt : String
  occasion : Occasion T
  task : Task

/-- The service carries tasks out, and they are recorded as they are. -/
def serving (h : Hasher) : Office T (Job T) Task where
  deal s job := job.task.perform (h.withSalt job.salt) s job.occasion
  record? job := some job.task
  isAtomic s job := isAtomic_perform _ job.task s job.occasion

/-- The tasks that succeeded, the latest first. -/
abbrev Ledger := List Task

namespace Ledger

/-- The password that an address was last given. -/
def password? (email : String) (done : Ledger) : Option Value :=
  done.findSome? (Task.passwordFor email)

/-- An account has been opened for the address. -/
def registered (email : String) (done : Ledger) : Bool := done.any (Task.registers email)

theorem password?_cons (email : String) (t : Task) (done : Ledger) :
    password? email (t :: done) = (t.passwordFor email).or (password? email done) := by
  simp only [password?, List.findSome?_cons]
  cases t.passwordFor email <;> rfl

theorem registered_cons (email : String) (t : Task) (done : Ledger) :
    registered email (t :: done) = (t.registers email || registered email done) := by
  simp [registered]

/-- What is kept for an address: nothing before it is registered, then a hash of the password that
it was last given. -/
def Holds (h : Hasher) (done : Ledger) (email : String) : Option (User Value) → Prop
  | none => registered email done = false
  | some v => registered email done = true ∧ ∃ salt p digest,
      password? email done = some (.text p) ∧ (h.withSalt salt).hash p = .ok digest ∧
        v.password = .text digest

/-- A table and the tasks that led to it. -/
def Keeps (h : Hasher) (done : Ledger) (entries : Table (User Value)) : Prop :=
  ∀ email, Holds h done email (entries.get? email)

/-- A task that succeeds is recorded with what it does. -/
theorem keeps_body {h : Hasher} {salt : String} {done : Ledger} {t : Task}
    {before after : Table (User Value)} {r : Request Value} {reply : Reply Value}
    (hk : Keeps h done before) (hc : Carries (h.withSalt salt) t r)
    (hb : Directory.body before r = .ok (reply, after)) : Keeps h (t :: done) after := by
  intro email
  by_cases he : r.email = email
  · subst he
    have ha := hk r.email
    rcases Directory.body_cases hb with ⟨u, rfl, hg, rfl⟩ | ⟨u, v, rfl, hg, rfl⟩ |
      ⟨e, q, v, rfl, hg, rfl⟩ | ⟨e, v, rfl, hg, rfl⟩
    · cases hc with
      | @register u p digest m hp hd =>
        simp only [Request.email]
        rw [Table.get?_put_same]
        refine ⟨by simp [registered_cons, Task.registers], salt, p, digest, ?_, hd, rfl⟩
        simp [password?_cons, Task.passwordFor, hp]
    · cases hc with
      | @updateUser u m =>
        simp only [Request.email, hg] at ha ⊢
        rw [Table.get?_put_same]
        obtain ⟨hr, salt', p, digest, hp, hd, hv⟩ := ha
        refine ⟨by simp [registered_cons, hr], salt', p, digest, ?_, hd, hv⟩
        simp [password?_cons, Task.passwordFor, hp]
    · cases hc with
      | @updatePassword e p digest hd =>
        simp only [Request.email, hg] at ha ⊢
        rw [Table.get?_put_same]
        refine ⟨by simp [registered_cons, ha.1], salt, p, digest, ?_, hd, rfl⟩
        simp [password?_cons, Task.passwordFor]
    · cases hc with
      | viewUser e =>
        simp only [Request.email, hg] at ha ⊢
        obtain ⟨hr, salt', p, digest, hp, hd, hv⟩ := ha
        refine ⟨by simp [registered_cons, hr], salt', p, digest, ?_, hd, hv⟩
        simp [password?_cons, Task.passwordFor, hp]
  · have ht : t.email ≠ email := hc.email_eq ▸ he
    have hp : password? email (t :: done) = password? email done := by
      rw [password?_cons, Task.passwordFor_other ht, Option.none_or]
    have hr : registered email (t :: done) = registered email done := by
      rw [registered_cons, Task.registers_other ht, Bool.false_or]
    have ha := hk email
    rw [Directory.body_other hb he]
    unfold Holds at ha ⊢
    rw [hp, hr]
    exact ha

/-- Every account keeps a hash of the password that it was last given. -/
theorem keeps_invariant (h : Hasher) :
    (serving h).Invariant (T := T) (fun _ => True) (fun done s => Keeps h done s.contents) where
  frame hs hk := by
    rw [Repository.contents_eq_of_stored hs]
    exact hk
  deal _ hr hk := by
    obtain ⟨r, reply, hc, hb⟩ := body_of_perform hr
    exact keeps_body hk hc hb

/-- Logging in looks the account up and compares the password with what is kept there. -/
theorem login_result (h : Hasher) {s : Repository} {o : Occasion T} {left : Option T}
    (hc : o.check = .ok left) (hq : s.Quiet .find) (email : String) (password : Value) :
    (login h s o email password).result =
      match s.contents.get? email with
      | some v => verified h password v.password
      | none => .error (.unknown email) := by
  simp only [login, viewUser, Outcome.withResult]
  rcases Repository.run_retrieve_cases hc hq email with ⟨hg, hr⟩ | ⟨u, hg, hr⟩
  · rw [hg, hr]
    rfl
  · rw [hg, hr]
    rfl

/-- An account opens to the password that was last given to it, as long as its context allows work
and the repository shows no failure. With the transparent hasher it opens to no other. An address
that has not been registered is unknown. The repository is empty at first. -/
theorem login_last_password (h : Hasher) {s : Repository} (hs : s.contents = [])
    (turns : List (Turn (Job T))) {o : Occasion T} {left : Option T} (hc : o.check = .ok left)
    (hq : ((serving h).run ⟨s, []⟩ turns).repository.Quiet .find) (email : String) :
    (registered email ((serving h).run ⟨s, []⟩ turns).done = false →
      ∀ password,
        (login h ((serving h).run ⟨s, []⟩ turns).repository o email password).result =
          .error (.unknown email)) ∧
    (registered email ((serving h).run ⟨s, []⟩ turns).done = true →
      ∃ p, password? email ((serving h).run ⟨s, []⟩ turns).done = some (.text p) ∧
        (login h ((serving h).run ⟨s, []⟩ turns).repository o email (.text p)).result =
          .ok true ∧
        (h = .reversing → ∀ other, other ≠ p →
          (login h ((serving h).run ⟨s, []⟩ turns).repository o email (.text other)).result =
            .ok false)) := by
  have h0 : Keeps h [] s.contents := by
    rw [hs]
    intro email
    rfl
  have hkeeps : Keeps h ((serving h).run ⟨s, []⟩ turns).done
      ((serving h).run ⟨s, []⟩ turns).repository.contents :=
    (keeps_invariant h).run (k := ⟨s, []⟩) h0 fun _ _ => trivial
  have hk := hkeeps email
  have hlogin := login_result h hc hq email
  cases hg : ((serving h).run ⟨s, []⟩ turns).repository.contents.get? email with
  | none =>
    rw [hg] at hk
    simp only [hg] at hlogin
    have hno : registered email ((serving h).run ⟨s, []⟩ turns).done = false := hk
    refine ⟨fun _ => hlogin, ?_⟩
    intro hyes
    rw [hno] at hyes
    cases hyes
  | some v =>
    rw [hg] at hk
    simp only [hg] at hlogin
    obtain ⟨hyes, salt, p, digest, hp, hd, hv⟩ := hk
    refine ⟨?_, ?_⟩
    · intro hno
      rw [hno] at hyes
      cases hyes
    · intro _
      refine ⟨p, hp, ?_, ?_⟩
      · rw [hlogin, hv]
        exact congrArg Except.ok (Hasher.verify_of_hash hd)
      · rintro rfl other hne
        rw [hlogin, hv]
        cases hd
        have hfalse : Hasher.verify .reversing other (Hasher.reversed p) = false := by
          rw [← Bool.not_eq_true, Hasher.verify_reversed_iff]
          exact hne
        exact congrArg Except.ok hfalse

/-- An account is opened, not opened again, and given another password at the second attempt. -/
def changing : List (Turn (Job Moment)) :=
  [.deal ⟨"", .anytime, .register ⟨"ann@site.org", .text "password one", .dict 0 []⟩⟩,
    .deal ⟨"", .anytime, .register ⟨"ann@site.org", .text "password two", .dict 0 []⟩⟩,
    .arm .update ⟨.other "AutoReconnect", "lost", none⟩,
    .deal ⟨"", .anytime, .updatePassword "ann@site.org" (.text "password three")⟩,
    .deal ⟨"", .anytime, .updatePassword "ann@site.org" (.text "password four")⟩]

theorem login_last_password_changing :
    (login .reversing ((serving .reversing).run ⟨⟨.archive {}, 0⟩, []⟩ changing).repository
        .anytime "ann@site.org" (.text "password four")).result = .ok true ∧
      (login .reversing ((serving .reversing).run ⟨⟨.archive {}, 0⟩, []⟩ changing).repository
        .anytime "ann@site.org" (.text "password one")).result = .ok false := by
  have hs : Repository.contents ⟨.archive {}, 0⟩ = [] := rfl
  have hq : ((serving .reversing).run ⟨⟨.archive {}, 0⟩, []⟩ changing).repository.Quiet .find := by
    decide +kernel
  have hc : Occasion.anytime.check = .ok none := rfl
  have hreg : registered "ann@site.org"
      ((serving .reversing).run ⟨⟨.archive {}, 0⟩, []⟩ changing).done = true := by decide +kernel
  have hlast : (password? "ann@site.org"
      ((serving .reversing).run ⟨⟨.archive {}, 0⟩, []⟩ changing).done).bind Value.text? =
        some "password four" := by decide +kernel
  have hlogin := login_last_password .reversing hs changing hc hq "ann@site.org"
  obtain ⟨p, hp, htrue, hfalse⟩ := hlogin.2 hreg
  rw [hp] at hlast
  cases Option.some.inj hlast
  exact ⟨htrue, hfalse rfl "password one" (by decide)⟩

end Ledger

end Accounts.Service
