import Accounts.Proofs.Service.Family
import Accounts.Proofs.Service.Task

/-!
Malformed input. The service complains about an address that is none and about a password that is
too short before it does anything else, and nothing else makes it complain: no store, no hasher and
no context does. A complaint leaves everything as it is.
-/
namespace Accounts

variable {T α β : Type}

/-! ## Complaints -/

/-- The failure says that the input is malformed. -/
def Failure.IsComplaint (f : Failure) : Prop := f.family? = some .malformedEntity

instance (f : Failure) : Decidable f.IsComplaint := inferInstanceAs (Decidable (_ = _))

/-- The result is such a failure. -/
def Complains (result : Except Failure α) : Prop := ∃ f, result = .error f ∧ f.IsComplaint

@[simp] theorem not_complains_ok (a : α) : ¬Complains (.ok a : Except Failure α) :=
  fun ⟨_, h, _⟩ => by cases h

@[simp] theorem complains_error_iff {f : Failure} :
    Complains (.error f : Except Failure α) ↔ f.IsComplaint :=
  ⟨fun ⟨_, h, hf⟩ => by cases h; exact hf, fun hf => ⟨f, rfl, hf⟩⟩

theorem not_complains_error {f : Failure} (h : ¬f.IsComplaint) :
    ¬Complains (.error f : Except Failure α) := fun hf => h (complains_error_iff.mp hf)

/-- A failure is handed on as it is. -/
theorem not_complains_handedOn {f : Failure} (h : ¬Complains (.error f : Except Failure α)) :
    ¬Complains (.error f : Except Failure β) :=
  not_complains_error fun hf => h (complains_error_iff.mpr hf)

theorem complains_map_iff {result : Except Failure α} {g : α → β} :
    Complains (result.map g) ↔ Complains result := by
  cases result with
  | ok a => exact iff_of_false (not_complains_ok (g a)) (not_complains_ok a)
  | error f => exact complains_error_iff.trans complains_error_iff.symm

theorem not_complains_map {result : Except Failure α} {g : α → β} (h : ¬Complains result) :
    ¬Complains (result.map g) := fun hc => h (complains_map_iff.mp hc)

theorem not_complains_bind {result : Except Failure α} {g : α → Except Failure β}
    (h : ¬Complains result) (hg : ∀ a, ¬Complains (g a)) : ¬Complains (result.bind g) := by
  cases result with
  | ok a => exact hg a
  | error f => exact not_complains_handedOn h

/-! ## Repositories -/

theorem not_isComplaint_context (e : ContextError) : ¬(Failure.context e).IsComplaint := by
  cases e <;> decide

theorem not_isComplaint_taken (email : String) (cause : Option Cause) :
    ¬(Failure.taken email cause).IsComplaint := nofun

theorem not_isComplaint_unknown (email : String) : ¬(Failure.unknown email).IsComplaint := nofun

/-- What the driver reports is no complaint. -/
theorem Archive.not_isComplaint_failureOf (action : Action) (email : String) (cause : Cause) :
    ¬(failureOf action email cause).1.IsComplaint := by
  intro hf
  unfold Failure.IsComplaint at hf
  by_cases hlarge : IsTooLarge action cause
  · rw [failureOf_tooLarge email hlarge] at hf
    cases hf
  · obtain ⟨-, k, hk, hstore⟩ := failureOf_translated (α := Unit) email hlarge
    rw [hk] at hf
    cases hf
    exact absurd hstore (by decide)

section

variable [Timeline T] {o : Occasion T}

theorem Occasion.not_isComplaint_of_check {f : Failure} (h : o.check = .error f) :
    ¬f.IsComplaint := by
  obtain ⟨e, rfl, -⟩ := check_eq_error_iff.mp h
  exact not_isComplaint_context e

theorem Occasion.not_isComplaint_of_wallTime {f : Failure} (h : o.wallTime = .error f) :
    ¬f.IsComplaint := by
  unfold wallTime at h
  split at h <;> cases h
  exact nofun

theorem Directory.not_complains_run {M : Type} (d : Directory M) (r : Request M) :
    ¬Complains (d.run o r).result := by
  unfold run accept
  cases ho : o.check with
  | error f => exact not_complains_error (Occasion.not_isComplaint_of_check ho)
  | ok left =>
    cases hf : d.failure? with
    | some f =>
      unfold failure? at hf
      split at hf
      · split at hf <;> cases hf
        exact not_complains_error nofun
      · cases hf
    | none =>
      simp only [perform]
      cases hb : body d.entries r with
      | error f =>
        rcases body_eq_error hb with rfl | rfl
        · exact not_complains_error (not_isComplaint_taken _ _)
        · exact not_complains_error (not_isComplaint_unknown _)
      | ok p => exact not_complains_ok p.1

omit [Timeline T] in
theorem Archive.not_complains_perform (c : Collection) (r : Request Value) (time : Int)
    (left : Option T) : ¬Complains (perform c r time left).result := by
  rw [result_perform]
  rcases execute_cases c r time left with ⟨cause, -, h⟩ | ⟨-, ⟨reply, h⟩ | h⟩
  · rw [h]
    exact not_complains_error (not_isComplaint_failureOf _ _ cause)
  · rw [h]
    exact not_complains_ok reply
  · rw [h]
    exact not_complains_error (not_isComplaint_unknown _)

/-- What is raised before a call is no complaint, whether it is caught or not. -/
theorem Archive.not_isComplaint_raised (r : Request Value) {f : Failure} (h : ¬f.IsComplaint) :
    ¬(shown r (raised r.action f)).IsComplaint := by
  unfold raised
  split
  · split
    · exact h
    · exact not_isComplaint_failureOf r.action r.email _
  · exact h

theorem Archive.not_complains_run (c : Collection) (r : Request Value) :
    ¬Complains (run c o r).result := by
  rcases prepare_cases o r with ⟨f, hw, h⟩ | ⟨f, hf, h⟩ | ⟨time, left, -, -, h⟩
  · rw [run, h, result_stop]
    exact not_complains_error (Occasion.not_isComplaint_of_wallTime hw)
  · rw [run, h, result_stop]
    have hplain : ¬f.IsComplaint :=
      hf.elim Occasion.not_isComplaint_of_check Occasion.not_isComplaint_of_wallTime
    exact not_complains_error (not_isComplaint_raised r hplain)
  · rw [run, h]
    exact not_complains_perform c r time left

/-- No repository complains. -/
theorem Repository.not_complains_run (s : Repository) (r : Request Metadata) :
    ¬Complains (s.run o r).result := by
  obtain ⟨backend, supply⟩ := s
  rw [← complains_map_iff (g := Reply.erase)]
  cases backend with
  | directory d =>
    simp only [run, (runDirectory_eq d supply o r).1]
    exact Directory.not_complains_run d.erase r.erase
  | archive c =>
    simp only [run, (runArchive_eq c supply o r).1]
    exact Archive.not_complains_run c r.erase

end

/-! ## Passwords -/

/-- A password with fewer characters than a password has, or with fewer parts if it is no text. -/
def User.IsShort : Value → Prop
  | .atom _ (.text s) => s.length < leastPasswordLength
  | .atom .. => False
  | .list _ items => items.length < leastPasswordLength
  | .dict _ entries => entries.length < leastPasswordLength

theorem User.checkPassword_of_isShort {password : Value} (h : IsShort password) :
    checkPassword password = .error .shortPassword := by
  have hlength : ∃ n, lengthOf? password = some n ∧ n < leastPasswordLength := by
    match password, h with
    | .atom _ (.text s), h => exact ⟨s.length, rfl, h⟩
    | .list _ items, h => exact ⟨items.length, rfl, h⟩
    | .dict _ entries, h => exact ⟨entries.length, rfl, h⟩
  obtain ⟨n, hn, hless⟩ := hlength
  simp only [checkPassword, hn, if_pos hless]

theorem User.not_complains_checkPassword {password : Value} (h : ¬IsShort password) :
    ¬Complains (checkPassword password) := by
  unfold checkPassword
  split
  · next n hn =>
    have hlong : ¬n < leastPasswordLength := by
      intro hless
      apply h
      unfold lengthOf? at hn
      split at hn <;> cases hn <;> exact hless
    rw [if_neg hlong]
    exact not_complains_ok ()
  · exact not_complains_error nofun

namespace Service

theorem not_isComplaint_fault (h : Hasher) (password : Value) :
    ¬(fault h password).IsComplaint := by
  cases h <;> exact nofun

theorem not_complains_hashed (h : Hasher) (password : Value) : ¬Complains (hashed h password) := by
  unfold hashed
  split
  · exact not_complains_error (not_isComplaint_fault h password)
  · split
    · exact not_complains_ok _
    · exact not_complains_error nofun

theorem not_complains_userOf (email : String) (reply : Reply Metadata) :
    ¬Complains (userOf email reply) := by
  cases reply with
  | user u => exact not_complains_ok u
  | done => exact not_complains_error (not_isComplaint_unknown email)

theorem not_complains_verified (h : Hasher) (password stored : Value) :
    ¬Complains (verified h password stored) := by
  unfold verified
  split
  · exact not_complains_error (not_isComplaint_fault h password)
  · exact not_complains_ok _
  · split
    · exact not_complains_ok false
    · exact not_complains_error (not_isComplaint_fault _ stored)

/-! ## Tasks -/

namespace Task

/-- The input of a task is malformed. A task looks at what it is going to write: the address when an
account is opened or changed, the password when one is set. -/
def IsMalformed : Task → Prop
  | .register u => Address.isEmail u.email ≠ true ∨ User.IsShort u.password
  | .updateUser u => Address.isEmail u.email ≠ true
  | .updatePassword _ password => User.IsShort password
  | .viewUser _ => False

/-- What is said about the malformed input of a task. The address comes first. -/
def complaint : Task → Failure
  | .register u => if Address.isEmail u.email then .shortPassword else .invalidAddress
  | .updatePassword .. => .shortPassword
  | .updateUser _ | .viewUser _ => .invalidAddress

theorem isComplaint_complaint (t : Task) : t.complaint.IsComplaint := by
  cases t with
  | register u =>
    simp only [complaint]
    split <;> rfl
  | viewUser | updateUser | updatePassword => rfl

end Task

variable [Timeline T] {o : Occasion T} {h : Hasher} {s : Repository}

theorem register_of_malformed {u : User Metadata}
    (hu : Address.isEmail u.email ≠ true ∨ User.IsShort u.password) :
    register h s o u = { result := .error (Task.register u).complaint, state := s } := by
  have hvalidate : u.validate = .error (Task.register u).complaint := by
    simp only [User.validate, Task.complaint]
    by_cases ha : Address.isEmail u.email = true
    · rw [if_pos ha, if_pos ha]
      exact User.checkPassword_of_isShort (hu.resolve_left fun hno => hno ha)
    · rw [if_neg ha, if_neg ha]
  simp only [register, enrolled, hvalidate]

/-- Malformed input is reported at once, and nothing else happens. -/
theorem perform_of_malformed {t : Task} (ht : t.IsMalformed) :
    t.perform h s o = { result := .error t.complaint, state := s } := by
  cases t with
  | register u =>
    rw [Task.perform, register_of_malformed ht]
    rfl
  | viewUser email => exact ht.elim
  | updateUser u =>
    have ha : Address.isEmail u.email ≠ true := ht
    simp only [Task.perform, updateUser, if_neg ha]
    rfl
  | updatePassword email password =>
    have hp : User.IsShort password := ht
    simp only [Task.perform, updatePassword, User.checkPassword_of_isShort hp]
    rfl

theorem not_complains_enrolled (h : Hasher) (supply : NodeId) {u : User Metadata}
    (ha : Address.isEmail u.email = true) (hp : ¬User.IsShort u.password) :
    ¬Complains (enrolled h supply u) := by
  have hvalidate : ¬Complains u.validate := by
    rw [User.validate, if_pos ha]
    exact User.not_complains_checkPassword hp
  unfold enrolled
  cases hv : u.validate with
  | error f =>
    rw [hv] at hvalidate
    exact not_complains_handedOn hvalidate
  | ok _ =>
    have hhashed := not_complains_hashed h u.password
    cases hd : hashed h u.password with
    | error f =>
      rw [hd] at hhashed
      exact not_complains_handedOn hhashed
    | ok digest =>
      cases u.metadata.freshDict supply with
      | error e => exact not_complains_error fun hf => by cases hf
      | ok p => exact not_complains_ok _

theorem not_complains_register {u : User Metadata} (ha : Address.isEmail u.email = true)
    (hp : ¬User.IsShort u.password) : ¬Complains (register h s o u).result := by
  have henrolled := not_complains_enrolled h s.supply ha hp
  unfold register
  cases he : enrolled h s.supply u with
  | error f =>
    rw [he] at henrolled
    exact not_complains_handedOn henrolled
  | ok p =>
    have hrun := Repository.not_complains_run { s with supply := p.2 } (o := o) (.save p.1)
    simp only
    generalize Repository.run _ o _ = out at hrun ⊢
    obtain ⟨result, state, events⟩ := out
    cases result with
    | error f => exact not_complains_handedOn hrun
    | ok reply => exact not_complains_ok p.1

theorem not_complains_viewUser (s : Repository) (o : Occasion T) (email : String) :
    ¬Complains (viewUser s o email).result :=
  not_complains_bind (Repository.not_complains_run s _) (not_complains_userOf email)

theorem not_complains_updatePassword {email : String} {password : Value}
    (hp : ¬User.IsShort password) : ¬Complains (updatePassword h s o email password).result := by
  have hcheck := User.not_complains_checkPassword hp
  unfold updatePassword
  cases hc : User.checkPassword password with
  | error f =>
    rw [hc] at hcheck
    exact not_complains_handedOn hcheck
  | ok _ =>
    have hhashed := not_complains_hashed h password
    simp only
    cases hd : hashed h password with
    | error f =>
      rw [hd] at hhashed
      exact not_complains_handedOn hhashed
    | ok digest =>
      have hrun := Repository.not_complains_run s (o := o) (.updatePassword email (.text digest))
      simp only
      generalize Repository.run _ o _ = out at hrun ⊢
      obtain ⟨result, state, events⟩ := out
      cases result with
      | error f => exact hrun
      | ok reply => exact not_complains_ok reply

/-- Nobody complains about input that is not malformed. -/
theorem not_complains_perform {t : Task} (ht : ¬t.IsMalformed) :
    ¬Complains (t.perform h s o).result := by
  unfold Task.perform
  cases t with
  | register u =>
    obtain ⟨ha, hp⟩ := not_or.mp ht
    exact not_complains_map (not_complains_register (Decidable.not_not.mp ha) hp)
  | viewUser email => exact not_complains_map (not_complains_viewUser s o email)
  | updateUser u =>
    have ha : Address.isEmail u.email = true := Decidable.not_not.mp ht
    simp only [updateUser, if_pos ha]
    exact not_complains_map (Repository.not_complains_run s (.updateUser u))
  | updatePassword email password =>
    exact not_complains_map (not_complains_updatePassword ht)

/-- Whatever the repository keeps and has in store, whatever the context says and whatever the
hasher can do: a task complains exactly if its input is malformed. It does so at once, about the
address first, and nothing has been called, logged or changed then. No request to a repository and
no login complains. -/
theorem complains_iff_malformed (h : Hasher) (s : Repository) (o : Occasion T) :
    (∀ t : Task, (Complains (t.perform h s o).result ↔ t.IsMalformed) ∧
      (t.IsMalformed → t.perform h s o = { result := .error t.complaint, state := s })) ∧
    (∀ r : Request Metadata, ¬Complains (s.run o r).result) ∧
    ∀ email password, ¬Complains (login h s o email password).result := by
  refine ⟨fun t => ⟨⟨fun hc => ?_, fun ht => ?_⟩, perform_of_malformed⟩,
    Repository.not_complains_run s, fun email password => ?_⟩
  · exact Classical.byContradiction fun ht => not_complains_perform ht hc
  · rw [perform_of_malformed ht]
    exact complains_error_iff.mpr t.isComplaint_complaint
  · exact not_complains_bind (not_complains_viewUser s o email) fun u =>
      not_complains_verified h password u.password

/-- The operation has been cancelled. -/
def stopped : Occasion Moment :=
  { contexts := [{ cancelled := true }], now := .whole 1000, context := 0 }

/-- The next document is going to be refused. -/
def failing : Repository := ⟨.archive { armed := [(.insert, .takenKey)] }, 0⟩

/-- No address and no password: the context, the archive and the rounds of the hasher are as bad,
but the address is what is complained about, and the archive is still going to fail. -/
theorem complains_iff_malformed_address :
    (Task.register ⟨"ann", .text "short", .dict 0 []⟩).IsMalformed ∧
      (Task.register ⟨"ann", .text "short", .dict 0 []⟩).perform (.bcrypt 0 "") failing stopped =
        { result := .error .invalidAddress, state := failing } := by
  have ht : (Task.register ⟨"ann", .text "short", .dict 0 []⟩).IsMalformed := by
    refine .inr ?_
    change "short".length < leastPasswordLength
    decide
  exact ⟨ht, ((complains_iff_malformed (.bcrypt 0 "") failing stopped).1 _).2 ht⟩

end Service

end Accounts
