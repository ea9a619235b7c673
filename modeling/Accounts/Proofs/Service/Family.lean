import Accounts.Proofs.Hash.Salt
import Accounts.Proofs.Service.Mirror
import Accounts.Proofs.Store.Driver

/-!
Failures of the service. Opening an account and changing a password end well or with a failure of
the family, whatever the repository, with one exception: bcrypt refuses a password that is longer
than its key, and nothing else has refused it before. Passwords are checked for a least number of
characters and for no greatest one, and their bytes are not counted.
-/
namespace Accounts

variable {T α β : Type}

/-- The result is a value or a failure of the family. -/
def InFamily (result : Except Failure α) : Prop :=
  ∀ f, result = .error f → ∃ k, f.family? = some k

@[simp] theorem inFamily_ok (a : α) : InFamily (.ok a : Except Failure α) := fun _ h => by cases h

@[simp] theorem inFamily_error_iff {f : Failure} :
    InFamily (.error f : Except Failure α) ↔ ∃ k, f.family? = some k :=
  ⟨fun h => h f rfl, fun h g hg => by cases hg; exact h⟩

/-- Only the failure of a result matters. -/
theorem inFamily_map_iff {result : Except Failure α} {g : α → β} :
    InFamily (result.map g) ↔ InFamily result := by
  cases result with
  | ok a => exact iff_of_true (inFamily_ok (g a)) (inFamily_ok a)
  | error f => exact inFamily_error_iff.trans inFamily_error_iff.symm

theorem Translated.inFamily {report : Option Cause} {result : Except Failure α}
    (h : Translated report result) : InFamily result := by
  cases result with
  | ok a => exact inFamily_ok a
  | error f =>
    obtain ⟨-, k, hk, -⟩ := h
    exact inFamily_error_iff.mpr ⟨k, hk⟩

/-! ## Repositories -/

section

variable [Timeline T] {o : Occasion T}

/-- A context that allows no more work fails with a failure of the family, unless the time left
cannot be told. -/
theorem Occasion.inFamily_check (hc : o.check ≠ .error (.context .overflow)) :
    InFamily o.check := by
  intro f hf
  obtain ⟨e, rfl, -⟩ := check_eq_error_iff.mp hf
  cases e with
  | cancelled => exact ⟨_, rfl⟩
  | expired => exact ⟨_, rfl⟩
  | overflow => exact absurd hf hc

/-- The body of a request fails because its address is taken or unknown. -/
theorem Directory.body_eq_error {M : Type} {entries : Table (User M)} {r : Request M} {f : Failure}
    (h : body entries r = .error f) : f = .taken r.email none ∨ f = .unknown r.email := by
  cases r with
  | save u =>
    simp only [body] at h
    split at h
    · cases h
      exact .inl rfl
    · cases h
  | updateUser u =>
    simp only [body, modify] at h
    split at h
    · cases h
    · cases h
      exact .inr rfl
  | updatePassword email password =>
    simp only [body, modify] at h
    split at h
    · cases h
    · cases h
      exact .inr rfl
  | retrieve email =>
    simp only [body] at h
    split at h
    · cases h
    · cases h
      exact .inr rfl

theorem Directory.inFamily_run {M : Type} (d : Directory M)
    (hc : o.check ≠ .error (.context .overflow)) (r : Request M) :
    InFamily (d.run o r).result := by
  have hcheck := Occasion.inFamily_check hc
  unfold run accept
  cases ho : o.check with
  | error f =>
    rw [ho] at hcheck
    exact inFamily_error_iff.mpr (hcheck f rfl)
  | ok left =>
    simp only
    cases hf : d.failure? with
    | some f =>
      unfold failure? at hf
      split at hf
      · split at hf
        · cases hf
        · cases hf
          exact inFamily_error_iff.mpr ⟨_, rfl⟩
      · cases hf
    | none =>
      simp only [perform]
      cases hb : body d.entries r with
      | error f =>
        rcases body_eq_error hb with rfl | rfl
        · exact inFamily_error_iff.mpr ⟨_, rfl⟩
        · exact inFamily_error_iff.mpr ⟨_, rfl⟩
      | ok p => exact inFamily_ok p.1

theorem Archive.inFamily_run (c : Collection) {time : Int} (hw : o.wallTime = .ok time)
    (hc : o.check ≠ .error (.context .overflow)) {r : Request Value} (hr : r.action ≠ .retrieve) :
    InFamily (Archive.run c o r).result := by
  exact ((run_translated_iff hw hc r).mpr fun ⟨hlookup, _⟩ => hr hlookup).inFamily

/-- On a date every write ends well or with a failure of the family. -/
theorem Repository.inFamily_run (s : Repository) {time : Int} (hw : o.wallTime = .ok time)
    (hc : o.check ≠ .error (.context .overflow)) {r : Request Metadata}
    (hr : r.erase.action ≠ .retrieve) : InFamily (s.run o r).result := by
  obtain ⟨backend, supply⟩ := s
  rw [← inFamily_map_iff (g := Reply.erase)]
  cases backend with
  | directory d =>
    simp only [run, (runDirectory_eq d supply o r).1]
    exact Directory.inFamily_run d.erase hc r.erase
  | archive c =>
    simp only [run, (runArchive_eq c supply o r).1]
    exact Archive.inFamily_run c hw hc hr

end

/-! ## Passwords that are texts -/

theorem User.checkPassword_text_iff {p : String} :
    checkPassword (.text p) = .ok () ↔ leastPasswordLength ≤ p.length := by
  simp only [checkPassword, Value.text, lengthOf?]
  split
  · next h => exact iff_of_false (fun hx => by cases hx) (by omega)
  · next h => exact iff_of_true rfl (by omega)

theorem User.inFamily_checkPassword (p : String) : InFamily (checkPassword (.text p)) := by
  simp only [checkPassword, Value.text, lengthOf?]
  split
  · exact inFamily_error_iff.mpr ⟨_, rfl⟩
  · exact inFamily_ok ()

theorem User.inFamily_validate {u : User Metadata} {p : String} (hp : u.password = .text p) :
    InFamily u.validate := by
  unfold validate
  by_cases ha : Address.isEmail u.email
  · rw [if_pos ha, hp]
    exact inFamily_checkPassword p
  · rw [if_neg ha]
    exact inFamily_error_iff.mpr ⟨_, rfl⟩

namespace Service

/-- A text is hashed unless it is too long for the hasher. -/
theorem hashed_of_isSound {h : Hasher} (hs : h.IsSound) (p : String) :
    (h.Refuses p ∧ hashed h (.text p) = .error (.hashing .longPassword)) ∨
      ¬h.Refuses p ∧ ∃ digest, hashed h (.text p) = .ok digest := by
  have ht : (Value.text p).text? = some p := rfl
  unfold hashed
  rw [ht]
  rcases h.hash_of_isSound hs p with ⟨hr, hx⟩ | ⟨hr, digest, hx⟩
  · exact .inl ⟨hr, by simp only [hx]⟩
  · exact .inr ⟨hr, digest, by simp only [hx]⟩

/-- What checks its input and hashes a password before it does the rest. It fails outside the
family exactly when the input is valid and the password too long for the hasher. -/
theorem inFamily_hashing_iff {h : Hasher} (hs : h.IsSound) {p : String}
    {check : Except Failure Unit} (hcheck : InFamily check) {rest : String → Except Failure α}
    (hrest : ∀ digest, InFamily (rest digest)) :
    InFamily (check.bind fun _ => (hashed h (.text p)).bind rest) ↔
      ¬(check = .ok () ∧ h.Refuses p) := by
  cases check with
  | error f => exact iff_of_true (inFamily_error_iff.mpr (hcheck f rfl)) fun h => by cases h.1
  | ok _ =>
    rcases hashed_of_isSound hs p with ⟨hr, hx⟩ | ⟨hr, digest, hx⟩
    · rw [hx]
      refine iff_of_false ?_ fun h => h ⟨rfl, hr⟩
      intro hfamily
      obtain ⟨k, hk⟩ := hfamily (.hashing .longPassword) rfl
      cases hk
    · rw [hx]
      exact iff_of_true (hrest digest) fun h => hr h.2

variable [Timeline T] {o : Occasion T} {time : Int}

theorem inFamily_register_iff {h : Hasher} (hs : h.IsSound) (s : Repository)
    (hw : o.wallTime = .ok time) (hc : o.check ≠ .error (.context .overflow))
    {u : User Metadata} {p : String} (hp : u.password = .text p) (hm : u.metadata.IsDict) :
    InFamily (register h s o u).result ↔ ¬(u.validate = .ok () ∧ h.Refuses p) := by
  obtain ⟨fresh, hf, -⟩ := Tree.freshDict_of_isDict (Tree.isDict_erase hm) s.supply
  have hresult : (register h s o u).result = u.validate.bind fun _ =>
      (hashed h (.text p)).bind fun digest =>
        (Repository.run { s with supply := s.supply + 1 } o
          (.save ⟨u.email, .text digest, fresh⟩)).result.map
            fun _ => ⟨u.email, .text digest, fresh⟩ := by
    unfold register enrolled
    rw [hp]
    cases u.validate with
    | error f => rfl
    | ok _ =>
      cases hashed h (.text p) with
      | error f => rfl
      | ok digest =>
        simp only [hf, Except.bind]
        generalize Repository.run _ o _ = out
        cases out.result <;> rfl
  rw [hresult]
  refine inFamily_hashing_iff hs (User.inFamily_validate hp) fun digest => ?_
  rw [inFamily_map_iff]
  exact Repository.inFamily_run _ hw hc fun h => by cases h

/-- The same holds for changing a password. -/
theorem inFamily_updatePassword_iff {h : Hasher} (hs : h.IsSound) (s : Repository)
    (hw : o.wallTime = .ok time) (hc : o.check ≠ .error (.context .overflow)) (email p : String) :
    InFamily (updatePassword h s o email (.text p)).result ↔
      ¬(leastPasswordLength ≤ p.length ∧ h.Refuses p) := by
  have hresult : (updatePassword h s o email (.text p)).result =
      (User.checkPassword (.text p)).bind fun _ => (hashed h (.text p)).bind fun digest =>
        (s.run o (.updatePassword email (.text digest))).result := by
    unfold updatePassword
    cases User.checkPassword (.text p) with
    | error f => rfl
    | ok _ =>
      cases hashed h (.text p) with
      | error f => rfl
      | ok digest =>
        simp only [Except.bind]
        generalize s.run o _ = out
        obtain ⟨result, state, events⟩ := out
        cases result <;> rfl
  rw [hresult, ← User.checkPassword_text_iff]
  refine inFamily_hashing_iff hs (User.inFamily_checkPassword p) fun digest => ?_
  exact Repository.inFamily_run s hw hc fun h => by cases h

/-! ## The clock in use -/

/-- Over any repository, on a date, and with a deadline that is a double or none, opening an account
and changing a password end well or fail within the family, except for one thing. A password that
has passed the validation, which counts characters, is too long for bcrypt, which counts bytes. -/
theorem writes_inFamily_iff {h : Hasher} (hs : h.IsSound) (s : Repository) {o : Occasion Moment}
    {time : Int} (hw : o.wallTime = .ok time) (hn : o.now.double? ≠ none)
    (hd : ∀ d, o.contexts.deadline? o.context = some d → d.double? ≠ none) :
    (∀ (u : User Metadata) (p : String), u.password = .text p → u.metadata.IsDict →
      (InFamily (register h s o u).result ↔ ¬(u.validate = .ok () ∧ h.Refuses p))) ∧
    ∀ email p : String, InFamily (updatePassword h s o email (.text p)).result ↔
      ¬(leastPasswordLength ≤ p.length ∧ h.Refuses p) := by
  have hc := Occasion.check_ne_overflow hn hd
  refine ⟨?_, ?_⟩
  · intro u p hp hm
    exact inFamily_register_iff hs s hw hc hp hm
  · intro email p
    exact inFamily_updatePassword_iff hs s hw hc email p

/-- Bcrypt with the least cost and a salt of zeros. -/
def cheapest : Hasher := .bcrypt 4 "......................"

theorem isSound_cheapest : cheapest.IsSound :=
  ⟨by decide, by decide, List.replicate 16 0, rfl, rfl⟩

/-- Ten seconds before the deadline. -/
def hurried : Occasion Moment :=
  { contexts := [{ deadline := some (.whole 1010) }], now := .whole 1000, context := 0 }

/-- A password of 24 characters with three bytes each, which fill the key of bcrypt exactly. -/
def filling : String := String.ofList (List.replicate 24 '\u20AC')

theorem writes_inFamily_iff_filling :
    InFamily (register cheapest ⟨.archive {}, 0⟩ hurried
        { email := "ann@site.org", password := .text filling, metadata := .dict 0 [] }).result ∧
      InFamily (updatePassword cheapest ⟨.archive {}, 0⟩ hurried "ann@site.org"
        (.text filling)).result := by
  have hw : hurried.wallTime = .ok 1704068200 := rfl
  have hn : hurried.now.double? ≠ none := by decide +kernel
  have hd : ∀ d, hurried.contexts.deadline? hurried.context = some d → d.double? ≠ none := by
    intro d h
    have hsome : hurried.contexts.deadline? hurried.context = some (.whole 1010) := rfl
    rw [hsome] at h
    cases h
    decide +kernel
  have hshort : ¬cheapest.Refuses filling := by
    have hsize : filling.utf8ByteSize = 72 := by decide +kernel
    simp only [cheapest, Hasher.Refuses, hsize]
    decide
  obtain ⟨hreg, hupd⟩ := writes_inFamily_iff isSound_cheapest ⟨.archive {}, 0⟩ hw hn hd
  refine ⟨(hreg _ filling rfl ?_).mpr fun h => hshort h.2,
    (hupd "ann@site.org" filling).mpr fun h => hshort h.2⟩
  trivial

def overlong : User Metadata :=
  { email := "ann@site.org"
    password := .text (String.ofList (List.replicate 73 'x'))
    metadata := .dict 0 [] }

/-- A valid user is refused by the hasher, outside the family, and so is the change of a password.
-/
theorem writes_outsideFamily_overlong :
    overlong.validate = .ok () ∧
      (register cheapest ⟨.directory {}, 0⟩ hurried overlong).result =
        .error (.hashing .longPassword) ∧
      (updatePassword cheapest ⟨.directory {}, 0⟩ hurried "ann@site.org" overlong.password).result =
        .error (.hashing .longPassword) ∧
      Failure.family? (.hashing .longPassword) = none := by
  have hp : overlong.password = .text (String.ofList (List.replicate 73 'x')) := rfl
  have hv : overlong.validate = .ok () := by
    have ha : Address.isEmail overlong.email = true := by decide +kernel
    rw [User.validate, if_pos ha, hp, User.checkPassword_text_iff]
    decide +kernel
  have hlong : cheapest.Refuses (String.ofList (List.replicate 73 'x')) := by
    have hsize : (String.ofList (List.replicate 73 'x')).utf8ByteSize = 73 := by decide +kernel
    simp only [cheapest, Hasher.Refuses, hsize]
    decide
  have hx : hashed cheapest overlong.password = .error (.hashing .longPassword) := by
    rw [hp]
    rcases hashed_of_isSound isSound_cheapest _ with ⟨-, hx⟩ | ⟨hno, -⟩
    · exact hx
    · exact absurd hlong hno
  refine ⟨hv, ?_, ?_, rfl⟩
  · simp only [register, enrolled, hv, hx]
  · have hc : User.checkPassword overlong.password = .ok () := by
      rw [hp, User.checkPassword_text_iff]
      decide +kernel
    simp only [updatePassword, hc, hx]

end Service

end Accounts
