import Accounts.Proofs.Store.Secrecy
import Accounts.Service

/-!
What the service shows of passwords. It looks at the length of a password that is to be hashed, and
bcrypt at its size; it looks at nothing else. So passwords that are alike in length and in size lead
to the same failures, the same log entries and the same calls of the driver. Logging in shows
whether the password was the right one, and nothing else.
-/
namespace Accounts

variable {T : Type}

/-! ## Passwords that are treated alike -/

namespace Value

/-- A value is a text, or it shows as it is. -/
theorem veiled_cases (v : Value) :
    (∃ a, v = .text a) ∨ (∀ a, v ≠ .text a) ∧ v.veiled = v := by
  cases v with
  | atom tag a =>
    cases a with
    | text s => exact .inl ⟨s, rfl⟩
    | _ => exact .inr ⟨fun _ h => (by cases h), rfl⟩
  | list tag items => exact .inr ⟨fun _ h => (by cases h), rfl⟩
  | dict tag entries => exact .inr ⟨fun _ h => (by cases h), rfl⟩

/-- Values that show the same are the same, or texts. -/
theorem veiled_eq_cases {v w : Value} (h : v.veiled = w.veiled) :
    v = w ∨ ∃ a b, v = .text a ∧ w = .text b := by
  rcases veiled_cases v with ⟨a, rfl⟩ | ⟨hv, hveiled⟩
  · rcases veiled_cases w with ⟨b, rfl⟩ | ⟨hw, hveiled⟩
    · exact .inr ⟨a, b, rfl, rfl⟩
    · exact (hw "" (hveiled.symm.trans h.symm)).elim
  · rcases veiled_cases w with ⟨b, rfl⟩ | ⟨hw, hveiled'⟩
    · exact (hv "" (hveiled.symm.trans h)).elim
    · exact .inl (hveiled.symm.trans (h.trans hveiled'))

/-- Both passwords are long enough, or both are too short. -/
def LengthAlike (v w : Value) : Prop :=
  ∀ a b, v = .text a → w = .text b →
    (leastPasswordLength ≤ a.length ↔ leastPasswordLength ≤ b.length)

/-- Both passwords have a size that bcrypt can hash, or both are too large. -/
def SizeAlike (v w : Value) : Prop :=
  ∀ a b, v = .text a → w = .text b → Bcrypt.isLong a = Bcrypt.isLong b

end Value

/-- The hasher takes both passwords, or neither. The transparent one takes them all. -/
def Hasher.TakesAlike (h : Hasher) (v w : Value) : Prop :=
  match h with
  | .reversing => True
  | .bcrypt .. => v.SizeAlike w

/-- Passwords that the service treats alike. -/
structure Hasher.TreatsAlike (h : Hasher) (v w : Value) : Prop where
  length : v.LengthAlike w
  size : h.TakesAlike v w

/-- Only the length of a password is checked. -/
theorem User.checkPassword_alike {v w : Value} (h : v.veiled = w.veiled) (hl : v.LengthAlike w) :
    checkPassword v = checkPassword w := by
  rcases Value.veiled_eq_cases h with rfl | ⟨a, b, rfl, rfl⟩
  · rfl
  · have hlength := hl a b rfl rfl
    simp only [checkPassword, Value.text, lengthOf?]
    by_cases ha : leastPasswordLength ≤ a.length
    · rw [if_neg (by omega), if_neg (by omega)]
    · rw [if_pos (by omega), if_pos (by omega)]

theorem User.validate_alike {M : Type} {u v : User M} (h : u.veiled = v.veiled)
    (hl : u.password.LengthAlike v.password) : u.validate = v.validate := by
  obtain ⟨hemail, hp, -⟩ := User.veiled_eq_iff.mp h
  simp only [validate, hemail, checkPassword_alike hp hl]

/-- Both are hashed, or both fail in the same way. -/
theorem Hasher.hash_alike {h : Hasher} {a b : String} (ht : h.TakesAlike (.text a) (.text b)) :
    (∃ d e, h.hash a = .ok d ∧ h.hash b = .ok e) ∨
      ∃ e, h.hash a = .error e ∧ h.hash b = .error e := by
  cases h with
  | reversing => exact .inl ⟨_, _, rfl, rfl⟩
  | bcrypt rounds salt =>
    have hlong : Bcrypt.isLong a = Bcrypt.isLong b := ht a b rfl rfl
    simp only [hash, Bcrypt.hash, hlong]
    cases Bcrypt.cost rounds with
    | error e => exact .inr ⟨e, rfl, rfl⟩
    | ok cost =>
      cases Bcrypt.isLong b with
      | true => exact .inr ⟨_, rfl, rfl⟩
      | false =>
        cases Bcrypt.givenSalt? salt with
        | none => exact .inr ⟨_, rfl, rfl⟩
        | some bytes => exact .inl ⟨_, _, rfl, rfl⟩

namespace Service

theorem hashed_alike {h : Hasher} {v w : Value} (hv : v.veiled = w.veiled) (ht : h.TakesAlike v w) :
    (∃ d e, hashed h v = .ok d ∧ hashed h w = .ok e) ∨
      ∃ e, hashed h v = .error e ∧ hashed h w = .error e := by
  rcases Value.veiled_eq_cases hv with rfl | ⟨a, b, rfl, rfl⟩
  · cases hashed h v with
    | ok d => exact .inl ⟨d, d, rfl, rfl⟩
    | error e => exact .inr ⟨e, rfl, rfl⟩
  · simp only [hashed, Value.text, Value.text?]
    rcases Hasher.hash_alike ht with ⟨d, e, ha, hb⟩ | ⟨e, ha, hb⟩
    · exact .inl ⟨d, e, by rw [ha], by rw [hb]⟩
    · exact .inr ⟨_, by rw [ha], by rw [hb]⟩

/-! ## Operations -/

variable [Timeline T] {s t : Repository} {o : Occasion T}

theorem viewUser_veiled (hs : s.IsDiscreet) (o : Occasion T) (email : String) :
    viewUser s.veiled o email = (viewUser s o email).veiled User.veiled Repository.veiled := by
  have hrun : s.veiled.run o (.retrieve email) = _ := Repository.run_veiled hs o (.retrieve email)
  simp only [viewUser, hrun]
  obtain ⟨result, state, events⟩ := s.run o (.retrieve email)
  rcases result with f | ⟨_ | u⟩ <;> rfl

theorem updateUser_veiled (hs : s.IsDiscreet) (o : Occasion T) (u : User Metadata) :
    updateUser s.veiled o u.veiled =
      (updateUser s o u).veiled Reply.veiled Repository.veiled := by
  have hrun : s.veiled.run o (.updateUser u.veiled) = _ :=
    Repository.run_veiled hs o (.updateUser u)
  simp only [updateUser, User.email_veiled, hrun]
  split <;> rfl

/-- Requests that show the same to repositories that show the same. -/
theorem run_alike (hw : s.IsDiscreet) (hs : s.veiled = t.veiled) {r q : Request Metadata} (hr : r.veiled = q.veiled) :
    (s.run o r).veiled Reply.veiled Repository.veiled =
      (t.run o q).veiled Reply.veiled Repository.veiled := by
  rw [← Repository.run_veiled hw, ← Repository.run_veiled (hw.of_veiled_eq hs), hs, hr]

theorem enrolled_alike {h : Hasher} {u v : User Metadata} (hu : u.veiled = v.veiled)
    (ht : h.TreatsAlike u.password v.password) (supply : NodeId) :
    (∃ x y next, enrolled h supply u = .ok (x, next) ∧ enrolled h supply v = .ok (y, next) ∧
        x.veiled = y.veiled) ∨
      ∃ e, enrolled h supply u = .error e ∧ enrolled h supply v = .error e := by
  obtain ⟨hemail, hp, hm⟩ := User.veiled_eq_iff.mp hu
  simp only [enrolled, User.validate_alike hu ht.length, hm]
  cases v.validate with
  | error e => exact .inr ⟨e, rfl, rfl⟩
  | ok _ =>
    rcases hashed_alike hp ht.size with ⟨d, e, hd, he⟩ | ⟨e, hd, he⟩
    · simp only [hd, he]
      cases v.metadata.freshDict supply with
      | error e => exact .inr ⟨_, rfl, rfl⟩
      | ok p => exact .inl ⟨_, _, p.2, rfl, rfl, User.veiled_eq_iff.mpr ⟨hemail, rfl, rfl⟩⟩
    · exact .inr ⟨e, by rw [hd], by rw [he]⟩

theorem register_alike (hw : s.IsDiscreet) (hs : s.veiled = t.veiled) {h : Hasher} {u v : User Metadata}
    (hu : u.veiled = v.veiled) (ht : h.TreatsAlike u.password v.password) :
    (register h s o u).veiled User.veiled Repository.veiled =
      (register h t o v).veiled User.veiled Repository.veiled := by
  obtain ⟨hemail, -, -⟩ := User.veiled_eq_iff.mp hu
  have hsupply : s.veiled.supply = t.veiled.supply := congrArg Repository.supply hs
  change s.supply = t.supply at hsupply
  simp only [register, hsupply, hemail]
  rcases enrolled_alike hu ht t.supply with ⟨x, y, next, hx, hy, hxy⟩ | ⟨e, hx, hy⟩
  · have hnext : Repository.veiled { s with supply := next } = .veiled { t with supply := next } :=
      congrArg (fun r : Repository => { r with supply := next }) hs
    have hrun := run_alike (o := o) (s := { s with supply := next }) hw hnext (r := .save x) (q := .save y) (congrArg Request.save hxy)
    obtain ⟨hstate, hevents, hresult⟩ := Outcome.veiled_eq_cases hrun
    simp only [hx, hy]
    rcases hresult with ⟨a, b, ha, hb, -⟩ | ⟨e, ha, hb⟩
    · simp only [ha, hb, Outcome.veiled, Except.map, List.map_append, hstate, hevents, hxy]
    · simp only [ha, hb, Outcome.veiled, Outcome.withResult, hstate, hevents, Except.map]
  · simp only [hx, hy, Outcome.veiled, hs, Except.map]

theorem updatePassword_alike (hw : s.IsDiscreet) (hs : s.veiled = t.veiled) {h : Hasher} (email : String) {p q : Value}
    (hv : p.veiled = q.veiled) (ht : h.TreatsAlike p q) :
    (updatePassword h s o email p).veiled Reply.veiled Repository.veiled =
      (updatePassword h t o email q).veiled Reply.veiled Repository.veiled := by
  simp only [updatePassword, User.checkPassword_alike hv ht.length]
  cases User.checkPassword q with
  | error e => simp only [Outcome.veiled, hs, Except.map]
  | ok _ =>
    rcases hashed_alike hv ht.size with ⟨d, e, hd, he⟩ | ⟨e, hd, he⟩
    · have hrun := run_alike (o := o) hw hs (r := .updatePassword email (.text d))
        (q := .updatePassword email (.text e)) rfl
      obtain ⟨hstate, hevents, hresult⟩ := Outcome.veiled_eq_cases hrun
      simp only [hd, he]
      rcases hresult with ⟨a, b, ha, hb, hab⟩ | ⟨e, ha, hb⟩
      · simp only [ha, hb, Outcome.veiled, Except.map, List.map_append, hstate, hevents, hab]
      · simp only [ha, hb, hrun]
    · simp only [hd, he, Outcome.veiled, hs, Except.map]

/-- Comparing passwords comes to an answer, or to the same failure. -/
theorem verified_alike (h : Hasher) {p q x y : Value} (hp : p.veiled = q.veiled)
    (hx : x.veiled = y.veiled) :
    (verified h p x).map (fun _ => ()) = (verified h q y).map fun _ => () := by
  rcases Value.veiled_eq_cases hp with rfl | ⟨a, b, rfl, rfl⟩
  · rcases Value.veiled_eq_cases hx with rfl | ⟨c, d, rfl, rfl⟩
    · rfl
    · simp only [verified]
      cases p.text? <;> rfl
  · rcases Value.veiled_eq_cases hx with rfl | ⟨c, d, rfl, rfl⟩
    · have htext : ∀ c, (Value.text c).text? = some c := fun _ => rfl
      simp only [verified, htext]
      cases x.text? with
      | none => cases h <;> rfl
      | some digest => rfl
    · rfl

theorem login_alike (hw : s.IsDiscreet) (hs : s.veiled = t.veiled) (h : Hasher) (email : String) {p q : Value}
    (hv : p.veiled = q.veiled) :
    (login h s o email p).veiled (fun _ => ()) Repository.veiled =
      (login h t o email q).veiled (fun _ => ()) Repository.veiled := by
  have hview : (viewUser s o email).veiled User.veiled Repository.veiled =
      (viewUser t o email).veiled User.veiled Repository.veiled := by
    rw [← viewUser_veiled hw, ← viewUser_veiled (hw.of_veiled_eq hs), hs]
  obtain ⟨hstate, hevents, hresult⟩ := Outcome.veiled_eq_cases hview
  simp only [login, Outcome.veiled, Outcome.withResult, hstate, hevents]
  rcases hresult with ⟨u, v, hu, hw, huv⟩ | ⟨e, hu, hw⟩
  · obtain ⟨-, hpassword, -⟩ := User.veiled_eq_iff.mp huv
    simp only [hu, hw, Except.bind, verified_alike h hv hpassword]
  · simp only [hu, hw, Except.bind]

end Service

end Accounts
