import Accounts.Proofs.Store.Contents

/-!
What a store remembers of its history. Requests arrive under any circumstances, and between them the
store may be told to fail. The requests that succeeded are recorded, and looking an address up gives
the password and the metadata that were last given to it, each by itself.
-/
namespace Accounts

variable {M T : Type}

/-! ## What one request writes -/

namespace Request

/-- The password that a request gives to an address. -/
def passwordFor (email : String) : Request M → Option Value
  | .save u => if u.email = email then some u.password else none
  | .updatePassword e password => if e = email then some password else none
  | .updateUser _ | .retrieve _ => none

/-- The metadata that a request gives to an address. -/
def metadataFor (email : String) : Request M → Option M
  | .save u | .updateUser u => if u.email = email then some u.metadata else none
  | .updatePassword .. | .retrieve _ => none

/-- The request opens the account of an address. -/
def saves (email : String) : Request M → Bool
  | .save u => u.email == email
  | _ => false

/-- A request gives nothing to other addresses. -/
theorem passwordFor_other {r : Request M} {email : String} (h : r.email ≠ email) :
    r.passwordFor email = none := by
  cases r with
  | save u => exact if_neg h
  | updatePassword e p => exact if_neg h
  | updateUser u => rfl
  | retrieve e => rfl

theorem metadataFor_other {r : Request M} {email : String} (h : r.email ≠ email) :
    r.metadataFor email = none := by
  cases r with
  | save u => exact if_neg h
  | updateUser u => exact if_neg h
  | updatePassword e p => rfl
  | retrieve e => rfl

theorem saves_other {r : Request M} {email : String} (h : r.email ≠ email) :
    r.saves email = false := by
  cases r with
  | save u => exact beq_false_of_ne h
  | _ => rfl

end Request

namespace Directory

/-- Everything that the body of a request can do. -/
theorem body_cases {before after : Table (User M)} {r : Request M} {reply : Reply M}
    (h : body before r = .ok (reply, after)) :
    (∃ u, r = .save u ∧ before.get? u.email = none ∧ after = before.put u.email u) ∨
      (∃ u v, r = .updateUser u ∧ before.get? u.email = some v ∧
        after = before.put u.email (v.withMetadata u.metadata)) ∨
      (∃ email p v, r = .updatePassword email p ∧ before.get? email = some v ∧
        after = before.put email { v with password := p }) ∨
      (∃ email v, r = .retrieve email ∧ before.get? email = some v ∧ after = before) := by
  cases r with
  | save u =>
    simp only [body] at h
    cases hg : before.get? u.email with
    | some v =>
      rw [hg] at h
      cases h
    | none =>
      rw [hg] at h
      cases h
      exact .inl ⟨u, rfl, hg, rfl⟩
  | updateUser u =>
    simp only [body, modify] at h
    cases hg : before.get? u.email with
    | none =>
      rw [hg] at h
      cases h
    | some v =>
      rw [hg] at h
      cases h
      exact .inr (.inl ⟨u, v, rfl, hg, rfl⟩)
  | updatePassword email p =>
    simp only [body, modify] at h
    cases hg : before.get? email with
    | none =>
      rw [hg] at h
      cases h
    | some v =>
      rw [hg] at h
      cases h
      exact .inr (.inr (.inl ⟨email, p, v, rfl, hg, rfl⟩))
  | retrieve email =>
    simp only [body] at h
    cases hg : before.get? email with
    | none =>
      rw [hg] at h
      cases h
    | some v =>
      rw [hg] at h
      cases h
      exact .inr (.inr (.inr ⟨email, v, rfl, hg, rfl⟩))

/-- The body of a request leaves other addresses alone. -/
theorem body_other {before after : Table (User M)} {r : Request M} {reply : Reply M}
    {email : String} (h : body before r = .ok (reply, after)) (he : r.email ≠ email) :
    after.get? email = before.get? email := by
  rcases body_cases h with ⟨u, rfl, -, rfl⟩ | ⟨u, v, rfl, -, rfl⟩ | ⟨e, p, v, rfl, -, rfl⟩ |
    ⟨e, v, rfl, -, rfl⟩
  · exact Table.get?_put_other (Ne.symm he) _ _
  · exact Table.get?_put_other (Ne.symm he) _ _
  · exact Table.get?_put_other (Ne.symm he) _ _
  · rfl

end Directory

/-! ## Histories -/

/-- The requests that succeeded, the latest first. -/
abbrev History := List (Request Value)

namespace History

/-- The password that an address was last given. -/
def password? (email : String) (done : History) : Option Value :=
  done.findSome? (Request.passwordFor email)

/-- The metadata that an address was last given. -/
def metadata? (email : String) (done : History) : Option Value :=
  done.findSome? (Request.metadataFor email)

/-- An account has been opened for the address. -/
def saved (email : String) (done : History) : Bool := done.any (Request.saves email)

theorem password?_cons (email : String) (r : Request Value) (done : History) :
    password? email (r :: done) = (r.passwordFor email).or (password? email done) := by
  simp only [password?, List.findSome?_cons]
  cases r.passwordFor email <;> rfl

theorem metadata?_cons (email : String) (r : Request Value) (done : History) :
    metadata? email (r :: done) = (r.metadataFor email).or (metadata? email done) := by
  simp only [metadata?, List.findSome?_cons]
  cases r.metadataFor email <;> rfl

theorem saved_cons (email : String) (r : Request Value) (done : History) :
    saved email (r :: done) = (r.saves email || saved email done) := by
  simp [saved]

/-- What a table holds for an address is what the history says about it. -/
def Agrees (done : History) (email : String) : Option (User Value) → Prop
  | none => saved email done = false ∧ password? email done = none ∧ metadata? email done = none
  | some u => saved email done = true ∧ u.email = email ∧ password? email done = some u.password ∧
      metadata? email done = some u.metadata

/-- A table and the history that led to it. -/
def Records (done : History) (entries : Table (User Value)) : Prop :=
  ∀ email, Agrees done email (entries.get? email)

theorem records_nil : Records [] [] := fun _ => ⟨rfl, rfl, rfl⟩

/-- A request that succeeds is recorded with what it does. -/
theorem records_body {done : History} {before after : Table (User Value)} {r : Request Value}
    {reply : Reply Value} (hr : Records done before)
    (h : Directory.body before r = .ok (reply, after)) : Records (r :: done) after := by
  intro email
  by_cases he : r.email = email
  · subst he
    have ha := hr r.email
    rcases Directory.body_cases h with ⟨u, rfl, hg, rfl⟩ | ⟨u, v, rfl, hg, rfl⟩ |
      ⟨e, p, v, rfl, hg, rfl⟩ | ⟨e, v, rfl, hg, rfl⟩
    · simp [Agrees, Request.email, saved_cons, password?_cons, metadata?_cons, Request.saves,
        Request.passwordFor, Request.metadataFor]
    · simp only [Request.email, hg, Agrees] at ha
      simp [Agrees, Request.email, saved_cons, password?_cons, metadata?_cons, Request.saves,
        Request.passwordFor, Request.metadataFor, ha]
    · simp only [Request.email, hg, Agrees] at ha
      simp [Agrees, Request.email, saved_cons, password?_cons, metadata?_cons, Request.saves,
        Request.passwordFor, Request.metadataFor, ha]
    · simp only [Request.email, hg, Agrees] at ha
      simp [Agrees, Request.email, hg, saved_cons, password?_cons, metadata?_cons, Request.saves,
        Request.passwordFor, Request.metadataFor, ha]
  · have hs : saved email (r :: done) = saved email done := by
      rw [saved_cons, Request.saves_other he, Bool.false_or]
    have hp : password? email (r :: done) = password? email done := by
      rw [password?_cons, Request.passwordFor_other he, Option.none_or]
    have hm : metadata? email (r :: done) = metadata? email done := by
      rw [metadata?_cons, Request.metadataFor_other he, Option.none_or]
    have ha := hr email
    rw [Directory.body_other h he]
    unfold Agrees at ha ⊢
    rw [hs, hp, hm]
    exact ha

end History

/-! ## Metadata that are dictionaries -/

def Tree.IsDict {ι : Type} : Tree ι → Prop
  | .dict .. => True
  | _ => False

theorem Tree.isDict_erase {m : Metadata} (h : m.IsDict) : m.erase.IsDict := by
  cases m with
  | dict tag entries => trivial
  | atom tag a => exact h.elim
  | list tag items => exact h.elim

/-- The metadata that a request brings along are a dictionary. -/
def Request.HasDict : Request Metadata → Prop
  | .save u | .updateUser u => u.metadata.IsDict
  | .updatePassword .. | .retrieve _ => True

namespace Archive

/-- A dictionary is read back as it was written, an empty one too. -/
theorem readBack_of_isDict {m : Value} (h : m.IsDict) : readBack m = m := by
  cases m with
  | dict tag entries =>
    cases entries with
    | nil => rfl
    | cons e es => rfl
  | atom tag a => exact h.elim
  | list tag items => exact h.elim

theorem readBack_erase {m : Metadata} (h : m.IsDict) : readBack m.erase = m.erase :=
  readBack_of_isDict (Tree.isDict_erase h)

end Archive

theorem Request.readBack_erase {r : Request Metadata} (h : r.HasDict) :
    r.erase.readBack = r.erase := by
  cases r with
  | save u =>
    have hm : Archive.readBack u.metadata.erase = u.metadata.erase := Archive.readBack_erase h
    simp [Request.erase, Request.readBack, User.erase, User.withMetadata, hm]
  | updateUser u =>
    have hm : Archive.readBack u.metadata.erase = u.metadata.erase := Archive.readBack_erase h
    simp [Request.erase, Request.readBack, User.erase, User.withMetadata, hm]
  | updatePassword email p => rfl
  | retrieve email => rfl

/-! ## Failures in store -/

/-- Nothing is cancelled and there is no deadline. -/
def Occasion.anytime : Occasion Moment := { contexts := [{}], now := .whole 1000, context := 0 }

namespace Repository

/-- No failure is in store for the requests that use a method. -/
def Quiet (m : Method) (s : Repository) : Prop :=
  match s.backend with
  | .directory d => d.failure? = none
  | .archive c => c.fault? m = none

instance (m : Method) (s : Repository) : Decidable (s.Quiet m) :=
  match s with
  | ⟨.directory d, _⟩ => inferInstanceAs (Decidable (d.failure? = none))
  | ⟨.archive c, _⟩ => inferInstanceAs (Decidable (c.fault? m = none))

theorem received_of_hasDict {s : Repository} {r : Request Metadata}
    (h : s.isArchive = true → r.HasDict) : s.received r = r.erase := by
  obtain ⟨backend, supply⟩ := s
  cases backend with
  | directory d => rfl
  | archive c => exact Request.readBack_erase (h rfl)

/-- An address is looked up in the contents when nothing stands in the way. -/
theorem run_retrieve [Timeline T] {s : Repository} {o : Occasion T} {left : Option T}
    (hc : o.check = .ok left) (hq : s.Quiet .find) (email : String) :
    (s.run o (.retrieve email)).result.map Reply.erase =
      match s.contents.get? email with
      | some u => .ok (.user u)
      | none => .error (.unknown email) := by
  obtain ⟨backend, supply⟩ := s
  cases backend with
  | directory d =>
    have hf : d.erase.failure? = none := hq
    have hr := (runDirectory_eq d supply o (.retrieve email)).1
    simp only [run, contents]
    rw [hr]
    simp only [Directory.run, Directory.accept, hc, hf, Directory.perform, Directory.body,
      Request.erase]
    cases d.erase.entries.get? email <;> rfl
  | archive c =>
    have hf : c.fault? .find = none := hq
    have hr := (runArchive_eq c supply o (.retrieve email)).1
    have he : c.enter (Archive.call (.retrieve email) 0 left).method
        (Archive.call (.retrieve email) 0 left).arguments = (.ok (), c) := by
      have ha : Tree.itemsFault? [Collection.query email] = none := by
        simp [Collection.query, Value.record, Tree.itemsFault?, Tree.fault?, Tree.entriesFault?,
          Atom.keyFault?, Atom.valueFault?, Value.text]
      simp only [Archive.call, Collection.enter, ha, hf]
    have hx := Archive.execute_of_entered left he
    simp only [Request.readBack, Directory.body] at hx
    simp only [run, contents]
    rw [hr]
    have hrun : Archive.run c o (.retrieve email) =
        Archive.perform c (.retrieve email) 0 left := by
      rw [Archive.run, Archive.prepare, hc]
      rfl
    simp only [Request.erase, hrun, Archive.result_perform]
    cases hg : (Archive.contents c.documents).get? email with
    | some u =>
      rw [hg] at hx
      obtain ⟨documents, hx, -⟩ := hx
      rw [hx]
      rfl
    | none =>
      rw [hg] at hx
      obtain ⟨e, hx, hs⟩ := hx
      rw [hx]
      have hu : Archive.shown (.retrieve email) e = .unknown email :=
        Failure.eq_unknown_of_withoutCause hs
      exact congrArg Except.error hu

/-- Looking an address up finds the user that is kept for it, or shows that there is none. -/
theorem run_retrieve_cases [Timeline T] {s : Repository} {o : Occasion T} {left : Option T}
    (hc : o.check = .ok left) (hq : s.Quiet .find) (email : String) :
    (s.contents.get? email = none ∧
        (s.run o (.retrieve email)).result = .error (.unknown email)) ∨
      ∃ u : User Metadata, s.contents.get? email = some u.erase ∧
        (s.run o (.retrieve email)).result = .ok (.user u) := by
  have hr := run_retrieve hc hq email
  cases hg : s.contents.get? email with
  | none =>
    rw [hg] at hr
    cases hx : (s.run o (.retrieve email)).result with
    | ok reply =>
      rw [hx] at hr
      cases hr
    | error f =>
      rw [hx] at hr
      cases hr
      exact .inl ⟨rfl, rfl⟩
  | some v =>
    rw [hg] at hr
    cases hx : (s.run o (.retrieve email)).result with
    | error f =>
      rw [hx] at hr
      cases hr
    | ok reply =>
      rw [hx] at hr
      cases reply with
      | done => cases hr
      | user u =>
        have hu : u.erase = v := Reply.user.inj (Except.ok.inj hr)
        exact .inr ⟨u, by rw [hu], rfl⟩

end Repository

end Accounts
