import Accounts.Proofs.Store.Driver
import Accounts.Service

/-!
What the service asks of a repository. A task whose input passes comes to one request: it makes the
calls of that request, leaves the backend as the request does, and fails when the request fails.
A task whose input does not pass leaves everything as it is, and so does a request whose context
allows no work.
-/
namespace Accounts

variable {T α β : Type}

namespace Outcome

/-- Nothing has been called and nothing has changed, be it what is kept or what is in store. -/
structure IsIdle (out : Outcome T Repository α) (s : Repository) : Prop where
  calls : out.calls = []
  backend : out.state.backend = s.backend

/-- An outcome that comes from another one. -/
structure Relays (out : Outcome T Repository α) (inner : Outcome T Repository β) : Prop where
  calls : out.calls = inner.calls
  backend : out.state.backend = inner.state.backend
  failure : ∀ f, inner.result = .error f → out.result = .error f

theorem Relays.refl (out : Outcome T Repository α) : out.Relays out :=
  ⟨rfl, rfl, fun _ h => h⟩

/-- What is made of a result afterwards. -/
theorem relays_bind (out : Outcome T Repository α) (g : α → Except Failure β) :
    (out.withResult (out.result.bind g)).Relays out := by
  refine ⟨rfl, rfl, fun f h => ?_⟩
  simp only [withResult, h]
  rfl

theorem Relays.trans {γ : Type} {out : Outcome T Repository α} {middle : Outcome T Repository β}
    {inner : Outcome T Repository γ} (h : out.Relays middle) (h' : middle.Relays inner) :
    out.Relays inner :=
  ⟨h.calls.trans h'.calls, h.backend.trans h'.backend, fun f hf => h.failure f (h'.failure f hf)⟩

end Outcome

variable [Timeline T] {o : Occasion T} {time : Int}

/-! ## Repositories -/

namespace Repository

/-- A request whose context allows no work is refused before anything happens, in a directory as in
an archive. -/
theorem run_of_refused (s : Repository) (hw : o.wallTime = .ok time) {f : Failure}
    (hc : o.check = .error f) (hf : f.overflow? = none) (r : Request Metadata) :
    (s.run o r).result = .error f ∧ (s.run o r).IsIdle s := by
  obtain ⟨backend, supply⟩ := s
  cases backend with
  | directory d =>
    have ha : d.run o (r.copy supply).1 = { result := .error f, state := d } := by
      simp only [Directory.run, Directory.accept, hc]
    have hrun : run ⟨.directory d, supply⟩ o r =
        { result := .error f, state := ⟨.directory d, (r.copy supply).2⟩ } := by
      simp only [run, runDirectory, ha]
    rw [hrun]
    exact ⟨rfl, rfl, rfl⟩
  | archive c =>
    have ha : Archive.run c o r.erase = { result := .error f, state := c } :=
      Archive.run_of_refused hw hc hf c r.erase
    have hrun : run ⟨.archive c, supply⟩ o r =
        { result := .error f, state := ⟨.archive c, supply⟩ } := by
      simp only [run, runArchive, ha]
    rw [hrun]
    exact ⟨rfl, rfl, rfl⟩

/-- A request to an archive whose context allows work makes one call. -/
theorem calls_run_archive {s : Repository} (hs : s.isArchive = true) (hw : o.wallTime = .ok time)
    {left : Option T} (hc : o.check = .ok left) (r : Request Metadata) :
    (s.run o r).calls = [Archive.call r.erase time left] := by
  obtain ⟨c, hs⟩ : ∃ c, s.backend = .archive c := by
    unfold isArchive at hs
    split at hs
    · cases hs
    · next c hc => exact ⟨c, hc⟩
  have hevents : (s.run o r).events = (Archive.run c o r.erase).events := by
    simp only [run, hs, runArchive]
    cases (Archive.run c o r.erase).result <;> rfl
  have hcalls : (s.run o r).calls = (Archive.run c o r.erase).calls := by
    unfold Outcome.calls
    rw [hevents]
  rw [hcalls, Archive.run_dated hw, hc]
  exact Archive.calls_perform c r.erase time left

end Repository

/-! ## Tasks -/

namespace Service

variable {h : Hasher} {s : Repository}

theorem register_relays {u stored : User Metadata} {next : NodeId}
    (he : enrolled h s.supply u = .ok (stored, next)) :
    (register h s o u).Relays ({ s with supply := next }.run o (.save stored)) := by
  simp only [register, he]
  generalize ({ s with supply := next } : Repository).run o (.save stored) = inner
  obtain ⟨result, state, events⟩ := inner
  cases result with
  | error f => exact ⟨rfl, rfl, fun g hg => by cases hg; rfl⟩
  | ok reply =>
    refine ⟨?_, rfl, fun g hg => by cases hg⟩
    simp [Outcome.calls, List.filterMap_append]

theorem register_isIdle {u : User Metadata} {f : Failure} (he : enrolled h s.supply u = .error f) :
    (register h s o u).IsIdle s := by
  simp only [register, he]
  exact ⟨rfl, rfl⟩

theorem viewUser_relays (email : String) :
    (viewUser s o email).Relays (s.run o (.retrieve email)) := Outcome.relays_bind _ _

theorem updateUser_relays {u : User Metadata} (ha : Address.isEmail u.email = true) :
    (updateUser s o u).Relays (s.run o (.updateUser u)) := by
  rw [updateUser, if_pos ha]
  exact .refl _

theorem updateUser_isIdle {u : User Metadata} (ha : Address.isEmail u.email ≠ true) :
    (updateUser s o u).IsIdle s := by
  rw [updateUser, if_neg ha]
  exact ⟨rfl, rfl⟩

theorem updatePassword_relays {email digest : String} {password : Value}
    (hp : User.checkPassword password = .ok ()) (hd : hashed h password = .ok digest) :
    (updatePassword h s o email password).Relays
      (s.run o (.updatePassword email (.text digest))) := by
  simp only [updatePassword, hp, hd]
  obtain ⟨result, state, events⟩ := s.run o (.updatePassword email (.text digest))
  cases result with
  | error f => exact .refl _
  | ok reply =>
    refine ⟨?_, rfl, fun g hg => by cases hg⟩
    simp [Outcome.calls, List.filterMap_append]

theorem updatePassword_isIdle {email : String} {password : Value}
    (hn : ∀ digest, User.checkPassword password = .ok () → hashed h password ≠ .ok digest) :
    (updatePassword h s o email password).IsIdle s := by
  unfold updatePassword
  cases hp : User.checkPassword password with
  | error f => exact ⟨rfl, rfl⟩
  | ok _ =>
    cases hd : hashed h password with
    | error f => exact ⟨rfl, rfl⟩
    | ok digest => exact absurd hd (hn digest hp)

theorem login_relays (email : String) (password : Value) :
    (login h s o email password).Relays (s.run o (.retrieve email)) :=
  (Outcome.relays_bind _ _).trans (viewUser_relays email)

end Service

end Accounts
