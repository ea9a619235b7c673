import Accounts.Proofs.Store.Contents

/-!
Requests that fail change nothing that is stored. A request fails before its only write: a directory
refuses it or finds the address taken or unknown, and a driver reports before a document is put in.
-/
namespace Accounts

variable {T α : Type}

/-! ## Directories -/

namespace Directory

variable {M : Type} [Timeline T] {d : Directory M} {o : Occasion T}

/-- A directory is as it was when a request fails, be it accepted or not. -/
theorem state_run_of_error {r : Request M} {f : Failure} (h : (d.run o r).result = .error f) :
    (d.run o r).state = d := by
  unfold run at h ⊢
  cases ha : d.accept o with
  | error e => rfl
  | ok _ =>
    rw [ha] at h
    exact perform_of_error h

/-- Looking an address up leaves a directory as it was. -/
theorem state_run_retrieve (d : Directory M) (o : Occasion T) (email : String) :
    (d.run o (.retrieve email)).state = d := by
  unfold run
  cases ha : d.accept o with
  | error e => rfl
  | ok _ =>
    simp only [perform, body]
    cases d.entries.get? email <;> rfl

end Directory

/-! ## Archives -/

namespace Archive

/-- A call that fails has put in no document. -/
theorem documents_execute_of_error {c : Collection} {r : Request Value} {time : Int}
    {e : Failure ⊕ Cause} (h : (execute c r time).1 = .error e) :
    (execute c r time).2.documents = c.documents := by
  have left : Option Unit := none
  rcases enter_cases c (call r time left).method (call r time left).arguments with
    he | ⟨cause, c', he, hd, -⟩
  · have hx := execute_of_entered left he
    cases hb : Directory.body (contents c.documents) r.readBack with
    | ok p =>
      rw [hb] at hx
      obtain ⟨documents, hx, -⟩ := hx
      rw [hx] at h
      cases h
    | error f =>
      rw [hb] at hx
      obtain ⟨e, hx, -⟩ := hx
      rw [hx]
  · rw [execute_of_refused left he]
    exact hd

/-- Looking an address up puts in no document. -/
theorem documents_execute_retrieve (c : Collection) (email : String) (time : Int) :
    (execute c (.retrieve email) time).2.documents = c.documents := by
  have hd := Collection.documents_enter c .find [Collection.query email]
  simp only [execute, Collection.find]
  split
  · next h =>
    rw [h] at hd
    exact hd
  · next h =>
    rw [h] at hd
    exact hd

variable [Timeline T] {c : Collection} {o : Occasion T}

theorem documents_run_of_error {r : Request Value} {f : Failure}
    (h : (run c o r).result = .error f) : (run c o r).state.documents = c.documents := by
  rcases run_cases c o r with ⟨e, hr⟩ | ⟨time, left, -, -, hr⟩
  · rw [hr, state_stop]
  · rw [hr, result_perform] at h
    rw [hr, state_perform]
    cases hx : (execute c r time).1 with
    | ok reply =>
      rw [hx] at h
      cases h
    | error e => exact documents_execute_of_error hx

theorem documents_run_retrieve (c : Collection) (o : Occasion T) (email : String) :
    (run c o (.retrieve email)).state.documents = c.documents := by
  rcases run_cases c o (.retrieve email) with ⟨e, hr⟩ | ⟨time, left, -, -, hr⟩
  · rw [hr, state_stop]
  · rw [hr, state_perform]
    exact documents_execute_retrieve c email time

end Archive

/-! ## Repositories -/

namespace Repository

/-- What is stored: the users of a directory with all their nodes, or the documents of an archive
with all their fields. -/
def stored (s : Repository) : Table (User Metadata) ⊕ Table Document :=
  match s.backend with
  | .directory d => .inl d.entries
  | .archive c => .inr c.documents

theorem stored_eq_of_backend {s t : Repository} (h : s.backend = t.backend) :
    s.stored = t.stored := by
  unfold stored
  rw [h]

theorem contents_eq_of_stored {s t : Repository} (h : s.stored = t.stored) :
    s.contents = t.contents := by
  have hcontents : ∀ s : Repository,
      s.contents = s.stored.elim (·.mapValues User.erase) Archive.contents := by
    rintro ⟨_ | _, supply⟩ <;> rfl
  rw [hcontents, hcontents, h]

theorem isArchive_eq_of_stored {s t : Repository} (h : s.stored = t.stored) :
    s.isArchive = t.isArchive := by
  have harchive : ∀ s : Repository, s.isArchive = s.stored.isRight := by
    rintro ⟨_ | _, supply⟩ <;> rfl
  rw [harchive, harchive, h]

/-- A failure that is to come is not stored. -/
@[simp] theorem stored_failWith (message : Option String) (s : Repository) :
    (s.failWith message).stored = s.stored := by
  obtain ⟨backend, supply⟩ := s
  cases backend <;> rfl

@[simp] theorem stored_arm (m : Method) (e : StorageError) (s : Repository) :
    (s.arm m e).stored = s.stored := by
  obtain ⟨backend, supply⟩ := s
  cases backend <;> rfl

variable [Timeline T] {s : Repository} {o : Occasion T}

/-- A directory that is given a request of nodes works on a copy of it. -/
theorem runDirectory_copied (d : Directory Metadata) (supply : NodeId) (o : Occasion T)
    (r : Request Metadata) :
    (runDirectory d supply o r).state.backend =
        .directory (d.run o (r.copy supply).1).state ∧
      ∀ f, (runDirectory d supply o r).result = .error f →
        (d.run o (r.copy supply).1).result = .error f := by
  unfold runDirectory
  dsimp only
  cases (d.run o (r.copy supply).1).result with
  | error e => exact ⟨rfl, fun f hf => hf ▸ rfl⟩
  | ok reply => exact ⟨rfl, fun f hf => by cases hf⟩

/-- A request that fails leaves what is stored as it was. -/
theorem stored_run_of_error {r : Request Metadata} {f : Failure}
    (h : (s.run o r).result = .error f) : (s.run o r).state.stored = s.stored := by
  obtain ⟨backend, supply⟩ := s
  cases backend with
  | directory d =>
    obtain ⟨hb, hf⟩ := runDirectory_copied d supply o r
    simp only [run] at h ⊢
    rw [stored, hb, Directory.state_run_of_error (hf f h)]
    rfl
  | archive c =>
    obtain ⟨hr, hb⟩ := runArchive_eq c supply o r
    simp only [run] at h ⊢
    rw [h] at hr
    rw [stored, hb]
    exact congrArg Sum.inr (Archive.documents_run_of_error hr.symm)

/-- Looking an address up leaves what is stored as it was, whatever comes of it. -/
theorem stored_run_retrieve (s : Repository) (o : Occasion T) (email : String) :
    (s.run o (.retrieve email)).state.stored = s.stored := by
  obtain ⟨backend, supply⟩ := s
  cases backend with
  | directory d =>
    obtain ⟨hb, -⟩ := runDirectory_copied d supply o (.retrieve email)
    simp only [run]
    rw [stored, hb]
    exact congrArg (Sum.inl ∘ Directory.entries) (Directory.state_run_retrieve d o email)
  | archive c =>
    obtain ⟨-, hb⟩ := runArchive_eq c supply o (.retrieve email)
    simp only [run]
    rw [stored, hb]
    exact congrArg Sum.inr (Archive.documents_run_retrieve c o email)

end Repository

/-! ## Outcomes -/

namespace Outcome

/-- The operation has succeeded, or what is stored is as it was. -/
def IsAtomic (out : Outcome T Repository α) (s : Repository) : Prop :=
  ∀ f, out.result = .error f → out.state.stored = s.stored

/-- The outcome without its answer. -/
def silent {σ : Type} (out : Outcome T σ α) : Outcome T σ Unit :=
  out.withResult (out.result.map fun _ => ())

theorem result_of_silent {σ : Type} {out : Outcome T σ α} (h : out.silent.result = .ok ()) :
    ∃ a, out.result = .ok a := by
  cases hr : out.result with
  | ok a => exact ⟨a, rfl⟩
  | error f =>
    simp only [silent, withResult, hr] at h
    cases h

theorem IsAtomic.silent {out : Outcome T Repository α} {s : Repository} (h : out.IsAtomic s) :
    out.silent.IsAtomic s := by
  intro f hf
  cases hr : out.result with
  | ok a =>
    simp only [Outcome.silent, withResult, hr] at hf
    cases hf
  | error g => exact h g hr

end Outcome

theorem Repository.isAtomic_run [Timeline T] (s : Repository) (o : Occasion T)
    (r : Request Metadata) : (s.run o r).IsAtomic s := fun _ h => stored_run_of_error h

end Accounts
