import Accounts.Proofs.Metadata.Containers
import Accounts.Proofs.Service.Atomicity

/-!
To whom the nodes belong that a directory stores. A request takes a copy in and gives a copy out, so
that what it stores and what it answers with is made of new nodes. It changes the account of one
address only, and an account keeps its address.
-/
namespace Accounts

variable {T α : Type}

namespace Repository

/-- The accounts of a directory with all their nodes. -/
def entries (s : Repository) : Table (User Metadata) :=
  match s.backend with
  | .directory d => d.entries
  | .archive _ => []

/-- A list or dictionary of the account of an address. -/
def Stores (s : Repository) (email : String) (c : Metadata) : Prop :=
  ∃ u, s.entries.get? email = some u ∧ c ∈ u.metadata.containers

/-- Every account stands under its own address. -/
def IsAddressed (s : Repository) : Prop :=
  ∀ email u, s.entries.get? email = some u → u.email = email

/-- What an operation on the account of an address, or of none, does to all accounts. -/
structure Tends (address : Option String) (s t : Repository) : Prop where
  supply : s.supply ≤ t.supply
  others : ∀ email, address ≠ some email → t.entries.get? email = s.entries.get? email
  nodup : s.entries.names.Nodup → t.entries.names.Nodup
  addressed : s.IsAddressed → t.IsAddressed
  /-- Nodes that an account did not have are new, and it is the account of the address. -/
  nodes : ∀ email c, t.Stores email c →
    s.Stores email c ∨ address = some email ∧ s.supply ≤ c.tag ∧ c.tag < t.supply

namespace Tends

variable {address : Option String} {s t r : Repository}

/-- The accounts may be the same as before. -/
theorem of_entries (hs : s.supply ≤ t.supply) (h : t.entries = s.entries) : Tends address s t := by
  refine ⟨hs, fun _ _ => by rw [h], fun hn => by rwa [h], fun ha => ?_, fun email c hc => .inl ?_⟩
  · unfold IsAddressed
    rwa [h]
  · unfold Stores at hc ⊢
    rwa [h] at hc

theorem refl (s : Repository) : Tends address s s := of_entries (Nat.le_refl _) rfl

theorem trans (h : Tends address s t) (h' : Tends address t r) : Tends address s r := by
  refine ⟨Nat.le_trans h.supply h'.supply, fun email hne => ?_, fun hn => h'.nodup (h.nodup hn),
    fun ha => h'.addressed (h.addressed ha), fun email c hc => ?_⟩
  · exact (h'.others email hne).trans (h.others email hne)
  · rcases h'.nodes email c hc with hc | ⟨haddress, hge, hlt⟩
    · rcases h.nodes email c hc with hc | ⟨haddress, hge, hlt⟩
      · exact .inl hc
      · exact .inr ⟨haddress, hge, Nat.lt_of_lt_of_le hlt h'.supply⟩
    · exact .inr ⟨haddress, Nat.le_trans h.supply hge, hlt⟩

/-- The account of an address is put in, with the nodes that it had and new ones. -/
theorem of_put {email : String} {u : User Metadata} (hs : s.supply ≤ t.supply)
    (h : t.entries = s.entries.put email u)
    (haddress : (∀ v, s.entries.get? email = some v → v.email = email) → u.email = email)
    (hnodes : ∀ c ∈ u.metadata.containers,
      s.Stores email c ∨ s.supply ≤ c.tag ∧ c.tag < t.supply) : Tends (some email) s t := by
  have hother : ∀ e, some email ≠ some e → t.entries.get? e = s.entries.get? e := fun e he => by
    rw [h, Table.get?_put_other]
    rintro rfl
    exact he rfl
  have hsame : t.entries.get? email = some u := by rw [h, Table.get?_put_same]
  refine ⟨hs, hother, fun hn => h ▸ Table.nodup_put hn email u, fun ha e v hv => ?_,
    fun e c hc => ?_⟩
  · by_cases he : some email = some e
    · cases he
      cases hsame.symm.trans hv
      exact haddress fun w hw => ha email w hw
    · rw [hother e he] at hv
      exact ha e v hv
  · obtain ⟨v, hv, hcv⟩ := hc
    by_cases he : some email = some e
    · cases he
      cases hsame.symm.trans hv
      exact (hnodes c hcv).imp_right fun hnew => ⟨rfl, hnew⟩
    · rw [hother e he] at hv
      exact .inl ⟨v, hv, hcv⟩

end Tends

/-! ## Requests -/

/-- A request that is copied is about the same address and brings new nodes. -/
theorem email_copy_request (supply : NodeId) (r : Request Metadata) :
    (r.copy supply).1.email = r.email := by
  cases r <;> rfl

theorem isNumbered_copy_request {supply : NodeId} {r : Request Metadata} {u : User Metadata}
    (h : (r.copy supply).1 = .save u ∨ (r.copy supply).1 = .updateUser u) :
    Tree.IsNumbered supply (r.copy supply).2 u.metadata.containers := by
  cases r with
  | save v =>
    rcases h with h | h <;> cases h
    exact Tree.isNumbered_copy supply v.metadata
  | updateUser v =>
    rcases h with h | h <;> cases h
    exact Tree.isNumbered_copy supply v.metadata
  | updatePassword email password => rcases h with h | h <;> cases h
  | retrieve email => rcases h with h | h <;> cases h

theorem le_copy_request (supply : NodeId) (r : Request Metadata) :
    supply ≤ (r.copy supply).2 := by
  cases r with
  | save u | updateUser u => exact Tree.le_copy supply u.metadata
  | updatePassword email password | retrieve email => exact Nat.le_refl supply

variable [Timeline T] {s : Repository} {o : Occasion T}

/-- The state after a request to a directory. -/
theorem state_runDirectory (d : Directory Metadata) (supply : NodeId) (r : Request Metadata) :
    ∃ next, (r.copy supply).2 ≤ next ∧ (runDirectory d supply o r).state =
        ⟨.directory (d.run o (r.copy supply).1).state, next⟩ ∧
      ∀ u, (runDirectory d supply o r).result = .ok (.user u) →
        Tree.IsNumbered (r.copy supply).2 next u.metadata.containers := by
  unfold runDirectory
  dsimp only
  cases (d.run o (r.copy supply).1).result with
  | error f => exact ⟨_, Nat.le_refl _, rfl, fun u hu => by cases hu⟩
  | ok reply =>
    cases reply with
    | done => exact ⟨_, Nat.le_refl _, rfl, fun u hu => by cases hu⟩
    | user v =>
      have hnew := Tree.isNumbered_copy (r.copy supply).2 v.metadata
      refine ⟨_, hnew.le, rfl, fun u hu => ?_⟩
      cases hu
      exact hnew

theorem tends_runDirectory (d : Directory Metadata) (supply : NodeId) (r : Request Metadata) :
    Tends (some r.email) ⟨.directory d, supply⟩ (runDirectory d supply o r).state := by
  obtain ⟨next, hle, hstate, -⟩ := state_runDirectory (o := o) d supply r
  have hsupply : supply ≤ next := Nat.le_trans (le_copy_request supply r) hle
  have heffect := Directory.run_effect d o (r.copy supply).1
  rw [hstate]
  cases hr : (d.run o (r.copy supply).1).result with
  | error f =>
    rw [hr] at heffect
    exact .of_entries hsupply heffect
  | ok reply =>
    rw [hr] at heffect
    have hemail := email_copy_request supply r
    -- Every node that comes in is from the copy of the request.
    have hnew : ∀ u, (r.copy supply).1 = .save u ∨ (r.copy supply).1 = .updateUser u →
        ∀ c ∈ u.metadata.containers, supply ≤ c.tag ∧ c.tag < next := fun u hu c hc =>
      ((isNumbered_copy_request hu).mono (Nat.le_refl _) hle).range c hc
    rcases Directory.body_cases heffect with ⟨u, hu, -, hput⟩ | ⟨u, v, hu, hold, hput⟩ |
      ⟨email, p, v, hu, hold, hput⟩ | ⟨email, v, hu, -, hsame⟩
    · have haddress : u.email = r.email := by rw [← hemail, hu]; rfl
      rw [← haddress]
      exact .of_put hsupply hput (fun _ => rfl) fun c hc => .inr (hnew u (.inl hu) c hc)
    · have haddress : u.email = r.email := by rw [← hemail, hu]; rfl
      rw [← haddress]
      exact .of_put hsupply hput (fun hkey => hkey v hold) fun c hc => .inr (hnew u (.inr hu) c hc)
    · have haddress : email = r.email := by rw [← hemail, hu]; rfl
      rw [← haddress]
      exact .of_put hsupply hput (fun hkey => hkey v hold) fun c hc => .inl ⟨v, hold, hc⟩
    · exact .of_entries hsupply hsame

/-- The state after a request to an archive. -/
theorem state_runArchive (c : Collection) (supply : NodeId) (r : Request Metadata) :
    ∃ c' next, supply ≤ next ∧ (runArchive c supply o r).state = ⟨.archive c', next⟩ ∧
      ∀ u, (runArchive c supply o r).result = .ok (.user u) →
        Tree.IsNumbered supply next u.metadata.containers := by
  unfold runArchive
  dsimp only
  cases (Archive.run c o r.erase).result with
  | error f => exact ⟨_, _, Nat.le_refl _, rfl, fun u hu => by cases hu⟩
  | ok reply =>
    cases reply with
    | done => exact ⟨_, _, Nat.le_refl _, rfl, fun u hu => by cases hu⟩
    | user v =>
      have hnew := Tree.isNumbered_build supply v.metadata
      refine ⟨_, _, hnew.le, rfl, fun u hu => ?_⟩
      cases hu
      exact hnew

theorem tends_run (s : Repository) (o : Occasion T) (r : Request Metadata) :
    Tends (some r.email) s (s.run o r).state := by
  obtain ⟨backend, supply⟩ := s
  cases backend with
  | directory d => exact tends_runDirectory d supply r
  | archive c =>
    obtain ⟨c', next, hle, hstate, -⟩ := state_runArchive (o := o) c supply r
    simp only [run, hstate]
    exact .of_entries hle rfl

/-- A user in an answer is made of new nodes. -/
theorem isNumbered_of_run {r : Request Metadata} {u : User Metadata}
    (h : (s.run o r).result = .ok (.user u)) :
    Tree.IsNumbered s.supply (s.run o r).state.supply u.metadata.containers := by
  obtain ⟨backend, supply⟩ := s
  cases backend with
  | directory d =>
    obtain ⟨next, -, hstate, hnew⟩ := state_runDirectory (o := o) d supply r
    simp only [run, hstate] at h ⊢
    exact (hnew u h).mono (le_copy_request supply r) (Nat.le_refl _)
  | archive c =>
    obtain ⟨c', next, -, hstate, hnew⟩ := state_runArchive (o := o) c supply r
    simp only [run, hstate] at h ⊢
    exact hnew u h

theorem entries_eq_of_stored {s t : Repository} (h : s.stored = t.stored) :
    s.entries = t.entries := by
  obtain ⟨backend, supply⟩ := s
  obtain ⟨backend', supply'⟩ := t
  cases backend with
  | directory d =>
    cases backend' with
    | directory d' => exact Sum.inl.inj h
    | archive c' => cases h
  | archive c =>
    cases backend' with
    | directory d' => cases h
    | archive c' => rfl

/-- Looking an address up changes no account. -/
theorem entries_run_retrieve (s : Repository) (o : Occasion T) (email : String) :
    (s.run o (.retrieve email)).state.entries = s.entries :=
  entries_eq_of_stored (stored_run_retrieve s o email)

end Repository

/-! ## The service -/

namespace Service

open Repository (Tends tends_run)

variable [Timeline T] {s : Repository} {o : Occasion T}

theorem tends_viewUser (email : String) : Tends (some email) s (viewUser s o email).state :=
  tends_run s o (.retrieve email)

theorem tends_updateUser (u : User Metadata) : Tends (some u.email) s (updateUser s o u).state := by
  unfold updateUser
  split
  · exact tends_run s o (.updateUser u)
  · exact .refl s

theorem tends_updatePassword (h : Hasher) (email : String) (password : Value) :
    Tends (some email) s (updatePassword h s o email password).state := by
  unfold updatePassword
  cases User.checkPassword password with
  | error e => exact .refl s
  | ok _ =>
    cases hashed h password with
    | error e => exact .refl s
    | ok digest =>
      simp only
      have hrun := tends_run s o (.updatePassword email (.text digest))
      cases (s.run o (.updatePassword email (.text digest))).result with
      | error f => exact hrun
      | ok reply => exact hrun

/-- The user that is enrolled has the metadata of a dictionary of its own. -/
theorem freshDict_of_enrolled {h : Hasher} {supply next : NodeId} {u v : User Metadata}
    (he : enrolled h supply u = .ok (v, next)) :
    v.email = u.email ∧ u.metadata.freshDict supply = .ok (v.metadata, next) := by
  unfold enrolled at he
  split at he
  · cases he
  · split at he
    · cases he
    · split at he
      · cases he
      · next m last hm =>
        cases he
        exact ⟨rfl, hm⟩

/-- Opening an account uses up the node of the dictionary first. -/
theorem tends_register_of_enrolled {h : Hasher} {u v : User Metadata} {next : NodeId}
    (he : enrolled h s.supply u = .ok (v, next)) :
    Tends (some u.email) { s with supply := next } (register h s o u).state := by
  have hrun := tends_run { s with supply := next } o (.save v)
  rw [Request.email, (freshDict_of_enrolled he).1] at hrun
  simp only [register, he]
  cases (Repository.run { s with supply := next } o (.save v)).result with
  | error f => exact hrun
  | ok reply => exact hrun

theorem tends_register (h : Hasher) (u : User Metadata) :
    Tends (some u.email) s (register h s o u).state := by
  cases he : enrolled h s.supply u with
  | error f =>
    simp only [register, he]
    exact .refl s
  | ok p =>
    obtain ⟨v, next⟩ := p
    obtain ⟨entries, -, hlt, -⟩ := Tree.freshDict_ok (freshDict_of_enrolled he).2
    have hskip : Tends (some u.email) s { s with supply := next } :=
      .of_entries (Nat.le_of_lt hlt) rfl
    exact hskip.trans (tends_register_of_enrolled he)

theorem tends_login (h : Hasher) (email : String) (password : Value) :
    Tends (some email) s (login h s o email password).state := tends_viewUser email

/-- A user that is looked up is made of new nodes. -/
theorem isNumbered_of_viewUser {email : String} {u : User Metadata}
    (h : (viewUser s o email).result = .ok u) :
    Tree.IsNumbered s.supply (viewUser s o email).state.supply u.metadata.containers := by
  simp only [viewUser, Outcome.withResult] at h ⊢
  cases hr : (s.run o (.retrieve email)).result with
  | error f =>
    rw [hr] at h
    cases h
  | ok reply =>
    rw [hr] at h
    cases reply with
    | done => cases h
    | user v =>
      cases h
      exact Repository.isNumbered_of_run hr

end Service

end Accounts
