import Accounts.Proofs.Service.Family
import Accounts.Proofs.Service.Login
import Accounts.Proofs.Store.Documents

/-!
What the service lets into a store. Accounts are looked at as they are stored: under a key, with the
address and the password that stand there, be it in a user or in a document. Only registering adds
an account, and it has checked address and password; everything else finds an account that is there.
So every account stands under its own well-formed address with the hash of a password that is long
enough, and none is ever lost or stored twice.
-/
namespace Accounts

variable {T : Type}

/-! ## Accounts as they are stored -/

/-- A key with the address and the password that stand under it. A document may lack them. -/
structure Account where
  key : String
  address : Option Value
  password : Option Value

namespace Account

def ofUser {M : Type} (e : String × User M) : Account :=
  ⟨e.1, some (.text e.2.email), some e.2.password⟩

def ofDocument (e : String × Document) : Account := ⟨e.1, e.2.get? "_id", e.2.get? "password"⟩

variable {α : Type} {t : Table α} {name : String}

/-- A new name adds an account with a new key. -/
theorem map_put_none {f : String × α → Account} (hf : ∀ e, (f e).key = e.1)
    (h : t.get? name = none) (value : α) :
    name ∉ (t.map f).map key ∧ (t.put name value).map f = t.map f ++ [f (name, value)] := by
  obtain ⟨hnew, hput⟩ := Table.put_of_get?_none h value
  have hkeys : (t.map f).map key = t.names := by
    rw [List.map_map]
    exact List.map_congr_left fun e _ => hf e
  exact ⟨hkeys ▸ hnew, by rw [hput, List.map_append, List.map_singleton]⟩

/-- A name that is there changes one account. -/
theorem map_put_some (f : String × α → Account) {old : α} (h : t.get? name = some old) (value : α) :
    ∃ before later, t.map f = before ++ f (name, old) :: later ∧
      (t.put name value).map f = before ++ f (name, value) :: later := by
  obtain ⟨before, later, ht, hput⟩ := Table.put_of_get?_some h value
  refine ⟨before.map f, later.map f, ?_, ?_⟩
  · rw [ht, List.map_append, List.map_cons]
  · rw [hput, List.map_append, List.map_cons]

end Account

/-- The accounts that a repository stores, in the order in which they were opened. -/
def Repository.accounts (s : Repository) : List Account :=
  match s.stored with
  | .inl entries => entries.map .ofUser
  | .inr documents => documents.map .ofDocument

/-- What a request that succeeds does to the accounts. -/
inductive Request.Files : Request Value → List Account → List Account → Prop where
  | opened {u : User Value} {accounts : List Account} (hnew : u.email ∉ accounts.map Account.key) :
    Files (.save u) accounts (accounts ++ [⟨u.email, some (.text u.email), some u.password⟩])
  | changed {a : Account} {password : Value} {before later : List Account} :
    Files (.updatePassword a.key password) (before ++ a :: later)
      (before ++ { a with password := some password } :: later)
  | updated (u : User Value) (accounts : List Account) : Files (.updateUser u) accounts accounts
  | retrieved (email : String) (accounts : List Account) :
    Files (.retrieve email) accounts accounts

/-- No request takes a key away or moves one. -/
theorem Request.Files.keys {r : Request Value} {before after : List Account}
    (h : r.Files before after) : before.map Account.key <+: after.map Account.key := by
  cases h with
  | opened hnew => simp
  | changed => simp
  | updated u accounts => exact List.prefix_rfl
  | retrieved email accounts => exact List.prefix_rfl

/-! ## Directories -/

namespace Directory

theorem files_of_body {before after : Table (User Value)} {r : Request Value} {reply : Reply Value}
    (h : body before r = .ok (reply, after)) :
    r.Files (before.map .ofUser) (after.map .ofUser) := by
  rcases body_cases h with ⟨u, rfl, hg, rfl⟩ | ⟨u, v, rfl, hg, rfl⟩ | ⟨e, p, v, rfl, hg, rfl⟩ |
    ⟨e, v, rfl, -, rfl⟩
  · obtain ⟨hnew, hput⟩ := Account.map_put_none (f := .ofUser) (fun _ => rfl) hg u
    rw [hput]
    exact .opened hnew
  · obtain ⟨l, m, hold, hput⟩ := Account.map_put_some .ofUser hg (v.withMetadata u.metadata)
    rw [hput, hold]
    exact .updated u _
  · obtain ⟨l, m, hold, hput⟩ := Account.map_put_some .ofUser hg { v with password := p }
    rw [hput, hold]
    exact .changed (a := .ofUser (e, v))
  · exact .retrieved e _

end Directory

/-! ## Archives -/

namespace Archive

theorem ofDocument_setFields_metadata (email : String) (d : Document) (m : Value) (time : Int) :
    Account.ofDocument
        (email, Collection.setFields [("metadata", m), ("updated_at", .instant time)] d) =
      .ofDocument (email, d) := by
  simp only [Account.ofDocument, Account.mk.injEq, true_and]
  exact ⟨Collection.get?_setFields_other (by simp) d, Collection.get?_setFields_other (by simp) d⟩

theorem ofDocument_setFields_password (email : String) (d : Document) (p : Value) (time : Int) :
    Account.ofDocument
        (email, Collection.setFields [("password", p), ("updated_at", .instant time)] d) =
      { Account.ofDocument (email, d) with password := some p } := by
  simp only [Account.ofDocument, Account.mk.injEq, true_and]
  refine ⟨Collection.get?_setFields_other (by simp) d, ?_⟩
  simp only [Collection.setFields, List.foldl_cons, List.foldl_nil]
  rw [Table.get?_put_other (by decide), Table.get?_put_same]

/-- What shows in the documents shows in the accounts. -/
theorem files_of_puts {r : Request Value} {time : Int} {before after : Table Document}
    (h : r.Puts time before after) : r.Files (before.map .ofDocument) (after.map .ofDocument) := by
  cases h with
  | @opened u _ hnew =>
    obtain ⟨hkey, hput⟩ :=
      Account.map_put_none (f := .ofDocument) (fun _ => rfl) hnew (document u time)
    rw [hput]
    exact .opened hkey
  | @changed _ d _ hr hold =>
    obtain ⟨l, m, hbefore, hput⟩ :=
      Account.map_put_some .ofDocument hold (Collection.setFields (r.fields time) d)
    rw [hbefore, hput]
    cases r with
    | updateUser u =>
      simp only [Request.fields, ofDocument_setFields_metadata]
      exact .updated u _
    | updatePassword email password =>
      simp only [Request.fields, ofDocument_setFields_password]
      exact .changed (a := .ofDocument (email, d))
    | save u | retrieve email => cases hr
  | retrieved email => exact .retrieved email _

variable [Timeline T]

theorem files_of_run {c : Collection} {o : Occasion T} {r : Request Value} {reply : Reply Value}
    (h : (run c o r).result = .ok reply) :
    r.Files (c.documents.map .ofDocument) ((run c o r).state.documents.map .ofDocument) := by
  obtain ⟨time, -, hputs⟩ := puts_of_run h
  exact files_of_puts hputs

end Archive

/-! ## Repositories -/

namespace Repository

theorem accounts_eq_of_stored {s t : Repository} (h : s.stored = t.stored) :
    s.accounts = t.accounts := by
  unfold accounts
  rw [h]

/-- Nodes do not show in the accounts of a directory. -/
theorem accounts_directory (d : Directory Metadata) (supply : NodeId) :
    (⟨.directory d, supply⟩ : Repository).accounts = d.erase.entries.map .ofUser := by
  simp only [accounts, stored, Directory.erase, Table.mapValues, List.map_map]
  rfl

variable [Timeline T] {s : Repository} {o : Occasion T}

/-- A request that succeeds does to the accounts what it is for. -/
theorem files_of_run {r : Request Metadata} {reply : Reply Metadata}
    (h : (s.run o r).result = .ok reply) :
    r.erase.Files s.accounts (s.run o r).state.accounts := by
  obtain ⟨backend, supply⟩ := s
  cases backend with
  | directory d =>
    obtain ⟨hr, d', hb, he⟩ := runDirectory_eq d supply o r
    simp only [run] at h ⊢
    rw [h] at hr
    have hafter : (runDirectory d supply o r).state.accounts =
        (d.erase.run o r.erase).state.entries.map .ofUser := by
      rw [← he, ← accounts_directory d' supply]
      exact accounts_eq_of_stored (stored_eq_of_backend hb)
    rw [accounts_directory, hafter]
    have heffect := Directory.run_effect d.erase o r.erase
    rw [← hr] at heffect
    exact Directory.files_of_body heffect
  | archive c =>
    obtain ⟨hr, hb⟩ := runArchive_eq c supply o r
    simp only [run] at h ⊢
    rw [h] at hr
    have hafter : (runArchive c supply o r).state.accounts =
        (Archive.run c o r.erase).state.documents.map .ofDocument := by
      rw [accounts, stored, hb]
    rw [hafter]
    exact Archive.files_of_run hr.symm

end Repository

/-! ## Tasks of the service -/

namespace Service

variable [Timeline T]

/-- A task that succeeds had well-formed input, and does to the accounts what the request is for that
it comes to. -/
theorem files_of_task {h : Hasher} {t : Task} {s : Repository} {o : Occasion T}
    (hr : (t.perform h s o).result = .ok ()) :
    t.IsValid ∧ ∃ r, Carries h t r ∧ r.Files s.accounts (t.perform h s o).state.accounts := by
  obtain ⟨hvalid, supply, r, reply, hc, hx, hs⟩ := fulfils_perform hr
  have hfiles := Repository.files_of_run hx
  rw [← Repository.accounts_eq_of_stored hs] at hfiles
  exact ⟨hvalid, _, hc, hfiles⟩

/-! ## Ledgers -/

namespace Ledger

/-- An account stands under its own well-formed address, with the hash of a long enough password
that was given to that address by a task that has succeeded. -/
structure Sound (h : Hasher) (done : Ledger) (a : Account) : Prop where
  address : a.address = some (.text a.key)
  isEmail : Address.isEmail a.key = true
  password : ∃ t ∈ done, ∃ p salt digest, t.passwordFor a.key = some (.text p) ∧
    leastPasswordLength ≤ p.length ∧ (h.withSalt salt).hash p = .ok digest ∧
    a.password = some (.text digest)

/-- Accounts that are all sound, no two of them under one key. -/
structure Valid (h : Hasher) (done : Ledger) (accounts : List Account) : Prop where
  sound : ∀ a ∈ accounts, Sound h done a
  nodup : (accounts.map Account.key).Nodup

variable {h : Hasher} {done : Ledger} {t : Task}

theorem Sound.cons {a : Account} (ha : Sound h done a) (t : Task) : Sound h (t :: done) a := by
  obtain ⟨t', ht', hp⟩ := ha.password
  exact ⟨ha.address, ha.isEmail, t', List.mem_cons_of_mem t ht', hp⟩

theorem Valid.cons {accounts : List Account} (ha : Valid h done accounts) (t : Task) :
    Valid h (t :: done) accounts :=
  ⟨fun a hm => (ha.sound a hm).cons t, ha.nodup⟩

theorem valid_nil : Valid h done [] := ⟨by simp, List.nodup_nil⟩

/-- A task that succeeds leaves valid accounts behind. -/
theorem valid_files {salt : String} {r : Request Value} {before after : List Account}
    (hb : Valid h done before) (ht : t.IsValid) (hc : Carries (h.withSalt salt) t r)
    (hf : r.Files before after) : Valid h (t :: done) after := by
  cases hc with
  | viewUser email =>
    cases hf
    exact hb.cons _
  | updateUser =>
    cases hf
    exact hb.cons _
  | @register u p digest m hp hd =>
    cases hf with
    | opened hnew =>
      have hv : User.validate u = .ok () := ht
      unfold User.validate at hv
      rw [hp] at hv
      by_cases ha : Address.isEmail u.email = true
      · rw [if_pos ha, User.checkPassword_text_iff] at hv
        refine ⟨?_, ?_⟩
        · intro a hm
          rcases List.mem_append.mp hm with hm | hm
          · exact (hb.sound a hm).cons _
          · rw [List.mem_singleton.mp hm]
            exact ⟨rfl, ha, _, List.mem_cons_self, p, salt, digest, by simp [Task.passwordFor, hp],
              hv, hd, rfl⟩
        · rw [List.map_append, List.map_singleton]
          exact List.nodup_append.mpr ⟨hb.nodup, by simp, by simpa using hnew⟩
      · rw [if_neg ha] at hv
        cases hv
  | @updatePassword email p digest hd =>
    -- the address is not checked again: it belongs to an account that was sound before
    cases hf with
    | @changed a _ l m =>
      refine ⟨?_, ?_⟩
      · intro b hm
        have hold := hb.sound a (List.mem_append_right l List.mem_cons_self)
        rcases List.mem_append.mp hm with hm | hm
        · exact (hb.sound b (List.mem_append_left _ hm)).cons _
        · rcases List.mem_cons.mp hm with rfl | hm
          · exact ⟨hold.address, hold.isEmail, _, List.mem_cons_self, p, salt, digest,
              by simp [Task.passwordFor], User.checkPassword_text_iff.mp ht, hd, rfl⟩
          · exact (hb.sound b (List.mem_append_right l (List.mem_cons_of_mem a hm))).cons _
      · have hkeys := hb.nodup
        rw [List.map_append, List.map_cons] at hkeys ⊢
        exact hkeys

/-- The accounts are valid, and none is gone that was there before. -/
theorem valid_invariant (h : Hasher) (keys : List String) :
    (serving h).Invariant (T := T) (fun _ => True)
      (fun done s => Valid h done s.accounts ∧ keys <+: s.accounts.map Account.key) where
  frame hs hk := by
    rw [Repository.accounts_eq_of_stored hs]
    exact hk
  deal _ hr hk := by
    obtain ⟨hvalid, r, hc, hf⟩ := files_of_task hr
    exact ⟨valid_files hk.1 hvalid hc hf, hk.2.trans hf.keys⟩

/-- After every run the accounts are valid, and none is gone. -/
theorem valid_run {h : Hasher} {k : Chronicle Task} (hk : Valid h k.done k.repository.accounts)
    (turns : List (Turn (Job T))) :
    Valid h ((serving h).run k turns).done ((serving h).run k turns).repository.accounts ∧
      k.repository.accounts.map Account.key <+:
        ((serving h).run k turns).repository.accounts.map Account.key :=
  (valid_invariant h _).run ⟨hk, List.prefix_rfl⟩ fun _ _ => trivial

/-- From an empty repository on, whatever is asked for, with whatever faults: every account that is
stored stands under its own well-formed address with the hash of a long enough password that it was
given; none is stored twice, and whatever has been stored stays in its place. -/
theorem stored_accounts_valid (h : Hasher) {s : Repository} (hs : s.accounts = [])
    (turns later : List (Turn (Job T))) :
    Valid h ((serving h).run ⟨s, []⟩ turns).done
        ((serving h).run ⟨s, []⟩ turns).repository.accounts ∧
      ((serving h).run ⟨s, []⟩ turns).repository.accounts.map Account.key <+:
        ((serving h).run ⟨s, []⟩ (turns ++ later)).repository.accounts.map Account.key := by
  have hempty : Valid h [] s.accounts := hs ▸ valid_nil
  obtain ⟨hturns, -⟩ := valid_run (k := ⟨s, []⟩) hempty turns
  rw [Office.run_append]
  exact ⟨hturns, (valid_run hturns later).2⟩

/-- An address that is none, an archive that fails once, then an account that is opened and given
another password. -/
def opening : List (Turn (Job Moment)) :=
  [.deal ⟨"", .anytime, .register ⟨"ann", .text "password one", .dict 0 []⟩⟩,
    .arm .insert ⟨.other "AutoReconnect", "lost", none⟩,
    .deal ⟨"", .anytime, .register ⟨"bob@site.org", .text "password two", .dict 0 []⟩⟩,
    .deal ⟨"", .anytime, .register ⟨"ann@site.org", .text "password one", .dict 0 []⟩⟩,
    .deal ⟨"", .anytime, .updatePassword "ann@site.org" (.text "password three")⟩]

theorem stored_accounts_valid_opening :
    Repository.accounts ⟨.archive {}, 0⟩ = [] ∧
      ((serving .reversing).run ⟨⟨.archive {}, 0⟩, []⟩ opening).repository.accounts =
        [⟨"ann@site.org", some (.text "ann@site.org"), some (.text "fake-hash:eerht drowssap")⟩] ∧
      Valid .reversing ((serving .reversing).run ⟨⟨.archive {}, 0⟩, []⟩ opening).done
        ((serving .reversing).run ⟨⟨.archive {}, 0⟩, []⟩ opening).repository.accounts := by
  have hs : Repository.accounts ⟨.archive {}, 0⟩ = [] := rfl
  exact ⟨hs, rfl, (stored_accounts_valid .reversing hs opening []).1⟩

end Ledger

end Service

end Accounts
