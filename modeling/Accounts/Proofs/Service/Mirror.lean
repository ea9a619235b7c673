import Accounts.Proofs.Store.Mirror
import Accounts.Service

/-!
The service over two repositories that mirror each other. What it answers is the same over both, and
afterwards they mirror each other again. A new account is stored with metadata of its own, which
stand for the same as those it was opened with.
-/
namespace Accounts

variable {T : Type} [Timeline T]

namespace Repository

/-- The next free node does not matter. -/
theorem Mirrors.withSupply {s t : Repository} (h : Mirrors s t) (i j : NodeId) :
    Mirrors { s with supply := i } { t with supply := j } :=
  ⟨h.directory, h.archive, h.contents, h.storable⟩

end Repository

/-- A dictionary is turned into one that stands for the same. -/
theorem Tree.freshDict_of_isDict {m : Metadata} (h : m.erase.IsDict) (supply : NodeId) :
    ∃ fresh, m.freshDict supply = .ok (fresh, supply + 1) ∧ fresh.erase = m.erase := by
  cases m with
  | dict tag entries => exact ⟨.dict supply entries, rfl, rfl⟩
  | atom tag a => exact h.elim
  | list tag items => exact h.elim

namespace Service

open Repository (Mirrors)

variable {s t : Repository} {o : Occasion T}

/-- Users that stand for the same are enrolled as such, or refused for the same reason. -/
theorem enrolled_same (hasher : Hasher) (i j : NodeId) {u v : User Metadata}
    (he : u.erase = v.erase) (hv : v.erase.IsStorable) :
    SameResult (fun p : User Metadata × NodeId => p.1.erase) User.IsStorable (enrolled hasher i u)
      (enrolled hasher j v) := by
  obtain ⟨email, password, m⟩ := u
  obtain ⟨email', password', m'⟩ := v
  obtain ⟨rfl, rfl, hm⟩ := User.erase_eq_iff.mp he
  have hd : m'.erase.IsDict := hv.dict
  have hd' : m.erase.IsDict := by
    rw [hm]
    exact hd
  obtain ⟨fresh, hf, hfm⟩ := Tree.freshDict_of_isDict hd' i
  obtain ⟨fresh', hf', hfm'⟩ := Tree.freshDict_of_isDict hd j
  simp only [enrolled, User.validate]
  by_cases ha : Address.isEmail email
  · simp only [ha, if_true]
    cases User.checkPassword password with
    | error f => exact .error rfl
    | ok _ =>
      simp only
      cases hashed hasher password with
      | error f => exact .error rfl
      | ok digest =>
        simp only [hf, hf']
        refine .ok ?_ ⟨rfl, ?_, ?_⟩
        · simp only [User.erase, User.withMetadata, hfm, hfm', hm]
        · simp only [User.erase, User.metadata_withMetadata, hfm']
          exact hv.metadata
        · simp only [User.erase, User.metadata_withMetadata, hfm']
          exact hd
  · simp only [ha]
    exact .error rfl

theorem register_same (h : Mirrors s t) (ho : o.IsRegular) (hasher : Hasher)
    {u v : User Metadata} (he : u.erase = v.erase) (hv : v.erase.IsStorable) :
    SameResult User.erase User.IsStorable (register hasher s o u).result
        (register hasher t o v).result ∧
      Mirrors (register hasher s o u).state (register hasher t o v).state := by
  unfold register
  rcases (enrolled_same hasher s.supply t.supply he hv).cases with
    ⟨⟨stored, next⟩, ⟨stored', next'⟩, hx, hy, hab, good⟩ | ⟨f, g, hx, hy, hfg⟩
  · simp only [hx, hy]
    have hq : (Request.save stored').erase.IsStorable := good
    have hr : (Request.save stored).erase = (Request.save stored').erase :=
      congrArg Request.save hab
    obtain ⟨hres, hm⟩ := Repository.mirrors_run (h.withSupply next next') ho hr hq
    rcases hres.cases with ⟨a, b, ha, hb, -, -⟩ | ⟨f, g, hf, hg, hfg⟩
    · simp only [ha, hb]
      exact ⟨.ok hab good, hm⟩
    · simp only [hf, hg]
      exact ⟨.error hfg, hm⟩
  · simp only [hx, hy]
    exact ⟨.error hfg, h⟩

theorem viewUser_same (h : Mirrors s t) (ho : o.IsRegular) (email : String) :
    SameResult User.erase User.IsStorable (viewUser s o email).result (viewUser t o email).result ∧
      Mirrors (viewUser s o email).state (viewUser t o email).state := by
  obtain ⟨hr, hm⟩ := Repository.mirrors_run h ho (r := .retrieve email) rfl trivial
  refine ⟨?_, hm⟩
  apply hr.bind
  intro a b hab good
  cases a with
  | done =>
    cases b with
    | done => exact .error rfl
    | user v => cases hab
  | user u =>
    cases b with
    | done => cases hab
    | user v => exact .ok (Reply.user.inj hab) (good _ rfl)

theorem updateUser_same (h : Mirrors s t) (ho : o.IsRegular) {u v : User Metadata}
    (he : u.erase = v.erase) (hv : v.erase.IsStorable) :
    SameResult (fun _ => ()) (fun _ => True) (updateUser s o u).result (updateUser t o v).result ∧
      Mirrors (updateUser s o u).state (updateUser t o v).state := by
  unfold updateUser
  rw [(User.erase_eq_iff.mp he).1]
  by_cases ha : Address.isEmail v.email
  · simp only [ha, if_true]
    have hr : (Request.updateUser u).erase = (Request.updateUser v).erase :=
      congrArg Request.updateUser he
    obtain ⟨hres, hm⟩ := Repository.mirrors_run h ho hr ⟨hv.metadata, hv.dict⟩
    exact ⟨hres.forget, hm⟩
  · simp only [ha]
    exact ⟨.error rfl, h⟩

theorem updatePassword_same (h : Mirrors s t) (ho : o.IsRegular) (hasher : Hasher)
    (email : String) (password : Value) :
    SameResult (fun _ => ()) (fun _ => True) (updatePassword hasher s o email password).result
        (updatePassword hasher t o email password).result ∧
      Mirrors (updatePassword hasher s o email password).state
        (updatePassword hasher t o email password).state := by
  unfold updatePassword
  cases User.checkPassword password with
  | error f => exact ⟨.error rfl, h⟩
  | ok _ =>
    simp only
    cases hashed hasher password with
    | error f => exact ⟨.error rfl, h⟩
    | ok digest =>
      have hq : (Request.updatePassword email (.text digest)).erase.IsStorable := rfl
      obtain ⟨hres, hm⟩ := Repository.mirrors_run h ho rfl hq
      rcases hres.cases with ⟨a, b, ha, hb, -, -⟩ | ⟨f, g, hf, hg, hfg⟩
      · simp only [ha, hb]
        exact ⟨.ok rfl trivial, hm⟩
      · simp only [hf, hg]
        exact ⟨.error hfg, hm⟩

theorem login_same (h : Mirrors s t) (ho : o.IsRegular) (hasher : Hasher)
    (email : String) (password : Value) :
    SameResult id (fun _ => True) (login hasher s o email password).result
        (login hasher t o email password).result ∧
      Mirrors (login hasher s o email password).state
        (login hasher t o email password).state := by
  obtain ⟨hr, hm⟩ := viewUser_same h ho email
  refine ⟨?_, hm⟩
  apply hr.bind
  intro u v huv _
  rw [(User.erase_eq_iff.mp huv).2.1]
  cases verified hasher password v.password with
  | error f => exact .error rfl
  | ok b => exact .ok rfl trivial

end Service

end Accounts
