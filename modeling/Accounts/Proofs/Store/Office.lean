import Accounts.Proofs.Store.Atomicity

/-!
Repositories over time. Matters come up and are dealt with, and between them the repository may be
told to fail. What has succeeded is recorded. Since a matter that fails changes nothing that is
stored, a property of the record and of what is stored holds after every run once each matter that
succeeds preserves it.
-/
namespace Accounts

variable {T ω ε : Type}

/-- What happens to a repository at one time. -/
inductive Turn (ω : Type) where
  | deal (matter : ω)
  | failWith (message : Option String)
  | arm (m : Method) (e : StorageError)

/-- A repository and a record of what has succeeded there, the latest first. -/
structure Chronicle (ε : Type) where
  repository : Repository
  done : List ε := []

/-- How matters are dealt with, and what is recorded of one that succeeds. -/
structure Office (T ω ε : Type) where
  deal : Repository → ω → Outcome T Repository Unit
  record? : ω → Option ε
  isAtomic : ∀ s matter, (deal s matter).IsAtomic s

namespace Office

variable (f : Office T ω ε)

/-- A matter is dealt with and, if it succeeds, recorded. -/
def turn (k : Chronicle ε) : Turn ω → Chronicle ε
  | .deal matter =>
    { repository := (f.deal k.repository matter).state
      done :=
        match (f.deal k.repository matter).result with
        | .ok _ => (f.record? matter).toList ++ k.done
        | .error _ => k.done }
  | .failWith message => { k with repository := k.repository.failWith message }
  | .arm m e => { k with repository := k.repository.arm m e }

/-- All turns, one after another. -/
def run (k : Chronicle ε) (turns : List (Turn ω)) : Chronicle ε := turns.foldl f.turn k

theorem run_append (k : Chronicle ε) (turns later : List (Turn ω)) :
    f.run k (turns ++ later) = f.run (f.run k turns) later :=
  List.foldl_append

/-- A turn leaves the record and what is stored as they were, or a matter has succeeded. -/
theorem turn_cases (k : Chronicle ε) (t : Turn ω) :
    ((f.turn k t).repository.stored = k.repository.stored ∧ (f.turn k t).done = k.done) ∨
      ∃ matter, t = .deal matter ∧ (f.deal k.repository matter).result = .ok () ∧
        (f.turn k t).repository = (f.deal k.repository matter).state ∧
        (f.turn k t).done = (f.record? matter).toList ++ k.done := by
  cases t with
  | failWith message => exact .inl ⟨Repository.stored_failWith message k.repository, rfl⟩
  | arm m e => exact .inl ⟨Repository.stored_arm m e k.repository, rfl⟩
  | deal matter =>
    simp only [turn]
    cases hr : (f.deal k.repository matter).result with
    | error e => exact .inl ⟨f.isAtomic _ _ e hr, rfl⟩
    | ok _ => exact .inr ⟨matter, rfl, hr, rfl, rfl⟩

/-! ## What holds after every run -/

/-- A property of the record and of what is stored which every matter of a kind preserves. -/
structure Invariant (P : ω → Prop) (I : List ε → Repository → Prop) : Prop where
  frame : ∀ {done s s'}, s'.stored = s.stored → I done s → I done s'
  deal : ∀ {done s matter}, P matter → (f.deal s matter).result = .ok () → I done s →
    I ((f.record? matter).toList ++ done) (f.deal s matter).state

variable {f} {P : ω → Prop} {I : List ε → Repository → Prop} {k : Chronicle ε}

theorem Invariant.turn (h : f.Invariant P I) (hk : I k.done k.repository) {t : Turn ω}
    (ht : ∀ matter, t = .deal matter → P matter) :
    I (f.turn k t).done (f.turn k t).repository := by
  rcases f.turn_cases k t with ⟨hstored, hdone⟩ | ⟨matter, hmatter, hr, hs, hdone⟩
  · rw [hdone]
    exact h.frame hstored hk
  · rw [hs, hdone]
    exact h.deal (ht matter hmatter) hr hk

theorem Invariant.run (h : f.Invariant P I) (hk : I k.done k.repository) {turns : List (Turn ω)}
    (ht : ∀ matter, .deal matter ∈ turns → P matter) :
    I (f.run k turns).done (f.run k turns).repository := by
  induction turns generalizing k with
  | nil => exact hk
  | cons t ts ih =>
    have hone := h.turn hk (t := t) fun matter hm => ht matter (hm ▸ List.mem_cons_self)
    exact ih hone fun matter hm => ht matter (List.mem_cons_of_mem t hm)

/-! ## What is recorded -/

variable (f)

/-- What is recorded of a turn if it succeeds. -/
def turnRecord? : Turn ω → Option ε
  | .deal matter => f.record? matter
  | .failWith _ | .arm .. => none

theorem done_turn (k : Chronicle ε) (t : Turn ω) :
    (f.turn k t).done = k.done ∨
      ∃ e, f.turnRecord? t = some e ∧ (f.turn k t).done = e :: k.done := by
  rcases f.turn_cases k t with ⟨-, hdone⟩ | ⟨matter, rfl, -, -, hdone⟩
  · exact .inl hdone
  · cases he : f.record? matter with
    | none =>
      rw [he] at hdone
      exact .inl hdone
    | some e =>
      rw [he] at hdone
      exact .inr ⟨e, he, hdone⟩

/-- Everything stays recorded, and new records stand in the order of their turns. -/
theorem done_run (k : Chronicle ε) (turns : List (Turn ω)) :
    ∃ new, (f.run k turns).done = new ++ k.done ∧
      new.reverse.Sublist (turns.filterMap f.turnRecord?) := by
  induction turns generalizing k with
  | nil => exact ⟨[], rfl, List.Sublist.refl _⟩
  | cons t ts ih =>
    obtain ⟨new, hnew, hsub⟩ := ih (f.turn k t)
    rcases f.done_turn k t with hsame | ⟨e, he, hcons⟩
    · refine ⟨new, hnew.trans (by rw [hsame]), hsub.trans ?_⟩
      exact (List.sublist_cons_self t ts).filterMap f.turnRecord?
    · refine ⟨new ++ [e], ?_, ?_⟩
      · rw [List.append_assoc]
        exact hnew.trans (by rw [hcons]; rfl)
      · rw [List.filterMap_cons_some he, List.reverse_append]
        exact hsub.cons_cons e

end Office

end Accounts
