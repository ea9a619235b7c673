import Mathlib.Tactic.NormNum
import Accounts.Proofs.Context.Check
import Accounts.Proofs.Session.Course

/-!
Sessions and the genealogy of their contexts. The genealogy takes note of every step that moves the
clock, creates a context or cancels one, and of nothing else. As long as numbers are finite and
sums are not rounded, the contexts of a session reflect it after every step, and where differences
are not rounded either, all that can be asked of a context is governed by it.
-/
namespace Accounts

open Session

/-! ## Taking note -/

namespace Genealogy

/-- The number of a parent, if the name of one stands for a context. -/
def parent? (g : Genealogy) : Option String → Option (Option Nat)
  | none => some none
  | some name => (g.named.get? name).map some

def birth? (g : Genealogy) : Origin Moment → Option Birth
  | .background => some {}
  | .timeout seconds parent => (g.parent? parent).map fun p =>
    { parent := p, requested := some (g.now + seconds.value) }
  | .deadline d parent => (g.parent? parent).map fun p =>
    { parent := p, requested := d.map Moment.value }

/-- The genealogy after a step. -/
def note (g : Genealogy) : Step Moment → Genealogy
  | .advance time => { g with now := g.now + time.value }
  | .create name origin =>
    match g.birth? origin with
    | some b => g.bear name b
    | none => g
  | .inquire name .cancel =>
    match g.named.get? name with
    | some id => g.cancel id
    | none => g
  | _ => g

/-- The genealogy after a run. -/
def along (g : Genealogy) (steps : List (Option String × Step Moment)) : Genealogy :=
  steps.foldl (fun g p => g.note p.2) g

end Genealogy

namespace Session

/-- The numbers of a step are finite, and its sums are not rounded. -/
def Step.IsExact (now : Moment) : Step Moment → Prop
  | .advance time => now.HasSum time
  | .create _ (.timeout seconds _) => now.HasSum seconds
  | .create _ (.deadline d _) => ∀ t, d = some t → t.IsFinite
  | _ => True

/-- The session has come about as a genealogy says. -/
structure Follows (s : Session Moment) (g : Genealogy) : Prop where
  finite : s.now.IsFinite
  now : s.now.value = g.now
  named : s.named = g.named
  known : ∀ name id, g.named.get? name = some id → id < s.contexts.length
  contexts : s.contexts.Reflects g

variable {s t : Session Moment} {g : Genealogy}

theorem follows_start {now : Moment} (hn : now.IsFinite) (backend : Backend) (hasher : Hasher) :
    Follows (start now backend hasher) { now := now.value } where
  finite := hn
  now := rfl
  named := rfl
  known := by
    intro name id h
    simp only [Table.get?] at h
    split at h
    · cases h
      exact Nat.zero_lt_one
    · cases h
  contexts := Contexts.reflects_origin now.value

/-- Only the frame of a session matters. -/
theorem Follows.of_frame (h : Follows s g) (hf : t.frame = s.frame) : Follows t g := by
  obtain ⟨now, contexts, named, held, repository, hasher⟩ := t
  simp only [frame, Prod.mk.injEq] at hf
  obtain ⟨rfl, rfl, rfl⟩ := hf
  exact { h with }

theorem Follows.parent (h : Follows s g) (name : Option String) :
    (∃ r, s.parent name = .error r ∧ g.parent? name = none) ∨
      ∃ p, s.parent name = .ok p ∧ g.parent? name = some p ∧
        ∀ id, p = some id → id < s.contexts.length := by
  cases name with
  | none => exact .inr ⟨none, rfl, rfl, fun _ h => by cases h⟩
  | some name =>
    simp only [Session.parent, Genealogy.parent?, h.named]
    cases hg : g.named.get? name with
    | none => exact .inl ⟨_, rfl, rfl⟩
    | some id =>
      refine .inr ⟨some id, rfl, rfl, ?_⟩
      intro other ho
      cases ho
      exact h.known name id hg

/-- A context is born. -/
theorem Follows.bear (h : Follows s g) (name : String) {requested : Option Moment}
    {parent : Option Nat} (hf : ∀ d, requested = some d → d.IsFinite)
    (hp : ∀ p, parent = some p → p < s.contexts.length) :
    Follows (s.addContext name requested parent)
      (g.bear name { parent := parent, requested := requested.map Moment.value }) where
  finite := h.finite
  now := h.now
  named := by
    simp only [addContext, Genealogy.bear, h.named, h.contexts.length]
  known := by
    intro other id hget
    simp only [Genealogy.bear] at hget
    simp only [addContext, Contexts.length_create]
    by_cases hn : other = name
    · rw [hn, Table.get?_put_same, Option.some.injEq, ← h.contexts.length] at hget
      omega
    · rw [Table.get?_put_other hn] at hget
      exact (h.known other id hget).trans (Nat.lt_succ_self _)
  contexts := h.contexts.create hf hp name

theorem Follows.create (h : Follows s g) (name : String) {origin : Origin Moment}
    (hx : Step.IsExact s.now (.create name origin)) :
    Follows (s.create name origin).1 (g.note (.create name origin)) := by
  cases origin with
  | background => exact h.bear name (fun _ h => by cases h) (fun _ h => by cases h)
  | timeout seconds parent =>
    obtain ⟨-, d, hd, hfin, hvalue⟩ := hx
    rcases h.parent parent with ⟨r, hs, hg⟩ | ⟨p, hs, hg, hp⟩
    · simp only [Session.create, Genealogy.note, Genealogy.birth?, hs, hg]
      exact h
    · simp only [Session.create, Genealogy.note, Genealogy.birth?, hs, hg, hd]
      have hfinite : ∀ e, some d = some e → e.IsFinite := by
        intro e he
        cases he
        exact hfin
      have hborn := h.bear name hfinite hp
      rw [Option.map_some, hvalue, h.now] at hborn
      exact hborn
  | deadline d parent =>
    rcases h.parent parent with ⟨r, hs, hg⟩ | ⟨p, hs, hg, hp⟩
    · simp only [Session.create, Genealogy.note, Genealogy.birth?, hs, hg]
      exact h
    · simp only [Session.create, Genealogy.note, Genealogy.birth?, hs, hg]
      exact h.bear name hx hp

theorem Follows.inquire (h : Follows s g) (name : String) (inquiry : Inquiry) :
    Follows (s.step (.inquire name inquiry)).1 (g.note (.inquire name inquiry)) := by
  simp only [Session.step, h.named]
  cases inquiry with
  | cancel =>
    simp only [Genealogy.note]
    cases hg : g.named.get? name with
    | none => exact h
    | some id =>
      have hlength := Contexts.length_cancel id s.contexts
      exact { h with
        known := fun other a ha => (h.known other a ha).trans_eq hlength.symm
        contexts := h.contexts.cancel (h.known name id hg) }
  | remaining =>
    cases hg : g.named.get? name with
    | none => exact h
    | some id =>
      simp only [Session.inquire, answerMoment]
      split <;> exact h
  | check =>
    cases hg : g.named.get? name with
    | none => exact h
    | some id =>
      simp only [Session.inquire, answerMoment]
      split <;> exact h
  | _ => cases hg : g.named.get? name <;> exact h

/-- One step and its note. -/
theorem Follows.step (h : Follows s g) {step : Step Moment} (hx : step.IsExact s.now) :
    Follows (s.step step).1 (g.note step) := by
  cases step with
  | advance time =>
    obtain ⟨-, now, hadd, hfin, hvalue⟩ := hx
    simp only [Session.step, hadd]
    exact {
      finite := hfin
      now := hvalue.trans (congrArg (· + time.value) h.now)
      named := h.named
      known := h.known
      contexts := h.contexts.withNow _ }
  | create name origin => exact h.create name hx
  | inquire name inquiry => exact h.inquire name inquiry
  -- No other step is noted, and none touches the clock or a context.
  | _ => exact h.of_frame (frame_step trivial)

/-- A run and its genealogy. -/
theorem Follows.after (h : Follows s g) {steps : List (Option String × Step Moment)}
    (hx : s.Throughout Step.IsExact steps) : Follows (s.after steps) (g.along steps) := by
  induction steps generalizing s g with
  | nil => exact h
  | cons p steps ih =>
    obtain ⟨salt, step⟩ := p
    obtain ⟨hstep, hrest⟩ := hx
    have hdrawn : Follows (s.draw salt) g := h.of_frame (frame_draw s salt)
    rw [← now_draw s salt] at hstep
    exact ih (hdrawn.step hstep) hrest

/-- Whatever the run: contexts are created under any parents, cancelled before or after they have
children, and the clock moves on. Then each of them is governed by its genealogy. -/
theorem contexts_governed {now : Moment} (hn : now.IsFinite) (backend : Backend) (hasher : Hasher)
    {steps : List (Option String × Step Moment)}
    (hx : (start now backend hasher).Throughout Step.IsExact steps) :
    let s := (start now backend hasher).after steps
    (∀ id, s.contexts.TellsTime s.now id) → ∀ id < s.contexts.length,
      Governed (Genealogy.along { now := now.value } steps) s.contexts s.now id := by
  intro s htells id hid
  have h : Follows s (Genealogy.along { now := now.value } steps) :=
    (follows_start hn backend hasher).after hx
  exact h.contexts.governed h.now hid htells

/-- A parent, a child that expires half a second before five, a grandchild, and a child that is
cancelled before it has its second child and after it has its first. -/
def family : List (Option String × Step Moment) :=
  [(none, .create "parent" (.timeout (.whole 10) none)),
    (none, .create "child" (.deadline (some (.real ⟨0x408F640000000000⟩)) (some "parent"))),
    (none, .create "grandchild" (.timeout (.whole 20) (some "child"))),
    (none, .advance (.whole 1)),
    (none, .inquire "child" .cancel),
    (none, .create "late" (.timeout (.whole 2) (some "child"))),
    (none, .create "sibling" (.deadline none (some "parent")))]

theorem hasDifference_half : (Moment.real ⟨0x408F640000000000⟩).HasDifference (.whole 1001) := by
  have hd : (Moment.real ⟨0x408F640000000000⟩).value = 1004.5 := by
    have hm : (Moment.real ⟨0x408F640000000000⟩).magnitude =
        .finite false 0x1F640000000000 (-43) := by decide +kernel
    rw [Moment.value, hm]
    norm_num [Magnitude.value, Magnitude.signed]
  have hleft : (Moment.real ⟨0x400C000000000000⟩).value = 3.5 := by
    have hm : (Moment.real ⟨0x400C000000000000⟩).magnitude =
        .finite false 0x1C000000000000 (-51) := by decide +kernel
    rw [Moment.value, hm]
    norm_num [Magnitude.value, Magnitude.signed]
  refine ⟨.real ⟨0x400C000000000000⟩, by decide +kernel, by decide +kernel, ?_⟩
  rw [hd, hleft, Moment.value_whole]
  norm_num

/-- The grandchild is cancelled with its parent, and the sibling is not. -/
theorem contexts_governed_family :
    let first : Session Moment := start (.whole 1000) (.directory {}) .reversing
    let s := first.after family
    let g := Genealogy.along { now := 1000 } family
    first.Throughout Step.IsExact family ∧ (∀ id, s.contexts.TellsTime s.now id) ∧
      s.contexts.check s.now 3 = .error .cancelled ∧ ¬g.IsCancelled 5 ∧
      IsLeast (g.requested 5) 1010 := by
  intro first s g
  have hx : first.Throughout Step.IsExact family := by
    refine ⟨Moment.hasSum_whole 1000 10, ?_, Moment.hasSum_whole 1000 20,
      Moment.hasSum_whole 1000 1, trivial, Moment.hasSum_whole 1001 2, ?_, trivial⟩
    · intro t h
      cases h
      decide +kernel
    · intro t h
      cases h
  have htells : ∀ id, s.contexts.TellsTime s.now id := by
    intro id d hd
    have hnow : s.now = .whole 1001 := rfl
    have hcontexts : s.contexts =
        [{ parent := some 1, deadline := some (.whole 1010) },
          { parent := some 2, deadline := some (.whole 1003) },
          { parent := some 2, deadline := some (.real ⟨0x408F640000000000⟩) },
          { parent := some 1, deadline := some (.real ⟨0x408F640000000000⟩), cancelled := true },
          { deadline := some (.whole 1010) }, {}] := rfl
    rw [hcontexts] at hd
    rw [hnow]
    have hlt : id < 6 := Contexts.lt_of_deadline? hd
    obtain rfl | rfl | rfl | rfl | rfl | rfl :
        id = 0 ∨ id = 1 ∨ id = 2 ∨ id = 3 ∨ id = 4 ∨ id = 5 := by omega
    all_goals cases hd
    · exact Moment.hasDifference_whole 1010 1001
    · exact hasDifference_half
    · exact hasDifference_half
    · exact Moment.hasDifference_whole 1003 1001
    · exact Moment.hasDifference_whole 1010 1001
  have hgoverned := contexts_governed (Moment.isFinite_whole 1000) (.directory {}) .reversing hx
    htells
  have hnow : ((Moment.whole 1000).value : ℚ) = 1000 := by norm_num
  rw [hnow] at hgoverned
  refine ⟨hx, htells, ?_, ?_, ?_⟩
  · have hcancelled : g.IsCancelled 3 := ⟨2, .up rfl rfl (.self 2), List.mem_singleton.mpr rfl⟩
    exact (hgoverned 3 (by decide)).refused.mpr hcancelled
  · exact (hgoverned 5 (by decide)).cancelled.not.mp Bool.false_ne_true
  · have hdeadline : s.contexts.deadline? 5 = some (.whole 1010) := rfl
    have hearliest := (hgoverned 5 (by decide)).deadline
    rw [hdeadline, Option.map_some, Moment.value_whole, Int.cast_ofNat] at hearliest
    exact hearliest

end Session

end Accounts
