import Accounts.Proofs.Session.Genealogy
import Accounts.Proofs.Session.Reach

/-!
Work under contexts that are spent, and under those that are not. Once a context or an ancestor has
been cancelled, or the clock has reached the deadline of one of them, nothing that is asked under it
gets to a repository any more, however the session goes on. As long as none of that has happened,
every request to an archive makes one call, and the time it is given ends before any of those
deadlines.
-/
namespace Accounts

open Session

/-- The context says that the operation was cancelled, or in particular that it came too late. -/
def Failure.IsCancellation (f : Failure) : Prop :=
  ∃ e k, f = .context e ∧ f.family? = some k ∧ FailureClass.cancelled ∈ k.lineage

theorem Failure.IsCancellation.overflow? {f : Failure} (h : f.IsCancellation) :
    f.overflow? = none := by
  obtain ⟨e, k, rfl, hk, -⟩ := h
  cases e with
  | overflow => cases hk
  | cancelled | expired => rfl

namespace Session

/-! ## Spent contexts -/

/-- The context or an ancestor has been cancelled, or the clock has reached the deadline of one. -/
def Halted (s : Session Moment) (g : Genealogy) (id : Nat) : Prop :=
  ∃ a, g.births.Descends id a ∧
    (a ∈ g.cancelled ∨ ∃ d, s.contexts.deadline? a = some d ∧ d.value ≤ s.now.value)

/-- The clock does not go back. -/
def Step.IsForward : Step Moment → Prop
  | .advance time => 0 ≤ time.value
  | _ => True

variable {s : Session Moment} {g : Genealogy} {id : Nat}

theorem Follows.isSpent_of_halted (h : Follows s g) (hs : Halted s g id) : g.IsSpent id := by
  obtain ⟨a, ha, hc | ⟨d, hd, hr⟩⟩ := hs
  · exact .inl ⟨a, ha, hc⟩
  · have hmem := Lineage.requested_subset ha (h.contexts.value_mem_requested hd)
    exact .inr ⟨d.value, hmem, h.now ▸ hr⟩

theorem Follows.halted_of_isSpent (h : Follows s g) (hid : id < s.contexts.length)
    (hs : g.IsSpent id) : Halted s g id := by
  rcases hs with ⟨a, ha, hc⟩ | ⟨q, hq, hr⟩
  · exact ⟨a, ha, .inl hc⟩
  · obtain ⟨d, hd, hle⟩ := (h.contexts.earliest id hid).exists_le hq
    exact ⟨id, .self id, .inr ⟨d, hd, hle.trans (h.now ▸ hr)⟩⟩

/-- What is spent stays so with every step. -/
theorem isSpent_note (h : g.IsSpent id) {step : Step Moment} (hf : step.IsForward) :
    (g.note step).IsSpent id := by
  cases step with
  | advance time => exact h.withNow (le_add_of_nonneg_right hf)
  | create name origin =>
    simp only [Genealogy.note]
    cases g.birth? origin with
    | none => exact h
    | some b => exact h.bear name b
  | inquire name inquiry =>
    cases inquiry with
    | cancel =>
      simp only [Genealogy.note]
      cases g.named.get? name with
      | none => exact h
      | some other => exact h.cancel other
    | _ => exact h
  | _ => exact h

/-- What is spent stays so for the rest of a run. -/
theorem isSpent_along (h : g.IsSpent id) {steps : List (Option String × Step Moment)}
    (hf : ∀ p ∈ steps, p.2.IsForward) : (g.along steps).IsSpent id := by
  induction steps generalizing g with
  | nil => exact h
  | cons p steps ih =>
    have hnote := isSpent_note h (hf p List.mem_cons_self)
    exact ih hnote fun q hq => hf q (List.mem_cons_of_mem p hq)

/-! ## Asks under a spent context -/

/-- Whatever is asked under the name of a context, no call is made and nothing that is kept or in
store changes. What would have reached the repository is answered as cancelled. -/
structure Stopped (s : Session Moment) (name : String) : Prop where
  idle : ∀ a, s.IsIdle (s.step (.ask name a))
  refused : ∀ a r, s.Reaches a r →
    ∃ f : Failure, f.IsCancellation ∧ (s.step (.ask name a)).2.answer = .error (.failure f)
  raced : ∀ user u n, s.held.get? user = some u →
    ∃ f : Failure, f.IsCancellation ∧
      (s.step (.ask name (.race user n))).2.answer = .ok (.names (List.replicate n f.name))

theorem step_ask {name : String} (hname : s.named.get? name = some id) (a : Ask) :
    s.step (.ask name a) = s.perform (s.occasion id) a := by
  simp only [Session.step, hname]

theorem stopped_of_check {name : String} {f : Failure} {time : Int}
    (hname : s.named.get? name = some id) (hw : (s.occasion id).wallTime = .ok time)
    (hc : (s.occasion id).check = .error f) (hf : f.IsCancellation) : s.Stopped name := by
  constructor
  case idle =>
    intro a
    rw [step_ask hname]
    by_cases hr : ∃ r, s.Reaches a r
    · obtain ⟨r, hr⟩ := hr
      obtain ⟨supply, hshows⟩ := shows_perform hr (s.occasion id)
      have hidle := (Repository.run_of_refused { s.repository with supply := supply } hw hc
        hf.overflow? r).2
      exact hshows.isIdle ⟨hidle.calls, hidle.backend⟩
    · by_cases hrace : ∃ user n, a = .race user n
      · obtain ⟨user, n, rfl⟩ := hrace
        refine isIdle_withUser fun u hu => ?_
        have hshows := shows_race hu n (s.occasion id)
        simp only [perform, withUser_of_get? hu] at hshows
        exact hshows.isIdle (race_of_refused hw hc hf.overflow? u n s.repository).2
      · exact isIdle_perform (not_exists.mp hr) (fun user n h => hrace ⟨user, n, h⟩) _
  case refused =>
    intro a r hr
    obtain ⟨supply, hshows⟩ := shows_perform hr (s.occasion id)
    refine ⟨f, hf, ?_⟩
    rw [step_ask hname]
    exact hshows.failure f (Repository.run_of_refused _ hw hc hf.overflow? r).1
  case raced =>
    intro user u n hu
    refine ⟨f, hf, ?_⟩
    rw [step_ask hname]
    simp only [perform, withUser_of_get? hu]
    rw [(race_of_refused hw hc hf.overflow? u n s.repository).1]
    rw [List.perm_replicate.mp (List.mergeSort_perm (List.replicate n f.name) _)]

theorem Follows.stopped (h : Follows s g) {name : String} {time : Int}
    (hname : s.named.get? name = some id) (hw : (s.occasion id).wallTime = .ok time)
    (hx : s.contexts.TellsTime s.now id) (hspent : g.IsSpent id) : s.Stopped name := by
  have hid : id < s.contexts.length := h.known name id (h.named ▸ hname)
  rcases h.contexts.check_of_isSpent h.now hid hx hspent with hcheck | hcheck
  · have hc : (s.occasion id).check = .error (.context .cancelled) := by
      simp only [Occasion.check, occasion, hcheck]
    exact stopped_of_check hname hw hc ⟨.cancelled, .cancelled, rfl, rfl, by decide⟩
  · have hc : (s.occasion id).check = .error (.context .expired) := by
      simp only [Occasion.check, occasion, hcheck]
    exact stopped_of_check hname hw hc ⟨.expired, .deadlineExceeded, rfl, rfl, by decide⟩

/-! ## Asks under a context that is not spent -/

/-- A call is about an address. It is given all the time when neither the context nor an ancestor
has a deadline, and otherwise some time that is over when the first of those deadlines comes. -/
structure Limits (s : Session Moment) (g : Genealogy) (id : Nat) (email : String)
    (d : DriverCall Moment) : Prop where
  address : d.address? = some email
  unlimited : d.timeout = none ↔
    ∀ a, g.births.Descends id a → s.contexts.deadline? a = none
  limited : ∀ t, d.timeout = some t → 0 < t.value ∧
    ∀ a e, g.births.Descends id a → s.contexts.deadline? a = some e →
      t.value ≤ e.value - s.now.value

/-- Every request that is made under the name of a context makes one call of that kind. -/
structure Served (s : Session Moment) (g : Genealogy) (id : Nat) (name : String) : Prop where
  single : ∀ a r, s.Reaches a r →
    ∃ d, (s.step (.ask name a)).2.calls = [d] ∧ s.Limits g id r.email d
  raced : ∀ user u n, s.held.get? user = some u →
    (s.step (.ask name (.race user n))).2.calls.length = n ∧
      ∀ d ∈ (s.step (.ask name (.race user n))).2.calls, s.Limits g id u.email d

theorem Follows.limits_call (h : Follows s g) (hid : id < s.contexts.length)
    {left : Option Moment} (hnone : left = none ↔ s.contexts.deadline? id = none)
    (hsome : ∀ t d, left = some t → s.contexts.deadline? id = some d →
      0 < t.value ∧ t.value = d.value - s.now.value) (r : Request Value) (time : Int) :
    s.Limits g id r.email (Archive.call r time left) where
  address := Archive.address?_call r time left
  unlimited := by
    rw [Archive.timeout_call, hnone]
    constructor
    · intro hd a ha
      by_contra hne
      obtain ⟨e, he⟩ := Option.ne_none_iff_exists'.mp hne
      obtain ⟨d, hd', -⟩ := h.contexts.deadline_le hid ha he
      cases hd.symm.trans hd'
    · exact fun hall => hall id (.self id)
  limited := by
    intro t ht
    rw [Archive.timeout_call] at ht
    cases hd : s.contexts.deadline? id with
    | none => cases ht.symm.trans (hnone.mpr hd)
    | some d =>
      obtain ⟨hpos, hvalue⟩ := hsome t d ht hd
      refine ⟨hpos, fun a e ha he => ?_⟩
      obtain ⟨d', hd', hle⟩ := h.contexts.deadline_le hid ha he
      cases hd.symm.trans hd'
      rw [hvalue]
      exact sub_le_sub_right hle _

theorem Follows.served (h : Follows s g) {name : String} {time : Int}
    (hname : s.named.get? name = some id) (hw : (s.occasion id).wallTime = .ok time)
    (hx : s.contexts.TellsTime s.now id) (hlive : ¬g.IsSpent id)
    (hs : s.repository.isArchive = true) : s.Served g id name := by
  have hid : id < s.contexts.length := h.known name id (h.named ▸ hname)
  obtain ⟨left, hcheck, hnone, hsome⟩ := h.contexts.check_of_live h.now hid hx hlive
  have hc : (s.occasion id).check = .ok left := by
    simp only [Occasion.check, occasion, hcheck]
  constructor
  case single =>
    intro a r hr
    obtain ⟨supply, hshows⟩ := shows_perform hr (s.occasion id)
    refine ⟨Archive.call r.erase time left, ?_, ?_⟩
    · have harchive : ({ s.repository with supply := supply } : Repository).isArchive = true := hs
      rw [step_ask hname, hshows.calls]
      exact Repository.calls_run_archive harchive hw hc r
    · have hemail : r.erase.email = r.email := by cases r <;> rfl
      rw [← hemail]
      exact h.limits_call hid hnone hsome r.erase time
  case raced =>
    intro user u n hu
    have hcalls : (s.step (.ask name (.race user n))).2.calls =
        List.replicate n (Archive.call (.save u.erase) time left) := by
      rw [step_ask hname, (shows_race hu n (s.occasion id)).calls]
      exact calls_race_archive hw hc u n hs
    rw [hcalls]
    refine ⟨List.length_replicate, fun d hd => ?_⟩
    rw [List.eq_of_mem_replicate hd]
    exact h.limits_call hid hnone hsome (.save u.erase) time

/-! ## Runs -/

/-- Over any run whose clock does not go back: once a context is spent, nothing asked under it gets
to the repository for the rest of the run, be it a directory or an archive. As long as it is not,
every request to an archive makes one call within the time that is left. -/
theorem stopped_and_served {now : Moment} (hn : now.IsFinite) (backend : Backend) (hasher : Hasher)
    {before later : List (Option String × Step Moment)}
    (hx : (start now backend hasher).Throughout Step.IsExact (before ++ later))
    (hf : ∀ p ∈ later, p.2.IsForward) (salt : Option String) :
    let first := start now backend hasher
    let g := Genealogy.along { now := now.value }
    let s := (first.after (before ++ later)).draw salt
    s.Dated → ∀ name id, s.named.get? name = some id → s.contexts.TellsTime s.now id →
      (Halted (first.after before) (g before) id → s.Stopped name) ∧
        (¬Halted s (g (before ++ later)) id → s.repository.isArchive = true →
          s.Served (g (before ++ later)) id name) := by
  intro first g s hdated name id hname htells
  have hstart : Follows first { now := now.value } := follows_start hn backend hasher
  have hbefore : Follows (first.after before) (g before) :=
    hstart.after (throughout_append.mp hx).1
  have h : Follows s (g (before ++ later)) := (hstart.after hx).of_frame (frame_draw _ salt)
  obtain ⟨time, htime⟩ := Option.isSome_iff_exists.mp hdated
  have hw : (s.occasion id).wallTime = .ok time := by
    simp only [Occasion.wallTime, occasion, htime]
  have hid : id < s.contexts.length := h.known name id (h.named ▸ hname)
  constructor
  · intro hhalted
    -- The genealogy carries it over the rest of the run, and the contexts at the end reflect that.
    have hspent : (g (before ++ later)).IsSpent id := by
      have hgone : g (before ++ later) = (g before).along later := List.foldl_append
      rw [hgone]
      exact isSpent_along (hbefore.isSpent_of_halted hhalted) hf
    exact h.stopped hname hw htells hspent
  · intro hlive hs
    exact h.served hname hw htells (fun hspent => hlive (h.halted_of_isSpent hid hspent)) hs

/-- A parent that expires before its child would, and a context on its own. -/
def expiring : List (Option String × Step Moment) :=
  [(none, .hold "u" { email := "a@b.c", password := .text "password", metadata := .empty }),
    (none, .create "parent" (.timeout (.whole 10) none)),
    (none, .create "child" (.timeout (.whole 20) (some "parent"))),
    (none, .create "other" (.timeout (.whole 30) none)),
    (none, .arm .insert ⟨.command "WriteError", "limit", some 50⟩),
    (none, .advance (.whole 10))]

/-- More time passes, and the child is asked in vain. -/
def lingering : List (Option String × Step Moment) :=
  [(none, .advance (.whole 1)), (none, .inquire "bg" .cancel), (none, .ask "child" (.save "u"))]

theorem stopped_and_served_expiring :
    let first : Session Moment := start (.whole 1000) (.archive {}) .reversing
    let g := Genealogy.along { now := 1000 }
    let s := first.after (expiring ++ lingering)
    first.Throughout Step.IsExact (expiring ++ lingering) ∧
      (∀ p ∈ lingering, p.2.IsForward) ∧ s.Dated ∧
      (s.named.get? "child" = some 2 ∧ s.contexts.TellsTime s.now 2 ∧
        Halted (first.after expiring) (g expiring) 2 ∧ s.Stopped "child") ∧
      (s.named.get? "other" = some 3 ∧ s.contexts.TellsTime s.now 3 ∧
        ¬Halted s (g (expiring ++ lingering)) 3 ∧ s.repository.isArchive = true ∧
        s.Served (g (expiring ++ lingering)) 3 "other") := by
  intro first g s
  have hclock : s.now = .whole 1011 := by decide +kernel
  have hx : first.Throughout Step.IsExact (expiring ++ lingering) :=
    ⟨trivial, Moment.hasSum_whole 1000 10, Moment.hasSum_whole 1000 20,
      Moment.hasSum_whole 1000 30, trivial, Moment.hasSum_whole 1000 10,
      Moment.hasSum_whole 1010 1, trivial, trivial, trivial⟩
  have hf : ∀ p ∈ lingering, p.2.IsForward := by
    simp [lingering, Step.IsForward]
  have hdated : s.Dated := by
    rw [Dated, hclock]
    rfl
  have hnow : ((Moment.whole 1000).value : ℚ) = 1000 := by norm_num
  have hrun := stopped_and_served (Moment.isFinite_whole 1000) (.archive {}) .reversing hx hf none
    hdated
  simp only [hnow, draw] at hrun
  have hchild : s.named.get? "child" = some 2 := by decide +kernel
  have hother : s.named.get? "other" = some 3 := by decide +kernel
  have htells : ∀ id n, s.contexts.deadline? id = some (.whole n) →
      s.contexts.TellsTime s.now id := by
    intro id n hn d hd
    cases hn.symm.trans hd
    rw [hclock]
    exact Moment.hasDifference_whole n 1011
  have hchildTells : s.contexts.TellsTime s.now 2 := htells 2 1010 (by decide +kernel)
  have hlast : s.contexts.deadline? 3 = some (.whole 1030) := by decide +kernel
  have hhalted : Halted (first.after expiring) (g expiring) 2 := by
    have hreached : (first.after expiring).now = .whole 1010 := rfl
    exact ⟨1, .up rfl rfl (.self 1), .inr ⟨.whole 1010, rfl, hreached ▸ le_rfl⟩⟩
  have hlive : ¬Halted s (g (expiring ++ lingering)) 3 := by
    rintro ⟨a, ha, hspent⟩
    cases ha with
    | self _ =>
      rcases hspent with hc | ⟨d, hd, hr⟩
      · cases hc with
        | tail _ hc => cases hc
      · cases hlast.symm.trans hd
        rw [hclock, Moment.value_whole, Moment.value_whole] at hr
        norm_num at hr
    | up hb hp _ =>
      cases hb
      cases hp
  have harchive : s.repository.isArchive = true := by decide +kernel
  exact ⟨hx, hf, hdated,
    ⟨hchild, hchildTells, hhalted, (hrun "child" 2 hchild hchildTells).1 hhalted⟩,
    hother, htells 3 1030 hlast, hlive, harchive,
    (hrun "other" 3 hother (htells 3 1030 hlast)).2 hlive harchive⟩

end Session

end Accounts
