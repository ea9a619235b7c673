import Mathlib.Data.List.Forall2
import Accounts.Context
import Accounts.Proofs.Time.Place

/-!
What a look at a context may come to, whatever deadlines were asked for. Deadlines can be whole
numbers of any size and doubles of any kind. Where the deadline in effect is a number that the clock
can be taken from, a look refuses the context, or finds that no deadline was asked for, or tells a
time that is left; and when no deadline on the line is undefined, the one in effect is the least and
no context gets past an ancestor that is refused.
-/
namespace Accounts

/-- What a context was created with. -/
structure Creation where
  requested : Option Moment
  parent : Option Nat

/-- How all contexts were created, the youngest first. -/
abbrev Creations := List Creation

namespace Creations

/-- A context and its ancestors, from itself upwards. -/
def line : Creations → Nat → List Nat
  | [], _ => []
  | c :: older, id =>
    if id = older.length then
      id ::
        match c.parent with
        | some p => line older p
        | none => []
    else line older id

/-- The deadlines asked for along the line. -/
def asked : Creations → Nat → List Moment
  | [], _ => []
  | c :: older, id =>
    if id = older.length then
      c.requested.toList ++
        match c.parent with
        | some p => asked older p
        | none => []
    else asked older id

variable {creations : Creations} {id a : Nat}

theorem lt_of_mem_line (h : a ∈ creations.line id) : a < creations.length := by
  induction creations generalizing id with
  | nil => cases h
  | cons c older ih =>
    rw [List.length_cons]
    unfold line at h
    split at h
    · next hid =>
      rcases List.mem_cons.mp h with rfl | h
      · omega
      · split at h
        · exact (ih h).trans (Nat.lt_succ_self _)
        · cases h
    · exact (ih h).trans (Nat.lt_succ_self _)

theorem asked_cons_of_ne {c : Creation} (h : id ≠ creations.length) :
    asked (c :: creations) id = asked creations id := by
  rw [asked, if_neg h]

/-- What was asked for an ancestor is asked for its descendants as well. -/
theorem asked_suffix (h : a ∈ creations.line id) : creations.asked a <:+ creations.asked id := by
  induction creations generalizing id with
  | nil => cases h
  | cons c older ih =>
    unfold line at h
    split at h
    · next hid =>
      rcases List.mem_cons.mp h with rfl | h
      · exact List.suffix_rfl
      · cases hp : c.parent with
        | none =>
          rw [hp] at h
          cases h
        | some p =>
          rw [hp] at h
          have hlt := lt_of_mem_line h
          rw [asked_cons_of_ne hlt.ne, asked, if_pos hid, hp]
          exact (ih h).trans (List.suffix_append _ _)
    · next hid =>
      have hlt := lt_of_mem_line h
      rw [asked_cons_of_ne hlt.ne, asked_cons_of_ne hid]
      exact ih h

end Creations

namespace Contexts

/-! ## The deadline in effect -/

/-- The deadline in effect of what was asked for, the last request first. -/
def effective : List Moment → Option Moment
  | [] => none
  | d :: ds => inherit (some d) (effective ds)

theorem effective_append (requested : Option Moment) (ds : List Moment) :
    effective (requested.toList ++ ds) = inherit requested (effective ds) := by
  cases requested with
  | none => rfl
  | some d => rfl

theorem effective_eq_none_iff {ds : List Moment} : effective ds = none ↔ ds = [] := by
  cases ds with
  | nil => exact iff_of_true rfl rfl
  | cons d ds =>
    rw [effective]
    cases effective ds <;> simp [inherit]

theorem earlier_eq_or (d e : Moment) : earlier d e = d ∨ earlier d e = e := by
  unfold earlier
  split
  · exact .inr rfl
  · exact .inl rfl

theorem mem_of_effective {ds : List Moment} {d : Moment} (h : effective ds = some d) : d ∈ ds := by
  induction ds generalizing d with
  | nil => cases h
  | cons e es ih =>
    cases hes : effective es with
    | none =>
      simp only [effective, hes, inherit, Option.some.injEq] at h
      exact h ▸ List.mem_cons_self
    | some f =>
      simp only [effective, hes, inherit, Option.some.injEq] at h
      subst h
      rcases earlier_eq_or e f with he | hf
      · rw [he]
        exact List.mem_cons_self
      · rw [hf]
        exact List.mem_cons_of_mem _ (ih hes)

theorem place_earlier {d e : Moment} (hd : ¬d.IsNaN) (he : ¬e.IsNaN) :
    (earlier d e).place ≤ d.place ∧ (earlier d e).place ≤ e.place := by
  have hlt := Moment.lt_iff_place he hd
  unfold earlier
  split
  · next h => exact ⟨(hlt.mp h).le, le_rfl⟩
  · next h => exact ⟨le_rfl, not_lt.mp (mt hlt.mpr h)⟩

/-- Where all that was asked for are numbers, the deadline in effect is the least of them. -/
theorem effective_le {ds : List Moment} (hn : ∀ d ∈ ds, ¬d.IsNaN) {e : Moment} (he : e ∈ ds) :
    ∃ d, effective ds = some d ∧ d.place ≤ e.place := by
  induction ds with
  | nil => cases he
  | cons f es ih =>
    have hf := hn f List.mem_cons_self
    have hrest : ∀ d ∈ es, ¬d.IsNaN := fun d hd => hn d (List.mem_cons_of_mem f hd)
    cases hes : effective es with
    | none =>
      rw [effective_eq_none_iff] at hes
      subst hes
      obtain rfl := List.mem_singleton.mp he
      exact ⟨e, rfl, le_rfl⟩
    | some g =>
      have hg := hrest g (mem_of_effective hes)
      refine ⟨earlier f g, by rw [effective, hes, inherit], ?_⟩
      rcases List.mem_cons.mp he with rfl | he
      · exact (place_earlier hf hg).1
      · obtain ⟨g', hg', hle⟩ := ih hrest he
        obtain rfl : g = g' := Option.some.inj (hes.symm.trans hg')
        exact (place_earlier hf hg).2.trans hle

/-! ## Contexts as they are created and cancelled -/

/-- Contexts that have come about by these creations, and by cancelling some of them. A timeout is
asked for as the moment after that time. -/
inductive Built : Creations → Contexts Moment → Prop
  | nil : Built [] []
  | create {creations : Creations} {cs : Contexts Moment} (h : Built creations cs)
    (requested : Option Moment) (parent : Option Nat) :
    Built (⟨requested, parent⟩ :: creations) (cs.create requested parent)
  | withTimeout {creations : Creations} {cs : Contexts Moment} (h : Built creations cs)
    {now : Double} {seconds d : Moment} (hd : Timeline.add? (.real now) seconds = some d)
    (parent : Option Nat) : Built (⟨some d, parent⟩ :: creations) (cs.create (some d) parent)
  | cancel {creations : Creations} {cs : Contexts Moment} (h : Built creations cs) (id : Nat) :
    Built creations (cs.cancel id)

/-- Contexts know the parents they were created with, and their deadlines in effect. -/
structure Follows (creations : Creations) (cs : Contexts Moment) : Prop where
  parents : List.Forall₂ (fun creation c => c.parent = creation.parent) creations cs
  deadlines : ∀ id, cs.deadline? id = effective (creations.asked id)

variable {creations : Creations} {cs : Contexts Moment} {id a : Nat}

theorem Follows.length (h : Follows creations cs) : creations.length = cs.length :=
  h.parents.length_eq

theorem Follows.create (h : Follows creations cs) (requested : Option Moment)
    (parent : Option Nat) :
    Follows (⟨requested, parent⟩ :: creations) (cs.create requested parent) where
  parents := .cons rfl h.parents
  deadlines := by
    intro id
    by_cases hid : id = creations.length
    · have hid' : id = cs.length := hid.trans h.length
      rw [Creations.asked, if_pos hid, effective_append, hid', deadline?_create_length]
      cases parent with
      | none => rfl
      | some p => exact congrArg _ (h.deadlines p)
    · have hid' : id ≠ cs.length := h.length ▸ hid
      have hold : (cs.create requested parent).deadline? id = cs.deadline? id := by
        simp [Contexts.create, deadline?, get?, hid']
      rw [hold, Creations.asked_cons_of_ne hid]
      exact h.deadlines id

theorem forall₂_cancel {R : Creation → Context Moment → Prop}
    (hR : ∀ creation c, R creation c → R creation { c with cancelled := true })
    (h : List.Forall₂ R creations cs) (id : Nat) : List.Forall₂ R creations (cs.cancel id) := by
  induction h with
  | nil => exact .nil
  | cons hc hrest ih =>
    unfold Contexts.cancel
    split
    · exact .cons (hR _ _ hc) hrest
    · exact .cons hc ih

theorem Follows.cancel (h : Follows creations cs) (id : Nat) : Follows creations (cs.cancel id) where
  parents := forall₂_cancel (fun _ _ hp => hp) h.parents id
  deadlines := by
    intro other
    rw [deadline?_cancel]
    exact h.deadlines other

theorem Built.follows (h : Built creations cs) : Follows creations cs := by
  induction h with
  | nil => exact ⟨.nil, fun _ => rfl⟩
  | create _ requested parent ih => exact ih.create requested parent
  | withTimeout _ _ parent ih => exact ih.create _ parent
  | cancel _ id ih => exact ih.cancel id

/-- A context counts as cancelled when an ancestor does. -/
theorem isCancelled_of_mem_line
    (h : List.Forall₂ (fun creation c => c.parent = creation.parent) creations cs)
    (ha : a ∈ creations.line id) (hc : cs.isCancelled a = true) : cs.isCancelled id = true := by
  induction h generalizing id with
  | nil => cases ha
  | @cons creation c older cs hparent hrest ih =>
    have hlength := hrest.length_eq
    unfold Creations.line at ha
    split at ha
    · next hid =>
      rcases List.mem_cons.mp ha with rfl | ha
      · exact hc
      · cases hp : creation.parent with
        | none =>
          rw [hp] at ha
          cases ha
        | some p =>
          rw [hp] at ha
          have hlt := Creations.lt_of_mem_line ha
          have hold : isCancelled cs a = true := by
            rwa [isCancelled, if_neg (hlength ▸ hlt.ne)] at hc
          simp [isCancelled, hlength ▸ hid, hparent.trans hp, ih ha hold]
    · next hid =>
      have hlt := Creations.lt_of_mem_line ha
      rw [isCancelled, if_neg (hlength ▸ hlt.ne)] at hc
      rw [isCancelled, if_neg (hlength ▸ hid)]
      exact ih ha hc

/-! ## Looking at a context -/

/-- The clock can be taken from the deadline: a whole number is not too large for a double, and the
difference is a number. -/
def IsTellable (now : Double) : Moment → Prop
  | .whole n => n.natAbs < Moment.wholeLimit ∧ now.magnitude ≠ .undefined
  | .real x => x.magnitude ≠ .undefined ∧ now.magnitude ≠ .undefined ∧
    ∀ s, ¬(x.magnitude = .infinite s ∧ now.magnitude = .infinite s)

theorem isTellable_iff {now : Double} {d : Moment} : IsTellable now d ↔
    ∃ x, d.double? = some x ∧ (x.sub now).magnitude ≠ .undefined := by
  cases d with
  | real x =>
    simp only [IsTellable, Moment.double?, Option.some.injEq, exists_eq_left', ne_eq,
      Double.magnitude_sub_undefined_iff, not_or, not_exists]
  | whole n =>
    rw [IsTellable, ← Moment.double?_whole_isSome_iff, Option.isSome_iff_exists]
    have hsub {x : Double} (hx : (Moment.whole n).double? = some x) :
        (x.sub now).magnitude ≠ .undefined ↔ now.magnitude ≠ .undefined := by
      obtain ⟨s, m, e, hfin⟩ := Double.finite_of_ofInt? hx
      simp [Double.magnitude_sub_undefined_iff, hfin]
    constructor
    · rintro ⟨⟨x, hx⟩, hnow⟩
      exact ⟨x, hx, (hsub hx).mpr hnow⟩
    · rintro ⟨x, hx, hnumber⟩
      exact ⟨⟨x, hx⟩, (hsub hx).mp hnumber⟩

theorem sub?_real (d : Moment) (now : Double) :
    Timeline.sub? d (.real now) = d.double?.map fun x => .real (x.sub now) := by
  cases d with
  | real x => rfl
  | whole n =>
    change Moment.combine Double.sub (· - ·) (.whole n) (.real now) = _
    simp only [Moment.combine, Moment.double?]
    cases Double.ofInt? n <;> rfl

/-- All that a look at a context may come to, and when. -/
inductive Look (cs : Contexts Moment) (now : Double) (id : Nat) :
    Except ContextError (Option Moment) → Prop
  | cancelled (hc : cs.isCancelled id = true) : Look cs now id (.error .cancelled)
  | unbounded (hc : cs.isCancelled id = false) (hd : cs.deadline? id = none) :
    Look cs now id (.ok none)
  | overflow {d : Moment} (hc : cs.isCancelled id = false) (hd : cs.deadline? id = some d)
    (hx : d.double? = none) : Look cs now id (.error .overflow)
  | undefined {d : Moment} {x : Double} (hc : cs.isCancelled id = false)
    (hd : cs.deadline? id = some d) (hx : d.double? = some x)
    (hu : (x.sub now).magnitude = .undefined) : Look cs now id (.ok (some (.real (x.sub now))))
  | expired {d : Moment} {x : Double} (hc : cs.isCancelled id = false)
    (hd : cs.deadline? id = some d) (hx : d.double? = some x)
    (hu : (x.sub now).magnitude ≠ .undefined) (hr : x.magnitude.place ≤ now.magnitude.place) :
    Look cs now id (.error .expired)
  | left {d : Moment} {x : Double} (hc : cs.isCancelled id = false)
    (hd : cs.deadline? id = some d) (hx : d.double? = some x)
    (hu : (x.sub now).magnitude ≠ .undefined) (hr : now.magnitude.place < x.magnitude.place)
    (hp : Timeline.lt (Timeline.zero : Moment) (.real (x.sub now)) = true) :
    Look cs now id (.ok (some (.real (x.sub now))))

/-- The time left, which is not below zero and is told when it is above. -/
theorem check_of_double {now x : Double} {d : Moment} (hc : cs.isCancelled id = false)
    (hd : cs.deadline? id = some d) (hx : d.double? = some x) :
    cs.check (.real now) id =
      let r := if Timeline.lt (.real (x.sub now)) (Timeline.zero : Moment) then Timeline.zero
        else .real (x.sub now)
      if Timeline.le r Timeline.zero then .error .expired else .ok (some r) := by
  simp [check, hc, remaining, hd, sub?_real, hx]

theorem look_of_double {now x : Double} {d : Moment} (hc : cs.isCancelled id = false)
    (hd : cs.deadline? id = some d) (hx : d.double? = some x) :
    Look cs now id (cs.check (.real now) id) := by
  rw [check_of_double hc hd hx]
  dsimp only
  have hzero : ¬(Timeline.zero : Moment).IsNaN := by decide
  by_cases hu : (x.sub now).magnitude = .undefined
  · -- What is not a number is not below zero and not equal to it.
    have hlt : ¬Timeline.lt (.real (x.sub now)) (Timeline.zero : Moment) = true :=
      fun h => (Moment.not_isNaN_of_lt h).1 hu
    have hle : ¬Timeline.le (.real (x.sub now)) (Timeline.zero : Moment) = true :=
      fun h => (Moment.not_isNaN_of_le h).1 hu
    rw [if_neg hlt, if_neg hle]
    exact .undefined hc hd hx hu
  · have hpos := Double.place_sub_pos_iff hu
    have hlt := Moment.lt_iff_place (a := .real (x.sub now)) hu hzero
    have hle := Moment.le_iff_place (a := .real (x.sub now)) hu hzero
    rcases le_or_gt x.magnitude.place now.magnitude.place with hreached | hahead
    · have hbelow : (Moment.real (x.sub now)).place ≤ (Timeline.zero : Moment).place :=
        not_lt.mp (mt hpos.mp (not_lt.mpr hreached))
      have hstop : Timeline.le (if Timeline.lt (.real (x.sub now)) (Timeline.zero : Moment) then
          Timeline.zero else .real (x.sub now)) (Timeline.zero : Moment) = true := by
        split
        · exact (Moment.le_iff_place hzero hzero).mpr le_rfl
        · exact hle.mpr hbelow
      rw [if_pos hstop]
      exact .expired hc hd hx hu hreached
    · have habove : (Timeline.zero : Moment).place < (Moment.real (x.sub now)).place :=
        hpos.mpr hahead
      have hnlt := mt hlt.mp habove.not_gt
      have hnle := mt hle.mp (not_le.mpr habove)
      have hgt := Moment.lt_iff_place (b := .real (x.sub now)) hzero hu
      rw [if_neg hnlt, if_neg hnle]
      exact .left hc hd hx hu hahead (hgt.mpr habove)

theorem look_check (cs : Contexts Moment) (now : Double) (id : Nat) :
    Look cs now id (cs.check (.real now) id) := by
  cases hc : cs.isCancelled id with
  | true =>
    rw [check, if_pos hc]
    exact .cancelled hc
  | false =>
    cases hd : cs.deadline? id with
    | none =>
      simp only [check, hc, remaining, hd, Bool.false_eq_true, if_false]
      exact .unbounded hc hd
    | some d =>
      cases hx : d.double? with
      | none =>
        simp only [check, hc, remaining, hd, sub?_real, hx, Option.map_none, Bool.false_eq_true,
          if_false]
        exact .overflow hc hd hx
      | some x => exact look_of_double hc hd hx

/-! ## The contract -/

/-- What a look may come to: a refusal, nothing when no deadline was asked for, or a time above
zero. -/
inductive Kept (asked : List Moment) : Except ContextError (Option Moment) → Prop
  | cancelled : Kept asked (.error .cancelled)
  | expired : Kept asked (.error .expired)
  | unbounded (h : asked = []) : Kept asked (.ok none)
  | left {r : Moment} (h : Timeline.lt (Timeline.zero : Moment) r = true) : Kept asked (.ok (some r))

/-- A look comes to one of these exactly when the deadline in effect is tellable, if there is one and
the context is not cancelled. -/
theorem Look.kept_iff {now : Double} {asked : List Moment}
    {answer : Except ContextError (Option Moment)} (h : Look cs now id answer)
    (hd : cs.deadline? id = effective asked) :
    Kept asked answer ↔ cs.isCancelled id = true ∨ asked = [] ∨
      ∃ d, cs.deadline? id = some d ∧ IsTellable now d := by
  have hasked {d : Moment} (hsome : cs.deadline? id = some d) : asked ≠ [] := by
    rintro rfl
    rw [hd] at hsome
    cases hsome
  cases h with
  | cancelled hc => exact iff_of_true .cancelled (.inl hc)
  | unbounded hc hn =>
    have hnil : asked = [] := effective_eq_none_iff.mp (hd.symm.trans hn)
    exact iff_of_true (.unbounded hnil) (.inr (.inl hnil))
  | @overflow d hc hsome hx =>
    refine iff_of_false (by rintro ⟨⟩) ?_
    rintro (hcancelled | hnil | ⟨e, he, htell⟩)
    · exact absurd hcancelled (Bool.eq_false_iff.mp hc)
    · exact hasked hsome hnil
    · obtain rfl : d = e := Option.some.inj (hsome.symm.trans he)
      obtain ⟨y, hy, -⟩ := isTellable_iff.mp htell
      cases hx.symm.trans hy
  | @undefined d x hc hsome hx hu =>
    refine iff_of_false ?_ ?_
    · intro hkept
      cases hkept with
      | left hlt => exact (Moment.not_isNaN_of_lt hlt).2 hu
    · rintro (hcancelled | hnil | ⟨e, he, htell⟩)
      · exact absurd hcancelled (Bool.eq_false_iff.mp hc)
      · exact hasked hsome hnil
      · obtain rfl : d = e := Option.some.inj (hsome.symm.trans he)
        obtain ⟨y, hy, hnumber⟩ := isTellable_iff.mp htell
        obtain rfl : x = y := Option.some.inj (hx.symm.trans hy)
        exact hnumber hu
  | expired hc hsome hx hu hr =>
    exact iff_of_true .expired (.inr (.inr ⟨_, hsome, isTellable_iff.mpr ⟨_, hx, hu⟩⟩))
  | left hc hsome hx hu hr hp =>
    exact iff_of_true (.left hp) (.inr (.inr ⟨_, hsome, isTellable_iff.mpr ⟨_, hx, hu⟩⟩))

/-- A number no further than an infinite one on its own side is that. -/
theorem eq_infinite_of_place {a : Magnitude} {s : Bool} (ha : a.IsOnGrid)
    (h : a.place = (Magnitude.infinite s).place) : a = .infinite s := by
  match a, s with
  | .infinite true, true => rfl
  | .infinite false, false => rfl
  | .infinite true, false => simp [Magnitude.place] at h
  | .infinite false, true => simp [Magnitude.place] at h
  | .finite t m e, true => simp [Magnitude.place] at h
  | .finite t m e, false => exact absurd h (Magnitude.coe_lt_top _).ne

/-- A deadline that is not after one that has come has come as well. -/
theorem sub_of_reached {now x y : Double} (hu : (x.sub now).magnitude ≠ .undefined)
    (hy : y.magnitude ≠ .undefined) (hle : y.magnitude.place ≤ x.magnitude.place)
    (hr : x.magnitude.place ≤ now.magnitude.place) : (y.sub now).magnitude ≠ .undefined := by
  rw [ne_eq, Double.magnitude_sub_undefined_iff, not_or, not_or] at hu
  obtain ⟨hx, hnow, hsame⟩ := hu
  rw [ne_eq, Double.magnitude_sub_undefined_iff]
  rintro (h | h | ⟨s, hys, hnows⟩)
  · exact hy h
  · exact hnow h
  · -- Then the later one is the same infinity, being in between.
    rw [hys] at hle
    rw [hnows] at hr
    exact hsame ⟨s, eq_infinite_of_place (Double.isOnGrid_of_ne hx) (le_antisymm hr hle), hnows⟩

/-- A context that is refused but not cancelled has a deadline that has come. -/
theorem Look.of_refused {now : Double} {answer : Except ContextError (Option Moment)}
    (h : Look cs now id answer) (hc : ¬cs.isCancelled id = true)
    (hrefused : answer = .error .cancelled ∨ answer = .error .expired) :
    ∃ d x, cs.deadline? id = some d ∧ d.double? = some x ∧ (x.sub now).magnitude ≠ .undefined ∧
      x.magnitude.place ≤ now.magnitude.place := by
  cases h with
  | cancelled hcancelled => exact absurd hcancelled hc
  | expired _ hd hx hu hr => exact ⟨_, _, hd, hx, hu, hr⟩
  | _ => simp at hrefused

/-- Where all deadlines that were asked for are numbers, a context whose ancestor is refused is
refused. -/
theorem Follows.refused {now : Double} (h : Follows creations cs)
    (hn : ∀ d ∈ creations.asked id, ¬d.IsNaN) (ha : a ∈ creations.line id)
    (hrefused : cs.check (.real now) a = .error .cancelled ∨
      cs.check (.real now) a = .error .expired) : ∃ e, cs.check (.real now) id = .error e := by
  cases hc : cs.isCancelled id with
  | true => exact ⟨.cancelled, by rw [check, if_pos hc]⟩
  | false =>
    have hline : ¬cs.isCancelled a = true := fun hca => by
      simp [isCancelled_of_mem_line h.parents ha hca] at hc
    obtain ⟨e, x, he, hx, hu, hr⟩ := (look_check cs now a).of_refused hline hrefused
    have hmem : e ∈ creations.asked id := by
      rw [h.deadlines] at he
      exact (Creations.asked_suffix ha).subset (mem_of_effective he)
    obtain ⟨d, hd, hle⟩ := effective_le hn hmem
    have hnumber : ¬d.IsNaN := hn d (mem_of_effective hd)
    rw [← h.deadlines] at hd
    -- Made doubles, the two deadlines are still in this order.
    have hbefore {y : Double} (hy : d.double? = some y) :
        y.magnitude ≠ .undefined ∧ y.magnitude.place ≤ x.magnitude.place := by
      obtain ⟨hyu, hyp⟩ := Moment.place_of_double? hy
      rw [hyp, (Moment.place_of_double? hx).2]
      exact ⟨mt hyu.mp hnumber, Double.settle_mono hle⟩
    have hown := look_check cs now id
    generalize cs.check (.real now) id = answer at hown ⊢
    cases hown with
    | cancelled | overflow | expired => exact ⟨_, rfl⟩
    | unbounded _ hnone => cases hnone.symm.trans hd
    | undefined _ hd' hy hundefined =>
      obtain rfl := Option.some.inj (hd'.symm.trans hd)
      exact absurd hundefined (sub_of_reached hu (hbefore hy).1 (hbefore hy).2 hr)
    | left _ hd' hy _ hahead =>
      obtain rfl := Option.some.inj (hd'.symm.trans hd)
      exact absurd ((hbefore hy).2.trans hr) (not_le.mpr hahead)

/-- Whatever deadlines were asked for, and whatever the clock shows: a look at a context is refused
as cancelled or expired, or finds no deadline when none was asked for, or tells a time above zero,
exactly when the context is cancelled or its deadline in effect, if it has one, is tellable. If all
that were asked for along its line are numbers, the deadline in effect is the least of them, and the
context does not get past an ancestor that is refused. -/
theorem check_kept_iff (h : Built creations cs) (id : Nat) (now : Double) :
    (Kept (creations.asked id) (cs.check (.real now) id) ↔
      cs.isCancelled id = true ∨ creations.asked id = [] ∨
        ∃ d, cs.deadline? id = some d ∧ IsTellable now d) ∧
    ((∀ d ∈ creations.asked id, ¬d.IsNaN) →
      (∀ d, cs.deadline? id = some d →
        d ∈ creations.asked id ∧ ∀ e ∈ creations.asked id, Timeline.le d e = true) ∧
      ∀ a ∈ creations.line id, cs.check (.real now) a = .error .cancelled ∨
        cs.check (.real now) a = .error .expired → ∃ e, cs.check (.real now) id = .error e) := by
  have hf := h.follows
  refine ⟨(look_check cs now id).kept_iff (hf.deadlines id), fun hn => ⟨fun d hd => ?_, ?_⟩⟩
  · rw [hf.deadlines] at hd
    refine ⟨mem_of_effective hd, fun e he => ?_⟩
    obtain ⟨d', hd', hle⟩ := effective_le hn he
    obtain rfl : d = d' := Option.some.inj (hd.symm.trans hd')
    exact (Moment.le_iff_place (hn d (mem_of_effective hd)) (hn e he)).mpr hle
  · exact fun a ha => hf.refused hn ha

def alone (deadline : Moment) : Contexts Moment := create [] (some deadline) none

def under (deadline requested : Moment) : Contexts Moment :=
  create (alone deadline) (some requested) (some 0)

theorem built_under (deadline requested : Moment) :
    Built [⟨some requested, some 0⟩, ⟨some deadline, none⟩] (under deadline requested) :=
  .create (.create .nil _ _) _ _

def thousand : Double := ⟨0x408F400000000000⟩

def fifteenHundred : Double := ⟨0x4097700000000000⟩

/-- At the thousandth second a later deadline leaves time, unless it is under one that has come. -/
theorem check_kept_under :
    Kept [.real fifteenHundred, .whole 2000]
        ((under (.whole 2000) (.real fifteenHundred)).check (.real thousand) 1) ∧
      ∃ e, (under (.whole 10) (.real fifteenHundred)).check (.real thousand) 1 = .error e := by
  have hnumbers : ∀ d ∈ Creations.asked
      [⟨some (.real fifteenHundred), some 0⟩, ⟨some (.whole 10), none⟩] 1, ¬d.IsNaN := by decide
  have hdeadline : (under (.whole 2000) (.real fifteenHundred)).deadline? 1 =
      some (.real fifteenHundred) := by decide +kernel
  have htell : IsTellable thousand (.real fifteenHundred) := by
    refine ⟨by decide, by decide, ?_⟩
    decide
  exact ⟨(check_kept_iff (built_under _ _) 1 thousand).1.mpr (.inr (.inr ⟨_, hdeadline, htell⟩)),
    ((check_kept_iff (built_under _ _) 1 thousand).2 hnumbers).2 0 (by decide)
      (.inr (by decide +kernel))⟩

/-- A deadline that is not a number gets past one that has come, and is told as the time left. One
too far away for a double makes the look itself fail. -/
theorem check_not_kept :
    (under (.whole 10) (.real Double.nan)).check (.real thousand) 0 = .error .expired ∧
      (under (.whole 10) (.real Double.nan)).check (.real thousand) 1 =
        .ok (some (.real Double.nan)) ∧
      Timeline.lt (Timeline.zero : Moment) (.real Double.nan) = false ∧
      (alone (.whole (-(10 ^ 400)))).check (.real thousand) 0 = .error .overflow := by
  refine ⟨?_, ?_, ?_, ?_⟩
  all_goals decide +kernel

end Contexts

end Accounts
