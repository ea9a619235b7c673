import Accounts.Proofs.Context.Genealogy

/-!
Looking at a context. Where the time left is not rounded, contexts that reflect a genealogy answer
as it says: a cancelled line is refused as cancelled, a line whose least deadline has come is
refused as expired, and otherwise the time left to that deadline is told. A context whose ancestor
allows no more work allows none either.
-/
namespace Accounts

namespace Contexts

variable {cs : Contexts Moment} {now : Moment} {id : Nat}

/-- The time left to the deadline of a context, if it has one, is not rounded. -/
def TellsTime (cs : Contexts Moment) (now : Moment) (id : Nat) : Prop :=
  ∀ d, cs.deadline? id = some d → d.HasDifference now

theorem check_of_cancelled (hc : cs.isCancelled id = true) :
    cs.check now id = .error .cancelled := by
  rw [check, if_pos hc]

theorem check_of_unbounded (hc : cs.isCancelled id = false) (hd : cs.deadline? id = none) :
    cs.check now id = .ok none := by
  simp only [check, hc, remaining, hd, Bool.false_eq_true, if_false]

/-- A deadline that has come leaves no time. -/
theorem check_of_reached {d : Moment} (hc : cs.isCancelled id = false)
    (hd : cs.deadline? id = some d) (hx : d.HasDifference now) (hr : d.value ≤ now.value) :
    cs.check now id = .error .expired := by
  obtain ⟨left, hleft, hfin, hvalue⟩ := hx
  have hle : Timeline.le (if Timeline.lt left Timeline.zero then Timeline.zero else left)
      (Timeline.zero : Moment) = true := by
    split
    · exact (Moment.le_iff Moment.isFinite_zero Moment.isFinite_zero).mpr le_rfl
    · rw [Moment.le_iff hfin Moment.isFinite_zero, Moment.value_zero, hvalue, sub_nonpos]
      exact hr
  simp only [check, hc, remaining, hd, hleft, hle, Bool.false_eq_true, if_false, if_true]

/-- The time left to a deadline that is to come. -/
theorem check_of_ahead {d : Moment} (hc : cs.isCancelled id = false)
    (hd : cs.deadline? id = some d) (hx : d.HasDifference now) (hr : now.value < d.value) :
    ∃ left, cs.check now id = .ok (some left) ∧ left.IsFinite ∧
      left.value = d.value - now.value := by
  obtain ⟨left, hleft, hfin, hvalue⟩ := hx
  have hpos : 0 < left.value := by
    rw [hvalue, sub_pos]
    exact hr
  have hlt : ¬Timeline.lt left (Timeline.zero : Moment) = true := by
    rw [Moment.lt_iff hfin Moment.isFinite_zero, Moment.value_zero]
    exact hpos.le.not_gt
  have hle : ¬Timeline.le left (Timeline.zero : Moment) = true := by
    rw [Moment.le_iff hfin Moment.isFinite_zero, Moment.value_zero]
    exact hpos.not_ge
  refine ⟨left, ?_, hfin, hvalue⟩
  simp only [check, hc, remaining, hd, hleft, hlt, hle, Bool.false_eq_true, if_false]

end Contexts

namespace Genealogy

variable {g : Genealogy} {id a : Nat}

/-- What a look at a context comes to by the rules. -/
inductive Verdict (g : Genealogy) (id : Nat) : Except ContextError (Option ℚ) → Prop where
  | cancelled (hc : g.IsCancelled id) : Verdict g id (.error .cancelled)
  | unbounded (hc : ¬g.IsCancelled id) (hn : g.requested id = ∅) : Verdict g id (.ok none)
  | expired {q : ℚ} (hc : ¬g.IsCancelled id) (hq : IsLeast (g.requested id) q) (hr : q ≤ g.now) :
    Verdict g id (.error .expired)
  | ahead {q : ℚ} (hc : ¬g.IsCancelled id) (hq : IsLeast (g.requested id) q) (hr : g.now < q) :
    Verdict g id (.ok (some (q - g.now)))

/-- The rules come to one thing only. -/
theorem Verdict.unique {x y : Except ContextError (Option ℚ)} (hx : g.Verdict id x)
    (hy : g.Verdict id y) : x = y := by
  cases hx with
  | cancelled hc =>
    cases hy with
    | cancelled _ => rfl
    | _ => contradiction
  | unbounded hc hn =>
    cases hy with
    | cancelled _ => contradiction
    | unbounded _ _ => rfl
    | expired _ hq _ => exact absurd (hn ▸ hq.1) (Set.notMem_empty _)
    | ahead _ hq _ => exact absurd (hn ▸ hq.1) (Set.notMem_empty _)
  | expired hc hq hr =>
    cases hy with
    | cancelled _ => contradiction
    | unbounded _ hn => exact absurd (hn ▸ hq.1) (Set.notMem_empty _)
    | expired _ _ _ => rfl
    | ahead _ hq' hr' => exact absurd (hq.unique hq' ▸ hr) (not_le.mpr hr')
  | ahead hc hq hr =>
    cases hy with
    | cancelled _ => contradiction
    | unbounded _ hn => exact absurd (hn ▸ hq.1) (Set.notMem_empty _)
    | expired _ hq' hr' => exact absurd (hq'.unique hq ▸ hr') (not_le.mpr hr)
    | ahead _ hq' _ => rw [hq.unique hq']

/-- The context or an ancestor has been cancelled, or the time requested for one of them has come.
-/
def IsSpent (g : Genealogy) (id : Nat) : Prop := g.IsCancelled id ∨ ∃ q ∈ g.requested id, q ≤ g.now

/-- No context outlives an ancestor. -/
theorem IsSpent.of_descends (h : g.IsSpent a) (hd : g.births.Descends id a) : g.IsSpent id := by
  rcases h with ⟨c, hc, hmem⟩ | ⟨q, hq, hr⟩
  · exact .inl ⟨c, hd.trans hc, hmem⟩
  · exact .inr ⟨q, Lineage.requested_subset hd hq, hr⟩

theorem IsSpent.bear (h : g.IsSpent id) (name : String) (b : Birth) :
    (g.bear name b).IsSpent id := by
  rcases h with ⟨a, ha, hmem⟩ | ⟨q, hq, hr⟩
  · exact .inl ⟨a, ha.append, hmem⟩
  · exact .inr ⟨q, Lineage.requested_subset_append hq, hr⟩

theorem IsSpent.cancel (h : g.IsSpent id) (other : Nat) : (g.cancel other).IsSpent id := by
  rcases h with ⟨a, ha, hmem⟩ | h
  · exact .inl ⟨a, ha, List.mem_cons_of_mem _ hmem⟩
  · exact .inr h

theorem IsSpent.withNow (h : g.IsSpent id) {now : ℚ} (hn : g.now ≤ now) :
    IsSpent { g with now := now } id := by
  rcases h with h | ⟨q, hq, hr⟩
  · exact .inl h
  · exact .inr ⟨q, hq, hr.trans hn⟩

/-- The rules refuse a context that is spent, and no other. -/
theorem Verdict.isSpent_iff {x : Except ContextError (Option ℚ)} (h : g.Verdict id x) :
    g.IsSpent id ↔ ∃ e, x = .error e := by
  cases h with
  | cancelled hc => exact iff_of_true (.inl hc) ⟨_, rfl⟩
  | expired hc hq hr => exact iff_of_true (.inr ⟨_, hq.1, hr⟩) ⟨_, rfl⟩
  | unbounded hc hn =>
    refine iff_of_false ?_ (fun ⟨_, he⟩ => by cases he)
    rintro (h | ⟨q, hq, -⟩)
    · exact hc h
    · exact absurd (hn ▸ hq) (Set.notMem_empty q)
  | ahead hc hq hr =>
    refine iff_of_false ?_ (fun ⟨_, he⟩ => by cases he)
    rintro (h | ⟨p, hp, hle⟩)
    · exact hc h
    · exact absurd (hr.trans_le (hq.2 hp)) (not_lt.mpr hle)

end Genealogy

/-- The values in the answer of a check. -/
def measured (answer : Except ContextError (Option Moment)) : Except ContextError (Option ℚ) :=
  answer.map (Option.map Moment.value)

theorem measured_eq_error_iff {answer : Except ContextError (Option Moment)} {e : ContextError} :
    measured answer = .error e ↔ answer = .error e := by
  cases answer <;> simp [measured, Except.map]

theorem measured_eq_ok_none_iff {answer : Except ContextError (Option Moment)} :
    measured answer = .ok none ↔ answer = .ok none := by
  cases answer <;> simp [measured, Except.map]

theorem measured_eq_ok_some_iff {answer : Except ContextError (Option Moment)} {q : ℚ} :
    measured answer = .ok (some q) ↔ ∃ left, answer = .ok (some left) ∧ left.value = q := by
  cases answer <;> simp [measured, Except.map]

/-! ## Contexts that reflect a genealogy -/

/-- Everything that can be learnt about a context is as its genealogy says. -/
structure Governed (g : Genealogy) (cs : Contexts Moment) (now : Moment) (id : Nat) : Prop where
  /-- It counts as cancelled when it or an ancestor has been cancelled. -/
  cancelled : cs.isCancelled id = true ↔ g.IsCancelled id
  /-- Its deadline is the least of those requested for it and its ancestors. -/
  deadline : Earliest (g.requested id) ((cs.deadline? id).map Moment.value)
  refused : cs.check now id = .error .cancelled ↔ g.IsCancelled id
  expired : cs.check now id = .error .expired ↔
    ¬g.IsCancelled id ∧ ∃ q, IsLeast (g.requested id) q ∧ q ≤ g.now
  unbounded : cs.check now id = .ok none ↔ ¬g.IsCancelled id ∧ g.requested id = ∅
  ahead : ∀ r, (∃ left, cs.check now id = .ok (some left) ∧ left.value = r) ↔
    ¬g.IsCancelled id ∧ ∃ q, IsLeast (g.requested id) q ∧ g.now < q ∧ r = q - g.now
  /-- It allows no work any more when an ancestor does not. -/
  outlived : ∀ a, g.births.Descends id a → (∃ e, cs.check now a = .error e) →
    ∃ e, cs.check now id = .error e

namespace Contexts.Reflects

variable {cs : Contexts Moment} {g : Genealogy} {now : Moment} {id : Nat}
  (h : cs.Reflects g) (hnow : now.value = g.now) (hid : id < cs.length)

include h hid

theorem isCancelled_eq_false (hlive : ¬g.IsCancelled id) : cs.isCancelled id = false := by
  rw [← Bool.not_eq_true, h.isCancelled_iff hid]
  exact hlive

include hnow

section

variable (hx : cs.TellsTime now id)

include hx

/-- A look at a context comes to what the rules say. -/
theorem verdict : g.Verdict id (measured (cs.check now id)) := by
  have hearliest := h.earliest id hid
  by_cases hcancelled : g.IsCancelled id
  · rw [check_of_cancelled ((h.isCancelled_iff hid).mpr hcancelled)]
    exact .cancelled hcancelled
  · have hc := h.isCancelled_eq_false hid hcancelled
    cases hd : cs.deadline? id with
    | none =>
      rw [hd] at hearliest
      rw [check_of_unbounded hc hd]
      exact .unbounded hcancelled hearliest
    | some d =>
      rw [hd] at hearliest
      rcases le_or_gt d.value now.value with hr | hr
      · rw [check_of_reached hc hd (hx d hd) hr]
        exact .expired hcancelled hearliest (hnow ▸ hr)
      · obtain ⟨left, hcheck, -, hvalue⟩ := check_of_ahead hc hd (hx d hd) hr
        have hleft : measured (.ok (some left)) = .ok (some (d.value - g.now)) :=
          measured_eq_ok_some_iff.mpr ⟨left, rfl, hnow ▸ hvalue⟩
        rw [hcheck, hleft]
        exact .ahead hcancelled hearliest (hnow ▸ hr)

/-- A context allows no more work exactly when it is spent. -/
theorem check_eq_error_iff : (∃ e, cs.check now id = .error e) ↔ g.IsSpent id := by
  rw [(h.verdict hnow hid hx).isSpent_iff]
  exact exists_congr fun e => measured_eq_error_iff.symm

theorem check_of_isSpent (hspent : g.IsSpent id) :
    cs.check now id = .error .cancelled ∨ cs.check now id = .error .expired := by
  obtain ⟨e, he⟩ := (h.check_eq_error_iff hnow hid hx).mpr hspent
  have hverdict := h.verdict hnow hid hx
  rw [measured_eq_error_iff.mpr he] at hverdict
  cases hverdict with
  | cancelled _ => exact .inl he
  | expired _ _ _ => exact .inr he

/-- A context that is not spent tells the time left to its deadline. -/
theorem check_of_live (hlive : ¬g.IsSpent id) :
    ∃ left, cs.check now id = .ok left ∧ (left = none ↔ cs.deadline? id = none) ∧
      ∀ t d, left = some t → cs.deadline? id = some d →
        0 < t.value ∧ t.value = d.value - now.value := by
  have hc := h.isCancelled_eq_false hid fun hc => hlive (.inl hc)
  cases hd : cs.deadline? id with
  | none => exact ⟨none, check_of_unbounded hc hd, by simp, fun _ _ h => by cases h⟩
  | some d =>
    have hlt : now.value < d.value := by
      rw [hnow]
      exact not_le.mp fun hle => hlive (.inr ⟨d.value, h.value_mem_requested hd, hle⟩)
    obtain ⟨left, hcheck, -, hvalue⟩ := check_of_ahead hc hd (hx d hd) hlt
    refine ⟨some left, hcheck, by simp, fun t e ht he => ?_⟩
    cases ht
    cases he
    exact ⟨hvalue ▸ sub_pos.mpr hlt, hvalue⟩

end

theorem governed (hx : ∀ a, cs.TellsTime now a) : Governed g cs now id := by
  have hiff : ∀ x, measured (cs.check now id) = x ↔ g.Verdict id x := by
    intro x
    have hverdict := h.verdict hnow hid (hx id)
    exact ⟨fun hm => hm ▸ hverdict, fun hv => hverdict.unique hv⟩
  constructor
  case cancelled => exact h.isCancelled_iff hid
  case deadline => exact h.earliest id hid
  case refused =>
    rw [← measured_eq_error_iff, hiff]
    exact ⟨fun | .cancelled hc => hc, .cancelled⟩
  case expired =>
    rw [← measured_eq_error_iff, hiff]
    exact ⟨fun | .expired hc hq hr => ⟨hc, _, hq, hr⟩, fun ⟨hc, _, hq, hr⟩ => .expired hc hq hr⟩
  case unbounded =>
    rw [← measured_eq_ok_none_iff, hiff]
    exact ⟨fun | .unbounded hc hn => ⟨hc, hn⟩, fun ⟨hc, hn⟩ => .unbounded hc hn⟩
  case ahead =>
    intro r
    rw [← measured_eq_ok_some_iff, hiff]
    constructor
    · rintro (_ | _ | _ | ⟨hc, hq, hr⟩)
      exact ⟨hc, _, hq, hr, rfl⟩
    · rintro ⟨hc, q, hq, hr, rfl⟩
      exact .ahead hc hq hr
  case outlived =>
    intro a ha herror
    have hlt : a < cs.length := by
      rw [h.length] at hid ⊢
      exact ha.lt h.founded hid
    rw [h.check_eq_error_iff hnow hlt (hx a)] at herror
    rw [h.check_eq_error_iff hnow hid (hx id)]
    exact herror.of_descends ha

end Contexts.Reflects

end Accounts
