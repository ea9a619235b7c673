import Mathlib.Data.List.Basic
import Accounts.Text.Normal

/-!
Code points that composition leaves alone. Such a code point has no parts and is no part of
another, so a text in composed normal form holds it exactly when the text before did. No mark passes
it either, so it begins or ends the composed text exactly when it did so before.
-/
namespace Accounts.Text.Normal

/-- The code point is below those that can be taken apart, and in no row of the tables. -/
structure IsStandalone (x : Nat) : Prop where
  low : x < 0xC0
  pairs : ∀ r ∈ pairs, x ≠ r.1 ∧ x ≠ r.2.1 ∧ x ≠ r.2.2
  equivalents : ∀ r ∈ equivalents, x ≠ r.2

/-- The tables begin with the semicolon. -/
theorem isStandalone_of_lt {x : Nat} (h : x < 0x3B) : IsStandalone x := by
  have hpairs : ∀ r ∈ pairs, 0x3B ≤ r.1 ∧ 0x3B ≤ r.2.1 ∧ 0x3B ≤ r.2.2 := by decide +kernel
  have hequivalents : ∀ r ∈ equivalents, 0x3B ≤ r.2 := by decide +kernel
  constructor
  · omega
  · intro r hr
    have hrow := hpairs r hr
    omega
  · intro r hr
    have hrow := hequivalents r hr
    omega

variable {x : Nat}

/-! ## Taking apart -/

theorem low_notMem_syllableParts (h : x < 0xC0) (c : Nat) : x ∉ syllableParts c := by
  have hl : ∀ i, x ≠ leadBase + i := by
    intro i
    simp only [leadBase]
    omega
  have hv : ∀ i, x ≠ vowelBase + i := by
    intro i
    simp only [vowelBase]
    omega
  have ht : ∀ i, x ≠ trailBase + i := by
    intro i
    simp only [trailBase]
    omega
  simp only [syllableParts]
  split
  · simp [hl, hv]
  · simp [hl, hv, ht]

/-- A step of taking apart keeps the code point and does not bring it in. -/
theorem mem_parts_iff (h : IsStandalone x) (c : Nat) : x ∈ parts c ↔ x = c := by
  have hx := h.low
  unfold parts
  by_cases hc : c < 0xC0
  · simp [hc]
  · have hne : x ≠ c := by omega
    simp only [hc, if_false, hne, iff_false]
    by_cases hs : isSyllable c
    · simp only [hs, if_true]
      exact low_notMem_syllableParts hx c
    · simp only [hs]
      cases hp : pairs.find? fun r => Nat.beq r.1 c with
      | some r =>
        obtain ⟨-, ha, hb⟩ := h.pairs r (List.mem_of_find?_eq_some hp)
        simp [ha, hb]
      | none =>
        simp only
        cases he : equivalents.find? fun r => Nat.beq r.1 c with
        | some r =>
          have hd := h.equivalents r (List.mem_of_find?_eq_some he)
          simpa using hd
        | none => simpa using hne

theorem mem_decomposeTo_iff (h : IsStandalone x) (depth c : Nat) :
    x ∈ decomposeTo depth c ↔ x = c := by
  induction depth generalizing c with
  | zero => simp [decomposeTo]
  | succ depth ih =>
    simp only [decomposeTo, List.mem_flatMap, ih]
    constructor
    · rintro ⟨d, hd, rfl⟩
      exact (mem_parts_iff h c).mp hd
    · intro hc
      exact ⟨x, (mem_parts_iff h c).mpr hc, rfl⟩

/-! ## Putting in order -/

theorem mem_insertOrdered_iff (c : Nat) (cs : List Nat) :
    x ∈ insertOrdered c cs ↔ x = c ∨ x ∈ cs := by
  induction cs with
  | nil => simp [insertOrdered]
  | cons d ds ih =>
    unfold insertOrdered
    split
    · simp only [List.mem_cons, ih]
      exact or_left_comm
    · simp only [List.mem_cons]

theorem mem_reorder_iff (cs : List Nat) : x ∈ reorder cs ↔ x ∈ cs := by
  induction cs with
  | nil => rfl
  | cons c cs ih =>
    have hc : reorder (c :: cs) = insertOrdered c (reorder cs) := rfl
    rw [hc, mem_insertOrdered_iff, ih, List.mem_cons]

/-! ## Composing -/

/-- A low code point is no part of a syllable, and no syllable is low. -/
theorem joinParts_low (h : x < 0xC0) {a b whole : Nat} (hj : joinParts a b = some whole) :
    x ≠ a ∧ x ≠ b ∧ x ≠ whole := by
  unfold joinParts at hj
  split at hj
  · next hab =>
    have hw := Option.some.inj hj
    simp only [leadBase, vowelBase, syllableBase] at hab hw
    omega
  · split at hj
    · next hab =>
      have hw := Option.some.inj hj
      simp only [isSyllable, syllableBase, trailBase, Bool.and_eq_true, Nat.ble_eq] at hab
      omega
    · cases hj

/-- What composes is something else, and so is what it composes to. -/
theorem ne_of_composePair (h : IsStandalone x) {a b whole : Nat}
    (hc : composePair a b = some whole) : x ≠ a ∧ x ≠ b ∧ x ≠ whole := by
  unfold composePair at hc
  split at hc
  · cases hc
  · cases hj : joinParts a b with
    | some c =>
      rw [hj] at hc
      cases hc
      exact joinParts_low h.low hj
    | none =>
      rw [hj] at hc
      obtain ⟨r, hr, rfl⟩ := Option.map_eq_some_iff.mp hc
      have hmem := h.pairs r (List.mem_of_find?_eq_some hr)
      have hab := List.find?_some hr
      simp only [Bool.and_eq_true, Nat.beq_eq] at hab
      obtain ⟨⟨rfl, rfl⟩, -⟩ := hab
      exact ⟨hmem.2.1, hmem.2.2, hmem.1⟩

theorem mem_composeFrom_iff (h : IsStandalone x) (starter : Nat) (waiting cs : List Nat) :
    x ∈ composeFrom starter waiting cs ↔ x = starter ∨ x ∈ waiting ∨ x ∈ cs := by
  induction cs generalizing starter waiting with
  | nil => simp [composeFrom]
  | cons c cs ih =>
    have hkeep : x = starter ∨ x ∈ c :: waiting ∨ x ∈ cs ↔
        x = starter ∨ x ∈ waiting ∨ x ∈ c :: cs := by
      simp only [List.mem_cons]
      exact or_congr_right (by rw [or_assoc, or_left_comm])
    unfold composeFrom
    dsimp only
    split
    · next whole hw =>
      have hpair : composePair starter c = some whole := (Option.ite_none_left_eq_some.mp hw).2
      obtain ⟨hs, hc, hwhole⟩ := ne_of_composePair h hpair
      rw [ih, List.mem_cons]
      simp only [hs, hc, hwhole, false_or]
    · split
      · rw [List.mem_cons, List.mem_append, List.mem_reverse, ih]
        simp
      · rw [ih]
        exact hkeep

/-- The composed form of a text holds the code point when the text does. -/
theorem mem_composed_iff (h : IsStandalone x) (cs : List Nat) : x ∈ composed cs ↔ x ∈ cs := by
  have hd : x ∈ cs.flatMap decompose ↔ x ∈ cs := by
    simp only [List.mem_flatMap, decompose, mem_decomposeTo_iff h, exists_eq_right']
  have hr : x ∈ reorder (cs.flatMap decompose) ↔ x ∈ cs := (mem_reorder_iff _).trans hd
  unfold composed
  rw [← hr]
  cases reorder (cs.flatMap decompose) with
  | nil => rfl
  | cons d ds => simp [compose, mem_composeFrom_iff h]

/-! ## Ends -/

/-- Nothing that low is a mark. -/
theorem IsStandalone.class_eq (h : IsStandalone x) : combiningClass x = 0 := by
  have hlow := h.low
  rw [combiningClass, if_pos (by omega)]

theorem IsStandalone.ne_of_class (h : IsStandalone x) {c : Nat} (hc : combiningClass c ≠ 0) :
    c ≠ x := by
  rintro rfl
  exact hc h.class_eq

theorem parts_ne_nil (c : Nat) : parts c ≠ [] := by
  unfold parts
  split
  · simp
  · split
    · simp only [syllableParts]
      split <;> simp
    · split
      · simp
      · split <;> simp

theorem decomposeTo_ne_nil (depth c : Nat) : decomposeTo depth c ≠ [] := by
  induction depth generalizing c with
  | zero => simp [decomposeTo]
  | succ depth ih =>
    obtain ⟨d, ds, hd⟩ := List.exists_cons_of_ne_nil (parts_ne_nil c)
    simp [decomposeTo, hd, ih]

theorem decompose_ne_nil (c : Nat) : decompose c ≠ [] := decomposeTo_ne_nil 4 c

theorem decompose_self (h : IsStandalone x) : decompose x = [x] := by
  have hparts : parts x = [x] := by rw [parts, if_pos h.low]
  simp [decompose, decomposeTo, hparts]

/-- What a code point is taken apart into ends in `x` on neither side, unless it is `x`. -/
theorem ends_decompose_iff (h : IsStandalone x) (c : Nat) :
    ((decompose c).head? = some x ↔ c = x) ∧ ((decompose c).getLast? = some x ↔ c = x) := by
  by_cases hc : c = x
  · subst hc
    simp [decompose_self h]
  · have hmem : x ∉ decompose c := fun hx => hc ((mem_decomposeTo_iff h 4 c).mp hx).symm
    simp only [hc, iff_false]
    exact ⟨fun hx => hmem (List.mem_of_head? hx), fun hx => hmem (List.mem_of_getLast? hx)⟩

theorem ends_flatMap_decompose_iff (h : IsStandalone x) (cs : List Nat) :
    ((cs.flatMap decompose).head? = some x ↔ cs.head? = some x) ∧
      ((cs.flatMap decompose).getLast? = some x ↔ cs.getLast? = some x) := by
  constructor
  · cases cs with
    | nil => rfl
    | cons c cs =>
      rw [List.flatMap_cons, List.head?_append, Option.or_of_isSome, (ends_decompose_iff h c).1]
      · simp
      · simpa using decompose_ne_nil c
  · rcases List.eq_nil_or_concat cs with rfl | ⟨before, c, rfl⟩
    · rfl
    · rw [List.concat_eq_append, List.flatMap_append, List.flatMap_singleton,
        List.getLast?_append_of_ne_nil _ (decompose_ne_nil c), (ends_decompose_iff h c).2]
      simp

theorem head?_insertOrdered_iff (h : IsStandalone x) (c : Nat) (cs : List Nat) :
    (insertOrdered c cs).head? = some x ↔ c = x := by
  cases cs with
  | nil => simp [insertOrdered]
  | cons d ds =>
    unfold insertOrdered
    split
    · next hd =>
      -- Both of them are marks.
      have hdx := h.ne_of_class hd.1
      have hcx : c ≠ x := h.ne_of_class (by omega)
      simp [hdx, hcx]
    · simp

theorem insertOrdered_ne_nil (c : Nat) (cs : List Nat) : insertOrdered c cs ≠ [] := by
  cases cs with
  | nil => simp [insertOrdered]
  | cons d ds =>
    unfold insertOrdered
    split <;> simp

theorem getLast?_insertOrdered_iff (h : IsStandalone x) (c : Nat) {cs : List Nat} (hne : cs ≠ []) :
    (insertOrdered c cs).getLast? = some x ↔ cs.getLast? = some x := by
  induction cs with
  | nil => exact absurd rfl hne
  | cons d ds ih =>
    unfold insertOrdered
    split
    · next hd =>
      rw [List.getLast?_cons_of_ne_nil (insertOrdered_ne_nil c ds)]
      by_cases hds : ds = []
      · subst hds
        have hdx := h.ne_of_class hd.1
        have hcx : c ≠ x := h.ne_of_class (by omega)
        simp [insertOrdered, hdx, hcx]
      · rw [ih hds, List.getLast?_cons_of_ne_nil hds]
    · simp

theorem ends_reorder_iff (h : IsStandalone x) (cs : List Nat) :
    ((reorder cs).head? = some x ↔ cs.head? = some x) ∧
      ((reorder cs).getLast? = some x ↔ cs.getLast? = some x) := by
  induction cs with
  | nil => exact ⟨Iff.rfl, Iff.rfl⟩
  | cons c cs ih =>
    have hc : reorder (c :: cs) = insertOrdered c (reorder cs) := rfl
    rw [hc]
    constructor
    · rw [head?_insertOrdered_iff h]
      simp
    · cases cs with
      | nil => simp [reorder, insertOrdered]
      | cons d ds =>
        have hne : reorder (d :: ds) ≠ [] := insertOrdered_ne_nil d (reorder ds)
        rw [getLast?_insertOrdered_iff h c hne, ih.2]
        simp

theorem head?_composeFrom_iff (h : IsStandalone x) (starter : Nat) (waiting cs : List Nat) :
    (composeFrom starter waiting cs).head? = some x ↔ starter = x := by
  induction cs generalizing starter waiting with
  | nil => simp [composeFrom]
  | cons c cs ih =>
    unfold composeFrom
    dsimp only
    split
    · next whole hw =>
      have hpair : composePair starter c = some whole := (Option.ite_none_left_eq_some.mp hw).2
      obtain ⟨hs, -, hwhole⟩ := ne_of_composePair h hpair
      rw [ih]
      exact iff_of_false hwhole.symm hs.symm
    · split
      · simp
      · exact ih starter (c :: waiting)

theorem composeFrom_ne_nil (starter : Nat) (waiting cs : List Nat) :
    composeFrom starter waiting cs ≠ [] := by
  induction cs generalizing starter waiting with
  | nil => simp [composeFrom]
  | cons c cs ih =>
    unfold composeFrom
    dsimp only
    split
    · exact ih _ _
    · split
      · simp
      · exact ih _ _

/-- Marks that wait are not `x`, so the text does not end in `x` where it ends in one of them. -/
theorem getLast?_composeFrom_iff (h : IsStandalone x) (starter : Nat) {waiting : List Nat}
    (hwaiting : x ∉ waiting) (cs : List Nat) :
    (composeFrom starter waiting cs).getLast? = some x ↔
      (starter :: (waiting.reverse ++ cs)).getLast? = some x := by
  induction cs generalizing starter waiting with
  | nil => simp [composeFrom]
  | cons c cs ih =>
    unfold composeFrom
    dsimp only
    split
    · next whole hw =>
      have hpair : composePair starter c = some whole := (Option.ite_none_left_eq_some.mp hw).2
      obtain ⟨-, hc, hwhole⟩ := ne_of_composePair h hpair
      rw [ih whole hwaiting]
      cases cs with
      | nil =>
        have hright : (starter :: (waiting.reverse ++ [c])).getLast? = some c := by
          rw [← List.cons_append, List.getLast?_append_of_ne_nil _ (by simp)]
          rfl
        rw [hright, Option.some_inj]
        refine iff_of_false (fun hlast => ?_) hc.symm
        have hmem := List.mem_of_getLast? hlast
        simp [hwhole, hwaiting] at hmem
      | cons d ds => simp [List.getLast?_cons, List.getLast?_append]
    · split
      · have hbehind (behind : List Nat) (hne : behind ≠ []) :
            (starter :: (waiting.reverse ++ behind)).getLast? = behind.getLast? :=
          List.getLast?_append_of_ne_nil (starter :: waiting.reverse) hne
        rw [hbehind _ (composeFrom_ne_nil c [] cs), ih c List.not_mem_nil, hbehind _ (by simp)]
        rfl
      · next hc =>
        have hmark : x ∉ c :: waiting := by simp [hwaiting, (h.ne_of_class hc).symm]
        rw [ih starter hmark]
        simp

/-- The composed form of a text begins with the code point when the text does, and ends in it when
the text does. -/
theorem ends_composed_iff (h : IsStandalone x) (cs : List Nat) :
    ((composed cs).head? = some x ↔ cs.head? = some x) ∧
      ((composed cs).getLast? = some x ↔ cs.getLast? = some x) := by
  have hd := ends_flatMap_decompose_iff h cs
  have hr := ends_reorder_iff h (cs.flatMap decompose)
  rw [← hd.1, ← hd.2, ← hr.1, ← hr.2]
  unfold composed
  cases reorder (cs.flatMap decompose) with
  | nil => exact ⟨Iff.rfl, Iff.rfl⟩
  | cons d ds =>
    constructor
    · simp [compose, head?_composeFrom_iff h]
    · exact getLast?_composeFrom_iff h d (by simp) ds

end Accounts.Text.Normal
