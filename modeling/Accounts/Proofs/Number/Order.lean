import Mathlib.Algebra.Order.Ring.Int
import Mathlib.Data.Int.ConditionallyCompleteOrder
import Mathlib.Order.ConditionallyCompleteLattice.Basic
import Accounts.Proofs.Number.Grid

/-!
The order of numbers. A number that is not undefined has a place: infinitely far down or up, or at a
multiple of the least positive double. Numbers compare as their places do, rounding moves places
monotonically, and the difference of two doubles is on the side of zero where it should be.
-/
namespace Accounts

open Double (leastExponent)

namespace Magnitude

/-! ## Places -/

/-- Defined, and if finite a multiple of the least positive double. -/
def IsOnGrid : Magnitude → Prop
  | .undefined => False
  | .infinite _ => True
  | .finite _ _ e => leastExponent ≤ e

/-- Where a number is, in multiples of the least positive double. -/
def place : Magnitude → WithBot (WithTop Int)
  | .undefined | .infinite true => ⊥
  | .infinite false => (⊤ : WithTop Int)
  | .finite s m e => (signed s (m * twoPow (e - leastExponent).toNat) : WithTop Int)

theorem signed_mul (s : Bool) (m k : Nat) : signed s (m * k) = signed s m * k := by
  cases s <;> simp [signed]

/-- A place is found from any power of two in between. -/
theorem signed_scaled (s : Bool) (m : Nat) {e g : Int} (hg : leastExponent ≤ g) (he : g ≤ e) :
    signed s (m * twoPow (e - leastExponent).toNat) =
      signed s (m * twoPow (e - g).toNat) * twoPow (g - leastExponent).toNat := by
  have hexp : (e - leastExponent).toNat = (e - g).toNat + (g - leastExponent).toNat := by omega
  rw [hexp, Double.twoPow_add, ← Nat.mul_assoc, signed_mul]

theorem place_align (s : Bool) (m : Nat) {e : Int} (t : Bool) (n : Nat) {f : Int}
    (he : leastExponent ≤ e) (hf : leastExponent ≤ f) :
    (finite s m e).place =
        (((align s m e t n f).1 * twoPow (min e f - leastExponent).toNat : Int) : WithTop Int) ∧
      (finite t n f).place =
        (((align s m e t n f).2 * twoPow (min e f - leastExponent).toNat : Int) : WithTop Int) := by
  have hg : leastExponent ≤ min e f := le_min he hf
  constructor
  · rw [place, signed_scaled s m hg (min_le_left e f)]
    rfl
  · rw [place, signed_scaled t n hg (min_le_right e f)]
    rfl

theorem coe_lt_top (n : Int) : ((n : WithTop Int) : WithBot (WithTop Int)) < ⊤ :=
  WithBot.coe_lt_coe.mpr (WithTop.coe_lt_top n)

theorem finite_lt_infinite (s : Bool) (m : Nat) (e : Int) (t : Bool) :
    (finite s m e).place < (infinite t).place ↔ t = false := by
  cases t with
  | false => exact iff_of_true (coe_lt_top _) rfl
  | true => exact iff_of_false not_lt_bot (by decide)

theorem infinite_lt_finite (s t : Bool) (n : Nat) (f : Int) :
    (infinite s).place < (finite t n f).place ↔ s = true := by
  cases s with
  | false => exact iff_of_false (coe_lt_top _).not_gt (by decide)
  | true => exact iff_of_true (WithBot.bot_lt_coe _) rfl

theorem infinite_lt_infinite (s : Bool) :
    (infinite s).place < (infinite !s).place ↔ s = true := by
  cases s with
  | false => exact iff_of_false not_lt_bot (by decide)
  | true => exact iff_of_true (WithBot.bot_lt_coe _) rfl

theorem lt_iff_place {a b : Magnitude} (ha : a.IsOnGrid) (hb : b.IsOnGrid) :
    a.lt b = true ↔ a.place < b.place := by
  match a, b with
  | .infinite s, .infinite t => cases s <;> cases t <;> simp [lt, place]
  | .infinite s, .finite t n f => rw [infinite_lt_finite, lt]
  | .finite s m e, .infinite t => rw [finite_lt_infinite, lt, Bool.not_eq_true']
  | .finite s m e, .finite t n f =>
    obtain ⟨hx, hy⟩ := place_align s m t n ha hb
    have hpos : (0 : Int) < twoPow (min e f - leastExponent).toNat := by
      exact_mod_cast Double.twoPow_pos _
    rw [hx, hy, WithBot.coe_lt_coe, WithTop.coe_lt_coe, mul_lt_mul_iff_left₀ hpos, lt,
      decide_eq_true_iff]

theorem eq_iff_place {a b : Magnitude} (ha : a.IsOnGrid) (hb : b.IsOnGrid) :
    a.eq b = true ↔ a.place = b.place := by
  match a, b with
  | .infinite s, .infinite t => cases s <;> cases t <;> simp [eq, place]
  | .infinite s, .finite t n f => cases s <;> simp [eq, place]
  | .finite s m e, .infinite t => cases t <;> simp [eq, place]
  | .finite s m e, .finite t n f =>
    obtain ⟨hx, hy⟩ := place_align s m t n ha hb
    have hpos : (0 : Int) < twoPow (min e f - leastExponent).toNat := by
      exact_mod_cast Double.twoPow_pos _
    rw [hx, hy, WithBot.coe_inj, WithTop.coe_inj, mul_left_inj' hpos.ne', eq, beq_iff_eq]

theorem le_iff_place {a b : Magnitude} (ha : a.IsOnGrid) (hb : b.IsOnGrid) :
    a.le b = true ↔ a.place ≤ b.place := by
  rw [le, Bool.or_eq_true, lt_iff_place ha hb, eq_iff_place ha hb, le_iff_lt_or_eq]

end Magnitude

/-! ## Doubles by their numbers -/

namespace Double

open Magnitude

/-- What a sign and the other bits stand for. -/
def decode (negative : Bool) (b : Nat) : Magnitude :=
  let exponent := b / fractionSize % 2048
  let fraction := b % fractionSize
  if exponent = infiniteExponent then if fraction = 0 then .infinite negative else .undefined
  else if exponent = 0 then .finite negative fraction leastExponent
  else .finite negative (fractionSize + fraction) (exponent - 1075)

theorem magnitude_eq (x : Double) : x.magnitude = decode x.isNegative x.bits.toNat := rfl

/-- The sign is not looked at. -/
theorem decode_mod (negative : Bool) (b : Nat) : decode negative (b % signBit) = decode negative b := by
  have hsign : signBit = 2 ^ 63 := rfl
  have hexponent : b % signBit / fractionSize % 2048 = b / fractionSize % 2048 := by
    simp only [hsign, fractionSize_eq]
    omega
  have hfraction : b % signBit % fractionSize = b % fractionSize := by
    simp only [hsign, fractionSize_eq]
    omega
  simp only [decode, hexponent, hfraction]

theorem decode_top (negative : Bool) : decode negative top = .infinite negative := by
  cases negative <;> decide

theorem decode_above {b : Nat} (negative : Bool) (hlow : top < b) (hhigh : b < signBit) :
    decode negative b = .undefined := by
  have hsign : signBit = 2 ^ 63 := rfl
  have hexponent : b / fractionSize % 2048 = infiniteExponent := by
    simp only [top, infiniteExponent, fractionSize_eq, hsign] at hlow hhigh ⊢
    omega
  have hfraction : b % fractionSize ≠ 0 := by
    simp only [top, infiniteExponent, fractionSize_eq, hsign] at hlow hhigh ⊢
    omega
  simp only [decode, hexponent, hfraction, if_true, if_false]

/-- Below the infinite double all are finite, and their places are those of the grid. -/
theorem decode_below {b : Nat} (negative : Bool) (h : b < top) :
    ∃ m e, decode negative b = .finite negative m e ∧ leastExponent ≤ e ∧
      m * twoPow (e - leastExponent).toNat = units b := by
  have hlt : b / fractionSize < infiniteExponent := Nat.div_lt_of_lt_mul (by rwa [Nat.mul_comm])
  have hmod : b / fractionSize % 2048 = b / fractionSize :=
    Nat.mod_eq_of_lt (hlt.trans (by decide))
  simp only [decode, hmod, hlt.ne, if_false]
  by_cases hzero : b / fractionSize = 0
  · have hsmall : b % fractionSize = b := by
      rw [Nat.mod_eq_of_lt]
      exact (Nat.div_eq_zero_iff_lt (twoPow_pos 52)).mp hzero
    refine ⟨b % fractionSize, leastExponent, by rw [if_pos hzero], le_rfl, ?_⟩
    rw [units, if_pos hzero, hsmall]
    simp [twoPow]
  · refine ⟨fractionSize + b % fractionSize, (b / fractionSize : Nat) - 1075, by rw [if_neg hzero],
      ?_, ?_⟩
    · simp only [leastExponent]
      omega
    · have hexp : ((b / fractionSize : Nat) - 1075 - leastExponent).toNat =
          b / fractionSize - 1 := by
        simp only [leastExponent]
        omega
      rw [units, if_neg hzero, hexp]

theorem magnitude_withSign (negative : Bool) {b : Nat} (h : b < signBit) :
    (withSign negative b).magnitude = decode negative b := by
  have hsign : signBit = 2 ^ 63 := rfl
  have hbits : (withSign negative b).bits.toNat = if negative then signBit + b else b := by
    rw [withSign, UInt64.toNat_ofNat', Nat.mod_eq_of_lt]
    rw [hsign] at h ⊢
    split <;> omega
  have hnegative : (withSign negative b).isNegative = negative := by
    rw [isNegative, hbits]
    cases negative
    · exact Bool.eq_false_iff.mpr fun hle => absurd (Nat.ble_eq.mp hle) (Nat.not_le.mpr h)
    · exact Nat.ble_eq.mpr (Nat.le_add_right _ _)
  have hmod : (if negative then signBit + b else b) % signBit = b % signBit := by
    split <;> simp
  rw [magnitude_eq, hnegative, hbits, ← decode_mod, hmod, decode_mod]

theorem magnitude_infinity (negative : Bool) : (infinity negative).magnitude = .infinite negative :=
  (magnitude_withSign negative (by decide)).trans (decode_top negative)

/-- A double is not a number, or infinite, or the one of some number with a sign. -/
theorem magnitude_cases (x : Double) : x.magnitude = .undefined ∨
    (∃ s, x.magnitude = .infinite s) ∨ ∃ s b, b < top ∧ x.magnitude = decode s b := by
  have hmod : x.bits.toNat % signBit < signBit := Nat.mod_lt _ (twoPow_pos 63)
  have hx : x.magnitude = decode x.isNegative (x.bits.toNat % signBit) :=
    (decode_mod _ _).symm
  rw [hx]
  rcases lt_trichotomy (x.bits.toNat % signBit) top with hlt | heq | hgt
  · exact .inr (.inr ⟨_, _, hlt, rfl⟩)
  · rw [heq]
    exact .inr (.inl ⟨_, decode_top _⟩)
  · exact .inl (decode_above _ hgt hmod)

theorem isOnGrid_of_ne {x : Double} (h : x.magnitude ≠ .undefined) : x.magnitude.IsOnGrid := by
  rcases magnitude_cases x with hx | ⟨s, hx⟩ | ⟨s, b, hb, hx⟩
  · exact absurd hx h
  · rw [hx]
    trivial
  · obtain ⟨m, e, hdecode, he, -⟩ := decode_below s hb
    rw [hx, hdecode]
    exact he

theorem leastExponent_le {x : Double} {s : Bool} {m : Nat} {e : Int}
    (hx : x.magnitude = .finite s m e) : leastExponent ≤ e := by
  have hgrid := isOnGrid_of_ne (x := x) (by simp [hx])
  rwa [hx] at hgrid

/-! ## Rounding -/

/-- The place of the nearest double, were there no largest. -/
def rounded (n : Int) : Int := signed (n < 0) (units (index n.natAbs))

theorem rounded_signed (s : Bool) (n : Nat) :
    rounded (signed s n) = signed s (units (index n)) := by
  by_cases hn : n = 0
  · subst hn
    cases s <;> rfl
  · cases s <;> simp [rounded, signed, hn]

theorem rounded_mono : Monotone rounded := by
  have hmono {m n : Nat} (h : m ≤ n) : units (index m) ≤ units (index n) :=
    units_mono (index_mono h)
  intro a b h
  by_cases ha : a < 0
  · by_cases hb : b < 0
    · have habs := hmono (show b.natAbs ≤ a.natAbs by omega)
      simp only [rounded, signed, ha, hb, decide_true, if_true]
      omega
    · simp only [rounded, signed, ha, hb, decide_true, decide_false, Bool.false_eq_true, if_true,
        if_false]
      omega
  · have hb : ¬b < 0 := by omega
    have habs := hmono (show a.natAbs ≤ b.natAbs by omega)
    simp only [rounded, signed, ha, hb, decide_false, Bool.false_eq_true, if_false]
    omega

/-- Rounding moves places; what is infinite stays. -/
def settle : WithBot (WithTop Int) → WithBot (WithTop Int) := WithBot.map (WithTop.map rounded)

theorem settle_mono : Monotone settle := rounded_mono.withTop_map.withBot_map

/-- A double stays where it is. -/
theorem settle_place {x : Double} : settle x.magnitude.place = x.magnitude.place := by
  rcases magnitude_cases x with hx | ⟨s, hx⟩ | ⟨s, b, hb, hx⟩
  · rw [hx]
    rfl
  · rw [hx]
    cases s <;> rfl
  · obtain ⟨m, e, hdecode, -, hunits⟩ := decode_below s hb
    have hfixed : rounded (signed s (units b)) = signed s (units b) := by
      rw [rounded_signed, index_units]
    rw [hx, hdecode, place, hunits]
    exact congrArg _ (congrArg _ hfixed)

/-- What is rounded is infinite or has the place of the nearest double. -/
theorem round_cases (s : Bool) (m i : Nat) :
    (top ≤ index (m * twoPow i) ∧ (round s m (leastExponent + i)).magnitude = .infinite s) ∨
      (index (m * twoPow i) < top ∧ ∃ n e,
        (round s m (leastExponent + i)).magnitude = .finite s n e ∧ leastExponent ≤ e ∧
        n * twoPow (e - leastExponent).toNat = units (index (m * twoPow i))) := by
  have htop : top < signBit := by decide
  rw [round, nearest_eq, magnitude_withSign s (lt_of_le_of_lt (min_le_right _ _) htop)]
  rcases Nat.lt_or_ge (index (m * twoPow i)) top with hlt | hge
  · rw [min_eq_left hlt.le]
    exact .inr ⟨hlt, decode_below s hlt⟩
  · rw [min_eq_right hge]
    exact .inl ⟨hge, decode_top s⟩

/-- A whole number becomes a double when the nearest one is not infinite. -/
theorem ofInt?_isSome_iff (n : Int) :
    (ofInt? n).isSome = true ↔ index (n.natAbs * twoPow 1074) < top := by
  have hzero : (0 : Int) = leastExponent + (1074 : Nat) := rfl
  have hcases := round_cases (n < 0) n.natAbs 1074
  rw [← hzero] at hcases
  unfold ofInt?
  rcases hcases with ⟨hge, hinf⟩ | ⟨hlt, m, e, hfin, -⟩
  · simp [hinf, hge]
  · simp [hfin, hlt]

theorem finite_of_ofInt? {n : Int} {x : Double} (h : ofInt? n = some x) :
    ∃ s m e, x.magnitude = .finite s m e := by
  unfold ofInt? at h
  dsimp only at h
  split at h
  · next s m e hfin =>
    cases h
    exact ⟨s, m, e, hfin⟩
  · cases h

/-- A whole number becomes the nearest double, if it becomes one. -/
theorem place_of_ofInt? {n : Int} {x : Double} (h : ofInt? n = some x) :
    x.magnitude ≠ .undefined ∧ x.magnitude.place = settle (Magnitude.ofInt n).place := by
  have hzero : (0 : Int) = leastExponent + (1074 : Nat) := rfl
  have hcases := round_cases (n < 0) n.natAbs 1074
  rw [← hzero] at hcases
  unfold ofInt? at h
  rcases hcases with ⟨-, hinf⟩ | ⟨-, m, e, hfin, -, hunits⟩
  · simp [hinf] at h
  · simp only [hfin, Option.some.injEq] at h
    subst h
    have hexp : (0 - leastExponent).toNat = 1074 := rfl
    rw [hfin, Magnitude.ofInt, place, place, hunits, hexp]
    exact ⟨by simp, congrArg _ (congrArg _ (rounded_signed _ _).symm)⟩

/-! ## Differences -/

theorem magnitude_neg {x : Double} (h : x.magnitude ≠ .undefined) :
    x.neg.magnitude = match x.magnitude with
      | .undefined => .undefined
      | .infinite s => .infinite !s
      | .finite s m e => .finite (!s) m e := by
  have hmod : x.bits.toNat % signBit < signBit := Nat.mod_lt _ (twoPow_pos 63)
  have hneg : x.neg = withSign (!x.isNegative) (x.bits.toNat % signBit) := by
    unfold neg
    split
    · next hx => exact absurd hx h
    · rfl
  rw [hneg, magnitude_withSign _ hmod, decode_mod, magnitude_eq, decode, decode]
  split_ifs <;> rfl

theorem magnitude_neg_undefined {x : Double} (h : x.magnitude = .undefined) :
    x.neg.magnitude = .undefined := by
  rw [neg, h]
  exact h

theorem signed_not (s : Bool) (m : Nat) : signed (!s) m = -signed s m := by
  cases s <;> simp [signed]

theorem align_not (s : Bool) (m : Nat) (e : Int) (t : Bool) (n : Nat) (f : Int) :
    align s m e (!t) n f = ((align s m e t n f).1, -(align s m e t n f).2) := by
  simp only [align, signed_not]

theorem units_index_pos {n : Nat} (h : 0 < n) : 0 < units (index n) := by
  have hone : units (index 1) = 1 := rfl
  have hle : units (index 1) ≤ units (index n) := units_mono (index_mono h)
  omega

theorem place_zero : zero.magnitude.place = ((0 : Int) : WithTop Int) := rfl

theorem zero_lt_infinite (s : Bool) :
    zero.magnitude.place < (infinite s).place ↔ s = false := finite_lt_infinite false 0 _ s

/-- A sum that is rounded is a number on its own side of zero. -/
theorem place_round_pos_iff {sum : Int} (i : Nat) (hsum : sum ≠ 0) :
    (round (sum < 0) sum.natAbs (leastExponent + i)).magnitude ≠ .undefined ∧
      (zero.magnitude.place < (round (sum < 0) sum.natAbs (leastExponent + i)).magnitude.place ↔
        0 < sum) := by
  rcases round_cases (sum < 0) sum.natAbs i with ⟨-, hinf⟩ | ⟨-, m, e, hfin, -, hunits⟩
  · rw [hinf, zero_lt_infinite, decide_eq_false_iff_not]
    exact ⟨by simp, by omega⟩
  · have hpos := units_index_pos (Nat.mul_pos (Int.natAbs_pos.mpr hsum) (twoPow_pos i))
    rw [hfin]
    refine ⟨by simp, ?_⟩
    rw [place_zero, place, hunits, WithBot.coe_lt_coe, WithTop.coe_lt_coe]
    by_cases hneg : sum < 0
    · simp only [hneg, decide_true, signed, if_true]
      omega
    · simp only [hneg, decide_false, signed, Bool.false_eq_true, if_false]
      omega

/-- The difference of two finite doubles is a number. -/
theorem sub_finite {x y : Double} {s t : Bool} {m n : Nat} {e f : Int}
    (hx : x.magnitude = .finite s m e) (hy : y.magnitude = .finite t n f) :
    (x.sub y).magnitude ≠ .undefined ∧
      (zero.magnitude.place < (x.sub y).magnitude.place ↔
        y.magnitude.place < x.magnitude.place) := by
  have he := leastExponent_le hx
  have hf := leastExponent_le hy
  obtain ⟨i, hi⟩ := Int.le.dest (le_min he hf)
  have hneg : y.neg.magnitude = .finite (!t) n f := by
    rw [magnitude_neg (by simp [hy]), hy]
  have hplaces : y.magnitude.place < x.magnitude.place ↔
      0 < (align s m e t n f).1 + -(align s m e t n f).2 := by
    obtain ⟨hxp, hyp⟩ := place_align s m t n he hf
    have hpos : (0 : Int) < twoPow (min e f - leastExponent).toNat := by
      exact_mod_cast twoPow_pos _
    rw [hx, hy, hxp, hyp, WithBot.coe_lt_coe, WithTop.coe_lt_coe, mul_lt_mul_iff_left₀ hpos]
    omega
  simp only [sub, add, hx, hneg, align_not, ← hi]
  rw [← hx, hplaces]
  split
  · next hsum =>
    have hmag : (withSign (s && !t) 0).magnitude = .finite (s && !t) 0 leastExponent :=
      magnitude_withSign _ (twoPow_pos 63)
    have hplace : (finite (s && !t) 0 leastExponent).place = ((0 : Int) : WithTop Int) := by
      cases s && !t <;> rfl
    rw [hmag, hplace, hsum, place_zero]
    exact ⟨by simp, by simp⟩
  · next hsum => exact place_round_pos_iff i hsum

theorem magnitude_nan : nan.magnitude = .undefined := by decide

/-- What comes of a difference that is not one of two finite doubles. -/
theorem sub_infinite {x y : Double} {s t : Bool} (hx : x.magnitude = .infinite s)
    (hy : y.magnitude = .infinite t) : x.sub y = if s = !t then infinity s else nan := by
  simp [sub, add, hx, magnitude_neg, hy]

theorem sub_infinite_finite {x y : Double} {s t : Bool} {n : Nat} {f : Int}
    (hx : x.magnitude = .infinite s) (hy : y.magnitude = .finite t n f) :
    x.sub y = infinity s := by
  simp [sub, add, hx, magnitude_neg, hy]

theorem sub_finite_infinite {x y : Double} {s t : Bool} {m : Nat} {e : Int}
    (hx : x.magnitude = .finite s m e) (hy : y.magnitude = .infinite t) :
    x.sub y = infinity !t := by
  simp [sub, add, hx, magnitude_neg, hy]

theorem sub_undefined {x y : Double} (h : x.magnitude = .undefined ∨ y.magnitude = .undefined) :
    x.sub y = nan := by
  rcases h with hx | hy
  · simp [sub, add, hx]
  · rw [sub, add, magnitude_neg_undefined hy]
    cases x.magnitude <;> rfl

/-- The difference of two doubles is not a number exactly when one of them is none, or both are the
same infinity. -/
theorem magnitude_sub_undefined_iff (x y : Double) : (x.sub y).magnitude = .undefined ↔
    x.magnitude = .undefined ∨ y.magnitude = .undefined ∨
      ∃ s, x.magnitude = .infinite s ∧ y.magnitude = .infinite s := by
  cases hx : x.magnitude with
  | undefined => simp [sub_undefined (.inl hx), magnitude_nan]
  | infinite s =>
    cases hy : y.magnitude with
    | undefined => simp [sub_undefined (.inr hy), magnitude_nan]
    | infinite t =>
      rw [sub_infinite hx hy]
      cases s <;> cases t <;> simp [magnitude_infinity, magnitude_nan]
    | finite t n f => simp [sub_infinite_finite hx hy, magnitude_infinity]
  | finite s m e =>
    cases hy : y.magnitude with
    | undefined => simp [sub_undefined (.inr hy), magnitude_nan]
    | infinite t => simp [sub_finite_infinite hx hy, magnitude_infinity]
    | finite t n f => simp [(sub_finite hx hy).1]

/-- Otherwise it is above zero exactly when the first comes after the second. -/
theorem place_sub_pos_iff {x y : Double} (h : (x.sub y).magnitude ≠ .undefined) :
    zero.magnitude.place < (x.sub y).magnitude.place ↔ y.magnitude.place < x.magnitude.place := by
  rw [ne_eq, magnitude_sub_undefined_iff, not_or, not_or] at h
  obtain ⟨hxu, hyu, hsame⟩ := h
  cases hx : x.magnitude with
  | undefined => exact absurd hx hxu
  | infinite s =>
    cases hy : y.magnitude with
    | undefined => exact absurd hy hyu
    | infinite t =>
      have hne : s = !t := by
        by_contra heq
        have hst : s = t := by simpa using heq
        exact hsame ⟨s, hx, hst ▸ hy⟩
      rw [sub_infinite hx hy, if_pos hne, magnitude_infinity, hne, zero_lt_infinite,
        infinite_lt_infinite, Bool.not_eq_false']
    | finite t n f =>
      rw [sub_infinite_finite hx hy, magnitude_infinity, zero_lt_infinite, finite_lt_infinite]
  | finite s m e =>
    cases hy : y.magnitude with
    | undefined => exact absurd hy hyu
    | infinite t =>
      rw [sub_finite_infinite hx hy, magnitude_infinity, zero_lt_infinite, infinite_lt_finite,
        Bool.not_eq_false']
    | finite t n f =>
      rw [← hx, ← hy]
      exact (sub_finite hx hy).2

end Double

end Accounts
