import Mathlib.Data.List.TakeDrop
import Mathlib.Data.List.TakeWhile
import Accounts.Label.Punycode

/-!
Punycode read back. The digits of a number end where the number does, the distances tell the
placements, which come in order, and the placements bring back the text. So what a text is encoded
as is decoded to it again, and no two texts have the same encoded form.
-/
namespace Accounts.Label.Punycode

/-! ## Characters -/

/-- A letter, a decimal digit or a hyphen. -/
def isPlain (c : Char) : Bool := c.isAlphanum || c == '-'

theorem isPlain_digitChar {d : Nat} (h : d < 36) : isPlain (digitChar d) = true := by
  have all : ∀ e < 36, isPlain (digitChar e) = true := by decide
  exact all d h

theorem digitChar_ne_hyphen {d : Nat} (h : d < 36) : digitChar d ≠ '-' := by
  have all : ∀ e < 36, digitChar e ≠ '-' := by decide
  exact all d h

/-- Every digit but the last is between its threshold and the base. -/
theorem threshold_add_mod_lt (k bias q : Nat) :
    threshold k bias + q % (36 - threshold k bias) < 36 := by
  have hhigh := threshold_le k bias
  have hmod : q % (36 - threshold k bias) < 36 - threshold k bias := Nat.mod_lt _ (by omega)
  omega

theorem exists_digitChar_of_mem_digits {bias k q : Nat} {c : Char} (h : c ∈ digits bias k q) :
    ∃ d < 36, c = digitChar d := by
  have hhigh := threshold_le
  induction k, q using digits.induct bias with
  | case1 k q t ht =>
    rw [digits, if_pos ht] at h
    have ht26 := hhigh k bias
    exact ⟨q, by omega, List.mem_singleton.mp h⟩
  | case2 k q t ht ih =>
    rw [digits, if_neg ht] at h
    rcases List.mem_cons.mp h with hc | h
    · exact ⟨_, threshold_add_mod_lt k bias _, hc⟩
    · exact ih h

theorem exists_digitChar_of_mem_allDigits {length bias : Nat} {first : Bool} {ds : List Nat}
    {c : Char} (h : c ∈ allDigits length bias first ds) : ∃ d < 36, c = digitChar d := by
  induction ds generalizing length bias first with
  | nil => cases h
  | cons d ds ih =>
    rcases List.mem_append.mp h with h | h
    · exact exists_digitChar_of_mem_digits h
    · exact ih h

theorem isPlain_of_mem_tail {text : List Nat} {c : Char} (h : c ∈ tail text) :
    isPlain c = true := by
  obtain ⟨d, hd, rfl⟩ := exists_digitChar_of_mem_allDigits h
  exact isPlain_digitChar hd

theorem hyphen_notMem_tail (text : List Nat) : '-' ∉ tail text := by
  intro h
  obtain ⟨d, hd, hc⟩ := exists_digitChar_of_mem_allDigits h
  exact digitChar_ne_hyphen hd hc.symm

/-- Punycode adds letters, digits and hyphens to the ASCII code points of a text. -/
theorem isPlain_or_of_mem_encode {text : List Nat} {c : Char} (h : c ∈ encode text) :
    isPlain c = true ∨ ∃ n ∈ text, n < basicLimit ∧ c = Char.ofNat n := by
  unfold encode at h
  split at h
  · exact .inl (isPlain_of_mem_tail h)
  · next bs hbs =>
    rcases List.mem_append.mp h with h | h
    · obtain ⟨n, hn, rfl⟩ := List.mem_map.mp h
      have hb := List.mem_filter.mp hn
      exact .inr ⟨n, hb.1, of_decide_eq_true hb.2, rfl⟩
    · rcases List.mem_cons.mp h with rfl | h
      · exact .inl rfl
      · exact .inl (isPlain_of_mem_tail h)

/-! ## Numbers -/

/-- Between two numbers nothing of the next one has been read. -/
structure Progress.IsSettled (p : Progress) : Prop where
  value : p.value = 0
  weight : p.weight = 1
  k : p.k = 36

/-- What has been read of a number has no part in putting its code point in. -/
theorem Progress.insert_with (p : Progress) (value weight k delta : Nat) :
    { p with value := value, weight := weight, k := k }.insert delta = p.insert delta := rfl

theorem Progress.read_digitChar (p : Progress) {d : Nat} (h : d < 36) :
    p.read (digitChar d) =
      if d < threshold p.k p.bias then p.insert (p.value + d * p.weight)
      else
        some { p with
          value := p.value + d * p.weight
          weight := p.weight * (36 - threshold p.k p.bias)
          k := p.k + 36 } := by
  rw [Progress.read, digitValue_digitChar h]

/-- The digits of a number are read as the number: it counts for as much as the weight says, and is
added to what the digits before have come to. -/
theorem foldlM_digits (bias k q : Nat) : ∀ p : Progress, p.bias = bias → p.k = k →
    (digits bias k q).foldlM Progress.read p = p.insert (p.value + q * p.weight) := by
  induction k, q using digits.induct bias with
  | case1 k q t ht =>
    rintro p rfl rfl
    have hlow : q < threshold p.k p.bias := ht
    have hhigh := threshold_le p.k p.bias
    rw [digits, if_pos ht, List.foldlM_cons, p.read_digitChar (by omega), if_pos hlow]
    cases p.insert (p.value + q * p.weight) <;> rfl
  | case2 k q t ht ih =>
    intro p hb hk
    -- The first digit is the remainder, moved up by the threshold; the rest is the quotient.
    have hthreshold : threshold p.k p.bias = t := by rw [hk, hb]
    have hmore : ¬t + (q - t) % (36 - t) < t := Nat.not_lt.mpr (Nat.le_add_right t _)
    have hdiv := Nat.mod_add_div (q - t) (36 - t)
    have hq : t + (q - t) % (36 - t) + (q - t) / (36 - t) * (36 - t) = q := by
      rw [Nat.mul_comm ((q - t) / (36 - t))]
      omega
    rw [digits, if_neg ht, List.foldlM_cons,
      p.read_digitChar (threshold_add_mod_lt k bias (q - t)), hthreshold, if_neg hmore]
    have hrest := ih { p with
      value := p.value + (t + (q - t) % (36 - t)) * p.weight
      weight := p.weight * (36 - t)
      k := p.k + 36 } hb (congrArg (· + 36) hk)
    refine hrest.trans ?_
    rw [Progress.insert_with]
    congr 1
    calc p.value + (t + (q - t) % (36 - t)) * p.weight + (q - t) / (36 - t) * (p.weight * (36 - t))
        = p.value + (t + (q - t) % (36 - t) + (q - t) / (36 - t) * (36 - t)) * p.weight := by
          rw [Nat.add_mul _ ((q - t) / (36 - t) * (36 - t)), Nat.add_assoc, Nat.mul_comm p.weight,
            Nat.mul_assoc]
      _ = p.value + q * p.weight := by rw [hq]

/-- What has changed once a code point is put in. -/
theorem Progress.insert_eq_some {p p' : Progress} {delta : Nat} (h : p.insert delta = some p') :
    p'.out.length = p.out.length + 1 ∧ p'.bias = adapt delta p.first (p.out.length + 1) ∧
      p'.first = false ∧ p'.IsSettled := by
  unfold Progress.insert at h
  dsimp only at h
  split at h
  · cases h
    refine ⟨?_, rfl, rfl, rfl, rfl, rfl⟩
    exact List.length_insertIdx_of_le_length
      (Nat.le_of_lt_succ (Nat.mod_lt _ (Nat.succ_pos _))) _
  · cases h

theorem Progress.IsSettled.foldlM {p p' : Progress} (hp : p.IsSettled) {ds : List Nat}
    (h : ds.foldlM Progress.insert p = some p') : p'.IsSettled := by
  induction ds generalizing p with
  | nil =>
    cases h
    exact hp
  | cons d ds ih =>
    rw [List.foldlM_cons] at h
    obtain ⟨q, hq, h⟩ := Option.bind_eq_some_iff.mp h
    exact ih (Progress.insert_eq_some hq).2.2.2 h

/-- The digits of numbers one after another are read as the numbers. -/
theorem foldlM_allDigits {p : Progress} (hp : p.IsSettled) (ds : List Nat) :
    (allDigits p.out.length p.bias p.first ds).foldlM Progress.read p =
      ds.foldlM Progress.insert p := by
  induction ds generalizing p with
  | nil => rfl
  | cons d ds ih =>
    have hdigits : (digits p.bias 36 d).foldlM Progress.read p = p.insert d := by
      rw [foldlM_digits p.bias 36 d p rfl hp.k, hp.value, hp.weight, Nat.zero_add, Nat.mul_one]
    rw [allDigits, List.foldlM_append, hdigits, List.foldlM_cons]
    cases hinsert : p.insert d with
    | none => rfl
    | some p' =>
      obtain ⟨hlength, hbias, hfirst, hsettled⟩ := Progress.insert_eq_some hinsert
      have hrest := ih hsettled
      rw [hlength, hbias, hfirst] at hrest
      exact hrest

/-! ## Distances -/

/-- Reading the distances of placements completes the text. -/
def Progress.Completes (p : Progress) (placements : List (Nat × Nat)) (text : List Nat) : Prop :=
  ∃ p', (distances p.out.length p.codePoint p.place placements).foldlM Progress.insert p = some p' ∧
    p'.out = text

/-- A placement that is not before the last one is found from its distance. -/
theorem Progress.insert_distance {p : Progress} {m i : Nat}
    (horder : p.codePoint < m ∨ p.codePoint = m ∧ p.place ≤ i) (hplace : p.place ≤ p.out.length)
    (hi : i ≤ p.out.length) (hm : m ≤ 0x10FFFF) :
    ∃ p', p.insert ((m - p.codePoint) * (p.out.length + 1) + i - p.place) = some p' ∧
      p'.out = p.out.insertIdx i m ∧ p'.codePoint = m ∧ p'.place = i + 1 := by
  have hreached : p.place + ((m - p.codePoint) * (p.out.length + 1) + i - p.place) =
      i + (p.out.length + 1) * (m - p.codePoint) := by
    have hle : p.place ≤ (m - p.codePoint) * (p.out.length + 1) + i := by
      rcases horder with hlt | ⟨rfl, hle⟩
      · have hone : 1 * (p.out.length + 1) ≤ (m - p.codePoint) * (p.out.length + 1) :=
          Nat.mul_le_mul_right _ (by omega)
        omega
      · omega
    rw [Nat.add_sub_cancel' hle, Nat.mul_comm, Nat.add_comm]
  have hmod : (i + (p.out.length + 1) * (m - p.codePoint)) % (p.out.length + 1) = i := by
    rw [Nat.add_mul_mod_self_left, Nat.mod_eq_of_lt (Nat.lt_succ_of_le hi)]
  have hdiv : p.codePoint + (i + (p.out.length + 1) * (m - p.codePoint)) / (p.out.length + 1) =
      m := by
    rw [Nat.add_mul_div_left _ _ (Nat.succ_pos _), Nat.div_eq_of_lt (Nat.lt_succ_of_le hi)]
    omega
  unfold Progress.insert
  dsimp only
  rw [hreached, hmod, hdiv, if_pos hm]
  exact ⟨_, rfl, rfl, rfl, rfl⟩

theorem Progress.Completes.cons {p : Progress} {m i : Nat} {rest : List (Nat × Nat)}
    {text : List Nat} (horder : p.codePoint < m ∨ p.codePoint = m ∧ p.place ≤ i)
    (hplace : p.place ≤ p.out.length) (hi : i ≤ p.out.length) (hm : m ≤ 0x10FFFF)
    (hrest : ∀ p' : Progress, p'.out = p.out.insertIdx i m → p'.codePoint = m → p'.place = i + 1 →
      p'.Completes rest text) :
    p.Completes ((m, i) :: rest) text := by
  obtain ⟨p', hinsert, hout, hcode, hp⟩ := Progress.insert_distance horder hplace hi hm
  obtain ⟨q, hq, htext⟩ := hrest p' hout hcode hp
  rw [hout, List.length_insertIdx_of_le_length hi, hcode, hp] at hq
  refine ⟨q, ?_, htext⟩
  rw [distances, List.foldlM_cons, hinsert]
  exact hq

/-! ## Placements -/

theorem filter_below_cons {n c : Nat} (h : c < n) (cs : List Nat) :
    (c :: cs).filter (· < n) = c :: cs.filter (· < n) :=
  List.filter_cons_of_pos (decide_eq_true h)

theorem filter_below_skip {n c : Nat} (h : n ≤ c) (cs : List Nat) :
    (c :: cs).filter (· < n) = cs.filter (· < n) :=
  List.filter_cons_of_neg (by simpa using h)

/-- The occurrences of `m` are put in from left to right. What is left of them is in place already,
and so is all that is below `m`. -/
theorem Progress.completes_places {p : Progress} {m : Nat} (before : List Nat) {cs : List Nat}
    {rest : List (Nat × Nat)} {text : List Nat} (hout : p.out = before ++ cs.filter (· < m))
    (horder : p.codePoint < m ∨ p.codePoint = m ∧ p.place ≤ before.length)
    (hplace : p.place ≤ p.out.length) (hm : m ≤ 0x10FFFF)
    (hrest : ∀ p' : Progress, p'.out = before ++ cs.filter (· < m + 1) → p'.codePoint ≤ m →
      p'.place ≤ p'.out.length → p'.Completes rest text) :
    p.Completes ((places m before.length cs).map (m, ·) ++ rest) text := by
  induction cs generalizing p before with
  | nil => exact hrest p hout (by omega) hplace
  | cons c cs ih =>
    have hlength : (before ++ [c]).length = before.length + 1 := by simp
    rcases Nat.lt_trichotomy c m with hc | rfl | hc
    -- `c` is in place already.
    · have hnext : c < m + 1 := by omega
      rw [places, if_pos hc, ← hlength]
      refine ih (before ++ [c]) ?_ ?_ hplace ?_
      · rw [hout, filter_below_cons hc, List.append_assoc, List.singleton_append]
      · omega
      · intro p' hout'
        refine hrest p' ?_
        rw [hout', filter_below_cons hnext, List.append_assoc, List.singleton_append]
    -- `c` is put in, between what precedes it and what is in place of the rest.
    · rw [places, if_neg (Nat.lt_irrefl c), if_pos rfl, List.map_cons, List.cons_append]
      rw [filter_below_skip (Nat.le_refl c)] at hout
      have hi : before.length ≤ p.out.length := by simp [hout]
      refine Progress.Completes.cons horder hplace hi hm ?_
      intro p' hout' hcode hp
      have hinserted : p'.out = (before ++ [c]) ++ cs.filter (· < c) := by
        rw [hout', hout, List.append_assoc]
        exact List.modifyTailIdx_add (List.cons c) 0 before _
      rw [← hlength]
      refine ih (before ++ [c]) hinserted (.inr ⟨hcode, by omega⟩) ?_ ?_
      · rw [hp, hinserted]
        simp
      · intro q hq
        refine hrest q ?_
        rw [hq, filter_below_cons (Nat.lt_add_one c), List.append_assoc, List.singleton_append]
    -- The turn of `c` comes later.
    · rw [places, if_neg (Nat.lt_asymm hc), if_neg (Nat.ne_of_gt hc)]
      refine ih before ?_ horder hplace ?_
      · rw [hout, filter_below_skip (Nat.le_of_lt hc)]
      · intro p' hout'
        refine hrest p' ?_
        rw [hout', filter_below_skip hc]

/-- One code point after another is put in, in ascending order. Everything below `n` is in place
already. -/
theorem Progress.completes_from {p : Progress} {n : Nat} {text ms : List Nat}
    (hascending : ms.Pairwise (· < ·)) (hms : ∀ m ∈ ms, n ≤ m ∧ m ≤ 0x10FFFF)
    (hall : ∀ c ∈ text, n ≤ c → c ∈ ms) (hout : p.out = text.filter (· < n))
    (horder : p.codePoint < n ∨ p.codePoint = n ∧ p.place = 0)
    (hplace : p.place ≤ p.out.length) :
    p.Completes (ms.flatMap fun m => (places m 0 text).map (m, ·)) text := by
  induction ms generalizing n p with
  | nil =>
    refine ⟨p, rfl, ?_⟩
    rw [hout, List.filter_eq_self]
    intro c hc
    have hlow : ¬n ≤ c := fun hn => List.not_mem_nil (hall c hc hn)
    exact decide_eq_true (Nat.lt_of_not_le hlow)
  | cons m ms ih =>
    obtain ⟨hbelow, habove⟩ := List.pairwise_cons.mp hascending
    obtain ⟨hn, hm⟩ := hms m List.mem_cons_self
    -- Nothing of the text lies between `n` and `m`.
    have hgap : ∀ c ∈ text, c < n ↔ c < m := by
      intro c hc
      refine ⟨fun h => Nat.lt_of_lt_of_le h hn, fun h => Nat.lt_of_not_le fun hnc => ?_⟩
      rcases List.mem_cons.mp (hall c hc hnc) with rfl | hcs
      · exact Nat.lt_irrefl c h
      · exact Nat.lt_asymm h (hbelow c hcs)
    rw [List.flatMap_cons]
    refine Progress.completes_places [] ?_ ?_ hplace hm ?_
    · rw [hout, List.nil_append]
      exact List.filter_congr fun c hc => decide_eq_decide.mpr (hgap c hc)
    · rcases horder with hlt | ⟨heq, hzero⟩
      · exact .inl (by omega)
      · rcases Nat.lt_or_eq_of_le hn with hlt | rfl
        · exact .inl (by omega)
        · exact .inr ⟨heq, by omega⟩
    · intro p' hout' hcode hplace'
      refine ih habove ?_ ?_ hout' (.inl (Nat.lt_succ_of_le hcode)) hplace'
      · exact fun m' hm' => ⟨hbelow m' hm', (hms m' (List.mem_cons_of_mem _ hm')).2⟩
      · intro c hc hmc
        rcases List.mem_cons.mp (hall c hc (by omega)) with rfl | hcs
        · exact absurd hmc (Nat.not_succ_le_self c)
        · exact hcs

theorem mem_insertAscending {c d : Nat} {ds : List Nat} :
    d ∈ insertAscending c ds ↔ d = c ∨ d ∈ ds := by
  induction ds with
  | nil => simp [insertAscending]
  | cons e ds ih =>
    unfold insertAscending
    split
    · simp
    · split
      · next heq => simp [heq]
      · simp only [List.mem_cons, ih]
        exact or_left_comm

theorem pairwise_insertAscending {c : Nat} {ds : List Nat} (h : ds.Pairwise (· < ·)) :
    (insertAscending c ds).Pairwise (· < ·) := by
  induction ds with
  | nil => simp [insertAscending]
  | cons d ds ih =>
    obtain ⟨hd, hds⟩ := List.pairwise_cons.mp h
    unfold insertAscending
    split
    · next hlt =>
      refine List.pairwise_cons.mpr ⟨?_, h⟩
      intro e he
      rcases List.mem_cons.mp he with rfl | he
      · exact hlt
      · exact Nat.lt_trans hlt (hd e he)
    · split
      · exact h
      · refine List.pairwise_cons.mpr ⟨?_, ih hds⟩
        intro e he
        rcases mem_insertAscending.mp he with rfl | he
        · omega
        · exact hd e he

theorem mem_extended {text : List Nat} {c : Nat} :
    c ∈ extended text ↔ c ∈ text ∧ basicLimit ≤ c := by
  have hfold : ∀ cs : List Nat, c ∈ cs.foldr insertAscending [] ↔ c ∈ cs := by
    intro cs
    induction cs with
    | nil => rfl
    | cons d ds ih => rw [List.foldr_cons, mem_insertAscending, ih, List.mem_cons]
  rw [extended, hfold, List.mem_filter, decide_eq_true_iff]

theorem pairwise_extended (text : List Nat) : (extended text).Pairwise (· < ·) := by
  unfold extended
  induction text.filter (basicLimit ≤ ·) with
  | nil => exact List.Pairwise.nil
  | cons c cs ih => exact pairwise_insertAscending ih

/-! ## Texts -/

theorem splitLast_of_notMem {text : List Char} (h : '-' ∉ text) : splitLast text = ([], text) := by
  have hall : ∀ c ∈ text.reverse, decide (c ≠ '-') = true := by
    intro c hc
    refine decide_eq_true ?_
    rintro rfl
    exact h (List.mem_reverse.mp hc)
  rw [splitLast, List.span_eq_takeWhile_dropWhile, List.takeWhile_eq_self_iff.mpr hall,
    List.dropWhile_eq_nil_iff.mpr hall]
  simp

theorem splitLast_append {before after : List Char} (h : '-' ∉ after) :
    splitLast (before ++ '-' :: after) = (before, after) := by
  have hall : ∀ c ∈ after.reverse, decide (c ≠ '-') = true := by
    intro c hc
    refine decide_eq_true ?_
    rintro rfl
    exact h (List.mem_reverse.mp hc)
  rw [splitLast, List.reverse_append, List.reverse_cons, List.append_assoc,
    List.span_eq_takeWhile_dropWhile, List.takeWhile_append_of_pos hall,
    List.dropWhile_append_of_pos hall]
  simp

/-- The last hyphen parts the ASCII code points from the digits, which have none. -/
theorem splitLast_encode (text : List Nat) :
    splitLast (encode text) = ((basic text).map Char.ofNat, tail text) := by
  unfold encode
  split
  · next hnil =>
    rw [splitLast_of_notMem (hyphen_notMem_tail text), hnil]
    rfl
  · exact splitLast_append (hyphen_notMem_tail text)

theorem map_toNat_ofNat {ns : List Nat} (h : ∀ n ∈ ns, n < 0x80) :
    (ns.map Char.ofNat).map Char.toNat = ns := by
  have all : ∀ n < 0x80, (Char.ofNat n).toNat = n := by decide
  rw [List.map_map]
  exact (List.map_congr_left fun n hn => all n (h n hn)).trans (List.map_id _)

/-- A text is encoded as something that is decoded to it. -/
theorem decode?_encode {text : List Nat} (h : ∀ c ∈ text, c ≤ 0x10FFFF) :
    decode? (encode text) = some text := by
  have hcompletes : ({ out := basic text } : Progress).Completes (placements text) text := by
    refine Progress.completes_from (pairwise_extended text) ?_ ?_ rfl (.inr ⟨rfl, rfl⟩) ?_
    · intro m hm
      obtain ⟨hmem, hlow⟩ := mem_extended.mp hm
      exact ⟨hlow, h m hmem⟩
    · exact fun c hc hlow => mem_extended.mpr ⟨hc, hlow⟩
    · exact Nat.zero_le _
  obtain ⟨p, hp, hout⟩ := hcompletes
  have hsettled : ({ out := basic text } : Progress).IsSettled := ⟨rfl, rfl, rfl⟩
  have hread : (tail text).foldlM Progress.read { out := basic text } = some p :=
    (foldlM_allDigits hsettled _).trans hp
  have hbasic : ((basic text).map Char.ofNat).map Char.toNat = basic text :=
    map_toNat_ofNat fun n hn => of_decide_eq_true (List.mem_filter.mp hn).2
  simp only [decode?, splitLast_encode, hbasic, hread, (hsettled.foldlM hp).k, if_true, hout]

end Accounts.Label.Punycode
