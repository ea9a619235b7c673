import Accounts.Hash.Hasher

/-!
A hash is accepted for the password it was made from. For bcrypt the parameters are read back from
the stored text: no part of it holds a dollar sign, the cost has two digits, and the letters of the
salt say where the digest begins. Bytes that are written in letters are read back from them.
-/
namespace Accounts

namespace Bcrypt

open Text (splitOn splitOn_append_cons splitOn_of_notMem zeroPad decimal ofDecimal)

/-! ## Parts of a hash -/

theorem letter_ne_dollar {n : Nat} (h : n < 64) : '$' ≠ letter n := by
  have all : ∀ m < 64, '$' ≠ letter m := by decide
  exact all n h

/-- The values that the letters of bytes stand for. -/
def sextets : List UInt8 → List Nat
  | a :: b :: c :: rest =>
    a.toNat / 4 :: (a.toNat % 4 * 16 + b.toNat / 16) :: (b.toNat % 16 * 4 + c.toNat / 64) ::
      c.toNat % 64 :: sextets rest
  | [a, b] => [a.toNat / 4, a.toNat % 4 * 16 + b.toNat / 16, b.toNat % 16 * 4]
  | [a] => [a.toNat / 4, a.toNat % 4 * 16]
  | [] => []

theorem toLetters_eq_map (bytes : List UInt8) : toLetters bytes = (sextets bytes).map letter := by
  induction bytes using sextets.induct with
  | case1 a b c rest ih => simp [toLetters, sextets, ih]
  | case2 a b => rfl
  | case3 a => rfl
  | case4 => rfl

theorem sextets_lt {bytes : List UInt8} {v : Nat} (h : v ∈ sextets bytes) : v < 64 := by
  induction bytes using sextets.induct with
  | case1 a b c rest ih =>
    have ha := a.toNat_lt
    have hb := b.toNat_lt
    have hc := c.toNat_lt
    simp only [sextets, List.mem_cons] at h
    rcases h with rfl | rfl | rfl | rfl | h
    · omega
    · omega
    · omega
    · omega
    · exact ih h
  | case2 a b =>
    have ha := a.toNat_lt
    have hb := b.toNat_lt
    simp only [sextets, List.mem_cons, List.not_mem_nil, or_false] at h
    rcases h with rfl | rfl | rfl <;> omega
  | case3 a =>
    have ha := a.toNat_lt
    simp only [sextets, List.mem_cons, List.not_mem_nil, or_false] at h
    rcases h with rfl | rfl <;> omega
  | case4 => cases h

theorem dollar_notMem_toLetters (bytes : List UInt8) : '$' ∉ toLetters bytes := by
  rw [toLetters_eq_map]
  intro h
  obtain ⟨v, hv, heq⟩ := List.mem_map.mp h
  exact letter_ne_dollar (sextets_lt hv) heq.symm

/-! ## Letters read back -/

theorem mapM_letterValue? {vs : List Nat} (h : ∀ v ∈ vs, v < 64) :
    (vs.map letter).mapM letterValue? = some vs := by
  induction vs with
  | nil => rfl
  | cons v vs ih =>
    have hv := letterValue?_letter (h v List.mem_cons_self)
    have hvs := ih fun w hw => h w (List.mem_cons_of_mem v hw)
    simp [List.mapM_cons, hv, hvs]

theorem ofNat_eq_of_toNat {a : UInt8} {n : Nat} (h : n = a.toNat) : UInt8.ofNat n = a := by
  rw [h, UInt8.ofNat_toNat]

theorem ofValues_sextets (bytes : List UInt8) : ofValues (sextets bytes) = bytes := by
  induction bytes using sextets.induct with
  | case1 a b c rest ih =>
    have ha := a.toNat_lt
    have hb := b.toNat_lt
    have hc := c.toNat_lt
    simp only [sextets, ofValues, ih]
    rw [ofNat_eq_of_toNat (a := a) (by omega), ofNat_eq_of_toNat (a := b) (by omega),
      ofNat_eq_of_toNat (a := c) (by omega)]
  | case2 a b =>
    have ha := a.toNat_lt
    have hb := b.toNat_lt
    simp only [sextets, ofValues]
    rw [ofNat_eq_of_toNat (a := a) (by omega), ofNat_eq_of_toNat (a := b) (by omega)]
  | case3 a =>
    have ha := a.toNat_lt
    simp only [sextets, ofValues]
    rw [ofNat_eq_of_toNat (a := a) (by omega)]
  | case4 => rfl

/-- Letters are read back as the bytes that they were written for. -/
theorem ofLetters?_toLetters (bytes : List UInt8) : ofLetters? (toLetters bytes) = some bytes := by
  have hm : (toLetters bytes).mapM letterValue? = some (sextets bytes) := by
    rw [toLetters_eq_map]
    exact mapM_letterValue? fun v hv => sextets_lt hv
  simp only [ofLetters?, hm, ofValues_sextets, if_true]

theorem length_toLetters (bytes : List UInt8) :
    (toLetters bytes).length = (4 * bytes.length + 2) / 3 := by
  induction bytes using toLetters.induct with
  | case1 a b c rest ih =>
    simp only [toLetters, List.length_cons, ih]
    omega
  | case2 a b => simp [toLetters]
  | case3 a => simp [toLetters]
  | case4 => simp [toLetters]

/-- A cost is written in two digits and read back. -/
theorem cost_written : ∀ c ≤ greatestCost, '$' ∉ zeroPad 2 (decimal c) ∧
    zeroPad 2 (decimal c) ≠ [] ∧ (zeroPad 2 (decimal c)).all Char.isDigit ∧
    ofDecimal (zeroPad 2 (decimal c)) = c := by
  decide

/-- The salt at the beginning of a text is written with the letters it was read from. -/
theorem toLetters_of_salt? {text : List Char} {bytes : List UInt8} (h : salt? text = some bytes) :
    toLetters bytes = text.take saltLetters ∧ saltLetters ≤ text.length := by
  unfold salt? at h
  split at h
  · next hl =>
    refine ⟨?_, hl⟩
    unfold ofLetters? at h
    split at h
    · next ns hns =>
      split at h
      · next heq =>
        cases h
        exact heq
      · cases h
    · cases h
  · cases h

def saltSize : Nat := 16

/-- The letters of a salt are as many as the place for them. -/
theorem length_letters_of_size {bytes : List UInt8} (h : bytes.length = saltSize) :
    (toLetters bytes).length = saltLetters := by
  rw [length_toLetters, h]
  rfl

theorem length_of_salt? {text : List Char} {bytes : List UInt8} (h : salt? text = some bytes) :
    bytes.length = saltSize := by
  obtain ⟨hletters, hl⟩ := toLetters_of_salt? h
  have hlength := congrArg List.length hletters
  rw [length_toLetters, List.length_take, Nat.min_eq_left hl] at hlength
  simp only [saltLetters, saltSize] at *
  omega

/-- A salt is read back whatever follows it. -/
theorem salt?_append {bytes : List UInt8} (h : bytes.length = saltSize) (rest : List Char) :
    salt? (toLetters bytes ++ rest) = some bytes := by
  have hlen := length_letters_of_size h
  have htake : (toLetters bytes ++ rest).take saltLetters = toLetters bytes := List.take_left' hlen
  have hlong : saltLetters ≤ (toLetters bytes ++ rest).length := by
    rw [List.length_append, hlen]
    omega
  unfold salt?
  rw [if_pos hlong, htake, ofLetters?_toLetters]

/-! ## Reading a hash back -/

/-- Parameters that a hash can state. -/
structure Parameters.IsSound (p : Parameters) : Prop where
  version : p.version ∈ versions
  least : leastCost ≤ p.cost
  greatest : p.cost ≤ greatestCost
  salt : p.salt.length = saltSize

theorem dollar_notMem_version : ∀ v ∈ versions, '$' ∉ v := by decide

/-- A hash states its parameters. -/
theorem parameters?_render {p : Parameters} (h : p.IsSound) (password : String) :
    parameters? (render p password) = some p := by
  obtain ⟨version, cost, salt⟩ := p
  obtain ⟨hknown, hleast, hgreatest, hsalt⟩ := h
  obtain ⟨hd, hne, hdigits, hvalue⟩ := cost_written cost hgreatest
  have hrest : '$' ∉ toLetters salt ++ toLetters (digest cost salt password) := by
    rw [List.mem_append]
    exact not_or.mpr ⟨dollar_notMem_toLetters _, dollar_notMem_toLetters _⟩
  have hversion : '$' ∉ version := dollar_notMem_version version hknown
  have hsplit : splitOn '$' (render ⟨version, cost, salt⟩ password) =
      [[], version, zeroPad 2 (decimal cost),
        toLetters salt ++ toLetters (digest cost salt password)] := by
    have hfirst : splitOn '$' (render ⟨version, cost, salt⟩ password) = splitOn '$' [] ++
        splitOn '$' (version ++ '$' :: (zeroPad 2 (decimal cost) ++
          '$' :: (toLetters salt ++ toLetters (digest cost salt password)))) :=
      splitOn_append_cons '$' [] _
    rw [hfirst, splitOn_append_cons '$' version, splitOn_append_cons, splitOn_of_notMem hd,
      splitOn_of_notMem hrest, splitOn_of_notMem hversion]
    rfl
  have hmem : versions.contains version := List.contains_iff_mem.mpr hknown
  simp only [parameters?, hsplit, hmem, hvalue, true_and]
  rw [if_pos ⟨hne, hdigits, hleast, hgreatest⟩, salt?_append hsalt]
  rfl

/-! ## Verifying -/

theorem cost_eq_ok {rounds : Int} {c : Nat} (h : cost rounds = .ok c) :
    leastCost ≤ c ∧ c ≤ greatestCost := by
  unfold cost at h
  split at h
  · cases h
  · split at h
    · cases h
    · split at h
      · cases h
      · cases h
        simp only [leastCost, greatestCost] at *
        omega

/-- What a successful hash looks like. -/
theorem hash_cases {rounds : Int} {salt password stored : String}
    (h : hash rounds salt password = .ok stored) :
    isLong password = false ∧
      ∃ p : Parameters, p.IsSound ∧ stored = String.ofList (render p password) := by
  unfold hash at h
  cases hc : cost rounds with
  | error e =>
    rw [hc] at h
    cases h
  | ok c =>
    rw [hc] at h
    dsimp only at h
    split at h
    · cases h
    · next hlong =>
      refine ⟨by simpa using hlong, ?_⟩
      have hknown : currentVersion ∈ versions := by decide
      cases hs : givenSalt? salt with
      | none =>
        rw [hs] at h
        cases h
      | some bytes =>
        rw [hs] at h
        cases h
        obtain ⟨hleast, hgreatest⟩ := cost_eq_ok hc
        refine ⟨⟨currentVersion, c, bytes⟩, ⟨hknown, hleast, hgreatest, ?_⟩, rfl⟩
        unfold givenSalt? at hs
        split at hs
        · next letters _ => exact length_of_salt? hs
        · cases hs

/-- A password is accepted for its own hash. -/
theorem verify_of_hash {rounds : Int} {salt password stored : String}
    (h : hash rounds salt password = .ok stored) : verify password stored = true := by
  obtain ⟨hlong, p, hp, rfl⟩ := hash_cases h
  unfold verify
  rw [hlong, String.toList_ofList, parameters?_render hp]
  simp

end Bcrypt

namespace Hasher

/-- Whatever salt was drawn, a hasher accepts a password for its own hash. -/
theorem verify_of_hash {hasher : Hasher} {salt password stored : String}
    (h : (hasher.withSalt salt).hash password = .ok stored) :
    hasher.verify password stored = true := by
  cases hasher with
  | reversing =>
    cases h
    exact (verify_reversed_iff password password).mpr rfl
  | bcrypt rounds s => exact Bcrypt.verify_of_hash h

end Hasher

end Accounts
