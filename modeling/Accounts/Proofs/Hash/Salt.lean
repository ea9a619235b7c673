import Accounts.Proofs.Hash.RoundTrip

/-!
When a password can be hashed. A salt is drawn as 16 bytes and written in letters; with such a salt
and a cost in its range, bcrypt hashes every password except those that are longer than its key.
-/
namespace Accounts

namespace Bcrypt

open Text (splitOn splitOn_of_notMem)

/-- The letters of a salt that was drawn. -/
def IsDrawn (salt : String) : Prop :=
  ∃ bytes : List UInt8, bytes.length = saltSize ∧ salt = String.ofList (toLetters bytes)

/-- A salt that was drawn is accepted. -/
theorem givenSalt?_of_isDrawn {salt : String} (h : IsDrawn salt) :
    ∃ bytes, givenSalt? salt = some bytes := by
  obtain ⟨bytes, hsize, rfl⟩ := h
  refine ⟨bytes, ?_⟩
  have hlen : (toLetters bytes).length = saltLetters := length_letters_of_size hsize
  have hne : (toLetters bytes).isEmpty = false := by
    rw [List.isEmpty_eq_false_iff, ← List.length_pos_iff, hlen]
    decide
  have hparts : (splitOn '$' (toLetters bytes)).filter (! ·.isEmpty) = [toLetters bytes] := by
    rw [splitOn_of_notMem (dollar_notMem_toLetters bytes)]
    simp [hne]
  have hread := salt?_append hsize []
  rw [List.append_nil] at hread
  simp only [givenSalt?, String.toList_ofList, hparts, hread]

theorem cost_of_range {rounds : Int} (hl : (leastCost : Int) ≤ rounds)
    (hg : rounds ≤ (greatestCost : Int)) : cost rounds = .ok rounds.toNat := by
  have h63 : twoPow 63 = 9223372036854775808 := rfl
  have h16 : twoPow 16 = 65536 := rfl
  simp only [leastCost, greatestCost] at hl hg
  unfold cost
  rw [h63, h16, if_neg (by omega), if_neg (by omega), if_neg]
  simp only [leastCost, greatestCost]
  omega

/-- With a cost in its range and a salt that was drawn, only a long password is refused. -/
theorem hash_of_sound {rounds : Int} {salt : String} (hl : (leastCost : Int) ≤ rounds)
    (hg : rounds ≤ (greatestCost : Int)) (hs : IsDrawn salt) (password : String) :
    (isLong password = true ∧ hash rounds salt password = .error .longPassword) ∨
      isLong password = false ∧ ∃ digest, hash rounds salt password = .ok digest := by
  obtain ⟨bytes, hb⟩ := givenSalt?_of_isDrawn hs
  unfold hash
  rw [cost_of_range hl hg]
  cases isLong password with
  | true => exact .inl ⟨rfl, rfl⟩
  | false =>
    refine .inr ⟨rfl, ?_⟩
    simp only [hb]
    exact ⟨_, rfl⟩

end Bcrypt

namespace Hasher

/-- A hasher whose settings are good for some passwords. -/
def IsSound : Hasher → Prop
  | .reversing => True
  | .bcrypt rounds salt =>
    (Bcrypt.leastCost : Int) ≤ rounds ∧ rounds ≤ (Bcrypt.greatestCost : Int) ∧ Bcrypt.IsDrawn salt

/-- The password is too long for bcrypt. It is measured in bytes. -/
def Refuses (password : String) : Hasher → Prop
  | .reversing => False
  | .bcrypt .. => Bcrypt.passwordLimit < password.utf8ByteSize

/-- Such a hasher hashes every password that is not too long for it. -/
theorem hash_of_isSound {h : Hasher} (hs : h.IsSound) (password : String) :
    (h.Refuses password ∧ h.hash password = .error .longPassword) ∨
      ¬h.Refuses password ∧ ∃ digest, h.hash password = .ok digest := by
  cases h with
  | reversing => exact .inr ⟨id, _, rfl⟩
  | bcrypt rounds salt =>
    obtain ⟨hl, hg, hd⟩ := hs
    rcases Bcrypt.hash_of_sound hl hg hd password with ⟨hlong, hx⟩ | ⟨hlong, hx⟩
    · exact .inl ⟨Nat.blt_eq.mp hlong, hx⟩
    · refine .inr ⟨?_, hx⟩
      intro hlt
      rw [Bcrypt.isLong, Nat.blt_eq.mpr hlt] at hlong
      cases hlong

end Hasher

end Accounts
