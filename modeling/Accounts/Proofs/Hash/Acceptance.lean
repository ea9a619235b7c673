import Accounts.Failure
import Accounts.Proofs.Hash.Salt

/-!
Which stored texts bcrypt accepts for a password. A text has to state a version, a cost and a salt,
and hashing the password again with these has to give back the whole of it. The settings of the
hasher that verifies do not matter. A text that states nothing and a password that is too long are
errors on the way, and no password is accepted for them.
-/
namespace Accounts

namespace Bcrypt

variable {password stored : String}

/-- What a text states is always good for a hash. -/
theorem isSound_of_parameters? {text : List Char} {p : Parameters}
    (h : parameters? text = some p) : p.IsSound := by
  unfold parameters? at h
  split at h
  · split at h
    · next hstated =>
      obtain ⟨hknown, -, -, hleast, hgreatest⟩ := hstated
      obtain ⟨salt, hsalt, rfl⟩ := Option.map_eq_some_iff.mp h
      exact ⟨List.contains_iff_mem.mp hknown, hleast, hgreatest, length_of_salt? hsalt⟩
    · cases h
  · cases h

theorem isLong_iff : isLong password = true ↔ passwordLimit < password.utf8ByteSize := by
  rw [isLong, Nat.blt_eq]

theorem isLong_eq_false_iff :
    isLong password = false ↔ password.utf8ByteSize ≤ passwordLimit := by
  rw [Bool.eq_false_iff, Ne, isLong_iff, Nat.not_lt]

/-- Hash a password again, with the parameters that a stored text states. -/
def rehash (password stored : String) : Except Error String :=
  if isLong password then .error .longPassword
  else
    match parameters? stored.toList with
    | some p => .ok (String.ofList (render p password))
    | none => .error .invalidSalt

/-- A stored text is accepted when hashing again gives it back. Whatever the error, it is not. -/
theorem verify_iff_rehash : verify password stored = true ↔ rehash password stored = .ok stored := by
  unfold verify rehash
  cases isLong password with
  | true => simp
  | false =>
    cases parameters? stored.toList with
    | none => simp
    | some p => simp

/-- Hashing again gives back the hashes of the password, and nothing else. -/
theorem rehash_eq_ok_iff : rehash password stored = .ok stored ↔
    password.utf8ByteSize ≤ passwordLimit ∧ ∃ p : Parameters, p.IsSound ∧
      parameters? stored.toList = some p ∧ String.ofList (render p password) = stored := by
  rw [← isLong_eq_false_iff]
  unfold rehash
  constructor
  · intro h
    split at h
    · cases h
    · next hlong =>
      split at h
      · next p hp =>
        cases Except.ok.inj h
        exact ⟨Bool.eq_false_iff.mpr hlong, p, isSound_of_parameters? hp, hp, rfl⟩
      · cases h
  · rintro ⟨hlong, p, -, hp, hr⟩
    simp only [hlong, hp, hr]
    rfl

end Bcrypt

namespace Hasher

open Bcrypt (passwordLimit rehash)

/-- Whatever the settings, a password that fits is hashed to a text for which any other settings
accept it, and a longer one is neither hashed nor ever accepted. A text for which a password is
accepted states version, cost and salt, and hashing again with these gives back all of it. -/
theorem accepted_across_settings {rounds : Int} {salt : String}
    (h : (bcrypt rounds salt).IsSound) (other : Int) (otherSalt password : String) :
    (password.utf8ByteSize ≤ passwordLimit →
      ∃ stored, (bcrypt rounds salt).hash password = .ok stored ∧
        (bcrypt other otherSalt).verify password stored = true) ∧
    (passwordLimit < password.utf8ByteSize →
      (bcrypt rounds salt).hash password = .error .longPassword ∧
        Bcrypt.Error.longPassword.name = "ValueError" ∧
        ∀ stored, (bcrypt other otherSalt).verify password stored = false) ∧
    ∀ stored,
      ((bcrypt other otherSalt).verify password stored = true ↔
        rehash password stored = .ok stored) ∧
      (rehash password stored = .ok stored ↔
        password.utf8ByteSize ≤ passwordLimit ∧ ∃ p : Bcrypt.Parameters, p.IsSound ∧
          Bcrypt.parameters? stored.toList = some p ∧
          String.ofList (Bcrypt.render p password) = stored) := by
  have hverify : ∀ stored, (bcrypt other otherSalt).verify password stored = true ↔
      rehash password stored = .ok stored := fun _ => Bcrypt.verify_iff_rehash
  refine ⟨fun hfits => ?_, fun hlong => ?_, fun stored => ⟨hverify stored, Bcrypt.rehash_eq_ok_iff⟩⟩
  · rcases hash_of_isSound h password with ⟨hlong, -⟩ | ⟨-, stored, hstored⟩
    · exact absurd hlong (Nat.not_lt.mpr hfits)
    · exact ⟨stored, hstored, Bcrypt.verify_of_hash hstored⟩
  · refine ⟨?_, rfl, fun stored => ?_⟩
    · rcases hash_of_isSound h password with ⟨-, hrefused⟩ | ⟨hfits, -⟩
      · exact hrefused
      · exact absurd hlong hfits
    · rw [Bool.eq_false_iff, Ne, hverify, Bcrypt.rehash_eq_ok_iff]
      exact fun haccepted => absurd haccepted.1 (Nat.not_le.mpr hlong)

/-- A password of null characters that fills the key, and one that is a letter too long, hashed at
the least cost and verified with the default settings. -/
theorem accepted_across_settings_limit :
    (∃ stored, (bcrypt 4 "......................").hash (String.ofList (List.replicate 72 '\x00')) =
        .ok stored ∧
      (bcrypt defaultRounds "").verify (String.ofList (List.replicate 72 '\x00')) stored = true) ∧
    (bcrypt 4 "......................").hash (String.ofList (List.replicate 73 'x')) =
      .error .longPassword ∧
    ∀ stored,
      (bcrypt defaultRounds "").verify (String.ofList (List.replicate 73 'x')) stored = false := by
  have h : (bcrypt 4 "......................").IsSound :=
    ⟨by decide, by decide, List.replicate 16 0, rfl, rfl⟩
  obtain ⟨hfits, -⟩ :=
    accepted_across_settings h defaultRounds "" (String.ofList (List.replicate 72 '\x00'))
  obtain ⟨-, hlong, -⟩ :=
    accepted_across_settings h defaultRounds "" (String.ofList (List.replicate 73 'x'))
  obtain ⟨hrefused, -, hnever⟩ := hlong (by decide +kernel)
  exact ⟨hfits (by decide +kernel), hrefused, hnever⟩

end Hasher

end Accounts
