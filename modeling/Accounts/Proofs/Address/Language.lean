import Accounts.Proofs.Address.Host

/-!
The language of addresses. A grammar says which texts are addresses: a local part, an at sign and
two labels, within their limits, that are encoded as atoms with single dots between them and as a
host without blanks. The check accepts exactly these, and an ASCII text is its own encoded form, so
for ASCII texts the grammar is all there is.
-/
namespace Accounts.Address

/-! ## Atoms -/

/-- The characters of atoms. -/
def IsAtomChar (c : Char) : Prop :=
  ('a' ≤ c ∧ c ≤ 'z') ∨ ('A' ≤ c ∧ c ≤ 'Z') ∨ ('0' ≤ c ∧ c ≤ '9') ∨
    c ∈ "!#$%&'*+/=?^_\x60\x7b|\x7d~-".toList

/-- One or more atoms, none of them empty, with single dots between them. -/
def IsDotAtom (text : List Char) : Prop :=
  ∃ atoms, atoms ≠ [] ∧ (∀ atom ∈ atoms, atom ≠ [] ∧ ∀ c ∈ atom, IsAtomChar c) ∧
    text = Text.joinWith '.' atoms

theorem isAtomChar_iff (c : Char) : isAtomChar c = true ↔ IsAtomChar c := by
  have hsymbols : "!#$%&'*+/=?^_\x60\x7b|\x7d~-".toList = ['!', '#', '$', '%', '&', '\'', '*', '+',
      '/', '=', '?', '^', '_', '\x60', '\x7b', '|', '\x7d', '~', '-'] := by decide
  have hletters : c.isAlphanum = (decide ('A' ≤ c ∧ c ≤ 'Z') ||
      (decide ('a' ≤ c) && decide (c ≤ 'z')) || (decide ('0' ≤ c) && decide (c ≤ '9'))) := rfl
  unfold isAtomChar IsAtomChar
  rw [hsymbols, hletters, Bool.or_eq_true, List.contains_iff_mem]
  simp only [Bool.or_eq_true, Bool.and_eq_true, decide_eq_true_eq]
  rw [or_assoc, or_assoc, or_left_comm]

theorem not_isAtomChar_dot : ¬IsAtomChar '.' := by
  rw [← isAtomChar_iff]
  decide

theorem hasDoubleDot_iff (text : List Char) :
    hasDoubleDot text = true ↔ ['.', '.'] <:+: text := by
  induction text with
  | nil => simp [hasDoubleDot]
  | cons c cs ih =>
    rw [Text.pair_infix_cons_iff, ← ih]
    by_cases h : c = '.' ∧ cs.head? = some '.'
    · obtain ⟨rfl, hcs⟩ := h
      obtain ⟨ds, rfl⟩ := List.head?_eq_some_iff.mp hcs
      simp [hasDoubleDot]
    · simp only [h, false_or]
      rw [hasDoubleDot]
      rintro ds rfl rfl
      exact h ⟨rfl, rfl⟩

theorem IsDotAtom.nil_notMem {text : List Char} (h : IsDotAtom text) :
    [] ∉ Text.splitOn '.' text := by
  obtain ⟨atoms, hne, hatoms, rfl⟩ := h
  have hdot : ∀ atom ∈ atoms, '.' ∉ atom :=
    fun atom hatom hmem => not_isAtomChar_dot ((hatoms atom hatom).2 '.' hmem)
  rw [Text.splitOn_joinWith hne hdot]
  exact fun hnil => (hatoms [] hnil).1 rfl

theorem isLocalPart_iff_atoms (text : List Char) : isLocalPart text = true ↔
    [] ∉ Text.splitOn '.' text ∧ ∀ c ∈ text, IsAtomChar c ∨ c = '.' := by
  simp only [isLocalPart, Text.nil_mem_splitOn_iff, ← hasDoubleDot_iff, not_or,
    Bool.and_eq_true, bne_iff_ne, Bool.not_eq_true', Bool.not_eq_true, List.all_eq_true,
    Bool.or_eq_true, beq_iff_eq, isAtomChar_iff, List.isEmpty_eq_false_iff]
  constructor
  · rintro ⟨⟨⟨⟨hhead, hlast⟩, hdouble⟩, hne⟩, hall⟩
    exact ⟨⟨hne, hhead, hlast, hdouble⟩, hall⟩
  · rintro ⟨⟨hne, hhead, hlast, hdouble⟩, hall⟩
    exact ⟨⟨⟨⟨hhead, hlast⟩, hdouble⟩, hne⟩, hall⟩

theorem isLocalPart_iff (text : List Char) : isLocalPart text = true ↔ IsDotAtom text := by
  rw [isLocalPart_iff_atoms]
  constructor
  · rintro ⟨hne, hall⟩
    refine ⟨Text.splitOn '.' text, Text.splitOn_ne_nil _ _, ?_, (Text.joinWith_splitOn _ _).symm⟩
    intro atom hatom
    refine ⟨fun h => hne (h ▸ hatom), fun c hc => ?_⟩
    rcases hall c (Text.mem_of_mem_splitOn hatom hc) with h | rfl
    · exact h
    · exact absurd hc (Text.notMem_of_mem_splitOn hatom)
  · intro hatom
    refine ⟨hatom.nil_notMem, fun c hc => ?_⟩
    obtain ⟨atoms, -, hatoms, rfl⟩ := hatom
    rcases Text.mem_joinWith hc with rfl | ⟨atom, hatom, hc⟩
    · exact .inr rfl
    · exact .inl ((hatoms atom hatom).2 c hc)

/-! ## Hosts -/

/-- No blank, and a dot with something on either side of it. -/
def IsDottedHost (text : List Char) : Prop :=
  (∀ c ∈ text, c ∉ Text.blanks) ∧ ∃ before later, before ≠ [] ∧ later ≠ [] ∧
    text = before ++ '.' :: later

/-- A member that is neither first nor last has something on either side of it. -/
theorem mem_tail_dropLast_iff {c : Char} {text : List Char} :
    c ∈ text.tail.dropLast ↔
      ∃ before later, before ≠ [] ∧ later ≠ [] ∧ text = before ++ c :: later := by
  constructor
  · intro h
    obtain ⟨before, later, hsplit⟩ := List.append_of_mem h
    have htail : text.tail ≠ [] := by
      rintro htail
      rw [htail] at h
      cases h
    have hne : text ≠ [] := by
      rintro rfl
      exact htail rfl
    refine ⟨text.head hne :: before, later ++ [text.tail.getLast htail], by simp, by simp, ?_⟩
    calc text = text.head hne :: text.tail := (List.cons_head_tail hne).symm
      _ = text.head hne :: (text.tail.dropLast ++ [text.tail.getLast htail]) := by
        rw [List.dropLast_concat_getLast htail]
      _ = _ := by simp [hsplit]
  · rintro ⟨before, later, hb, hl, rfl⟩
    obtain ⟨first, before, rfl⟩ := List.exists_cons_of_ne_nil hb
    obtain ⟨second, later, rfl⟩ := List.exists_cons_of_ne_nil hl
    simp [List.dropLast_append_of_ne_nil]

theorem isHost_iff (text : List Char) : isHost text = true ↔ IsDottedHost text := by
  rw [isHost, Bool.and_eq_true, List.contains_iff_mem, mem_tail_dropLast_iff, List.all_eq_true]
  simp [IsDottedHost, Text.isBlank]

/-! ## The grammar -/

/-- The parts of an address as they are written, each within its limits. -/
structure IsWritten (text localPart domain extension : List Char) : Prop where
  text_eq : text = localPart ++ '@' :: (domain ++ '.' :: extension)
  at_notMem : '@' ∉ localPart ∧ '@' ∉ domain ∧ '@' ∉ extension
  dot_notMem : '.' ∉ domain ∧ '.' ∉ extension
  localLength : 1 ≤ localPart.length ∧ localPart.length ≤ 64
  domainLength : 1 ≤ domain.length ∧ domain.length ≤ 255
  extensionLength : 1 ≤ extension.length ∧ extension.length ≤ 24

theorem parts?_eq_some_iff {text localPart host : List Char} :
    parts? text = some (localPart, host) ↔
      text = localPart ++ '@' :: host ∧ '@' ∉ localPart ∧ '@' ∉ host := by
  rw [← Text.splitOn_eq_pair_iff]
  unfold parts?
  constructor
  · intro h
    split at h
    · next heq =>
      cases h
      exact heq
    · cases h
  · intro h
    rw [h]

theorem hasLength_iff {limit : Nat} {text : List Char} :
    hasLength limit text = true ↔ 1 ≤ text.length ∧ text.length ≤ limit := by
  cases text <;> simp [hasLength]

theorem fits_iff {localPart host : List Char} :
    fits localPart host = true ↔
      (1 ≤ localPart.length ∧ localPart.length ≤ 64) ∧ ∃ domain extension,
        labels? host = some (domain, extension) ∧
          (1 ≤ domain.length ∧ domain.length ≤ 255) ∧
          (1 ≤ extension.length ∧ extension.length ≤ 24) := by
  rw [fits, Bool.and_eq_true, hasLength_iff]
  refine and_congr Iff.rfl ?_
  cases labels? host with
  | none => simp
  | some p =>
    obtain ⟨domain, extension⟩ := p
    simp only [Bool.and_eq_true, hasLength_iff]
    constructor
    · exact fun h => ⟨domain, extension, rfl, h⟩
    · rintro ⟨_, _, ⟨⟩, h⟩
      exact h

/-- The parts of an address are found and fit exactly when it is written of them. -/
theorem written_iff {text localPart host : List Char} :
    (parts? text = some (localPart, host) ∧ fits localPart host = true) ↔
      ∃ domain extension, host = domain ++ '.' :: extension ∧
        IsWritten text localPart domain extension := by
  rw [parts?_eq_some_iff, fits_iff]
  constructor
  · rintro ⟨⟨htext, hlocal, hhost⟩, hl, domain, extension, hlabels, hd, he⟩
    obtain ⟨rfl, hdot⟩ := labels?_eq_some_iff.mp hlabels
    simp only [List.mem_append, List.mem_cons, not_or] at hhost
    exact ⟨domain, extension, rfl, htext, ⟨hlocal, hhost.1, hhost.2.2⟩, hdot, hl, hd, he⟩
  · rintro ⟨domain, extension, rfl, h⟩
    obtain ⟨hlocal, hdomain, hextension⟩ := h.at_notMem
    have hhost : '@' ∉ domain ++ '.' :: extension := by simp [hdomain, hextension]
    exact ⟨⟨h.text_eq, hlocal, hhost⟩, h.localLength, domain, extension,
      labels?_eq_some_iff.mpr ⟨rfl, h.dot_notMem⟩, h.domainLength, h.extensionLength⟩

theorem accepts_iff (text : List Char) :
    accepts text = true ↔ ∃ localPart domain extension encodedLocal encodedHost,
      IsWritten text localPart domain extension ∧ encode .lenient localPart = .ok encodedLocal ∧
      encode .strict (domain ++ '.' :: extension) = .ok encodedHost ∧
      IsDotAtom encodedLocal ∧ IsDottedHost encodedHost := by
  constructor
  · intro h
    unfold accepts at h
    cases hp : parts? text with
    | none => simp [hp] at h
    | some p =>
      obtain ⟨localPart, host⟩ := p
      simp only [hp, Bool.and_eq_true] at h
      obtain ⟨hfits, h⟩ := h
      obtain ⟨domain, extension, rfl, hw⟩ := written_iff.mp ⟨hp, hfits⟩
      cases hl : encode .lenient localPart with
      | error e => simp [hl] at h
      | ok l =>
        cases hh : encode .strict (domain ++ '.' :: extension) with
        | error e => simp [hl, hh] at h
        | ok host =>
          simp only [hl, hh, Bool.and_eq_true, isLocalPart_iff, isHost_iff] at h
          exact ⟨localPart, domain, extension, l, host, hw, hl, hh, h⟩
  · rintro ⟨localPart, domain, extension, l, host, hw, hl, hh, hatom, hhost⟩
    obtain ⟨hp, hfits⟩ := written_iff.mpr ⟨domain, extension, rfl, hw⟩
    simp only [accepts, hp, hfits, hl, hh, Bool.true_and, Bool.and_eq_true]
    exact ⟨(isLocalPart_iff l).mpr hatom, (isHost_iff host).mpr hhost⟩

/-! ## ASCII -/

/-- In an ASCII address every part is its own encoded form. -/
theorem IsWritten.encode_ascii {text localPart domain extension : List Char}
    (h : IsWritten text localPart domain extension) (ascii : ∀ c ∈ text, isAsciiChar c = true) :
    encode .lenient localPart = .ok localPart ∧
      encode .strict (domain ++ '.' :: extension) = .ok (domain ++ '.' :: extension) := by
  constructor
  · apply Address.encode_ascii
    intro c hc
    apply ascii c
    rw [h.text_eq]
    exact List.mem_append_left _ hc
  · apply Address.encode_ascii
    intro c hc
    apply ascii c
    rw [h.text_eq]
    exact List.mem_append_right _ (List.mem_cons_of_mem _ hc)

/-- The host of an address has a dot where it should. -/
theorem IsWritten.isDottedHost_iff {text localPart domain extension : List Char}
    (h : IsWritten text localPart domain extension) :
    IsDottedHost (domain ++ '.' :: extension) ↔ ∀ c ∈ domain ++ extension, c ∉ Text.blanks := by
  have hdot : '.' ∉ Text.blanks := by decide
  have hd : domain ≠ [] := List.length_pos_iff.mp h.domainLength.1
  have he : extension ≠ [] := List.length_pos_iff.mp h.extensionLength.1
  constructor
  · rintro ⟨hblank, -⟩ c hc
    rcases List.mem_append.mp hc with hc | hc
    · exact hblank c (List.mem_append_left _ hc)
    · exact hblank c (List.mem_append_right _ (List.mem_cons_of_mem _ hc))
  · intro hblank
    refine ⟨?_, domain, extension, hd, he, rfl⟩
    intro c hc
    rcases List.mem_append.mp hc with hc | hc
    · exact hblank c (List.mem_append_left _ hc)
    · rcases List.mem_cons.mp hc with rfl | hc
      · exact hdot
      · exact hblank c (List.mem_append_right _ hc)

/-- The addresses are the texts of the grammar. For a text in ASCII nothing has to be encoded. -/
theorem isEmail_iff (text : String) :
    (isEmail text = true ↔ ∃ localPart domain extension encodedLocal encodedHost,
      IsWritten text.toList localPart domain extension ∧
      encode .lenient localPart = .ok encodedLocal ∧
      encode .strict (domain ++ '.' :: extension) = .ok encodedHost ∧
      IsDotAtom encodedLocal ∧ IsDottedHost encodedHost) ∧
    ((∀ c ∈ text.toList, isAsciiChar c = true) →
      (∀ mode part, part ⊆ text.toList → encode mode part = .ok part) ∧
      (isEmail text = true ↔ ∃ localPart domain extension,
        IsWritten text.toList localPart domain extension ∧ IsDotAtom localPart ∧
        ∀ c ∈ domain ++ extension, c ∉ Text.blanks)) := by
  refine ⟨accepts_iff _, fun ascii => ⟨?_, ?_⟩⟩
  · exact fun mode part hpart => encode_ascii mode fun c hc => ascii c (hpart hc)
  · rw [isEmail, accepts_iff]
    constructor
    · rintro ⟨localPart, domain, extension, l, host, hw, hl, hh, hatom, hhost⟩
      obtain ⟨hll, hhh⟩ := hw.encode_ascii ascii
      obtain rfl : localPart = l := Except.ok.inj (hll.symm.trans hl)
      obtain rfl : domain ++ '.' :: extension = host := Except.ok.inj (hhh.symm.trans hh)
      exact ⟨localPart, domain, extension, hw, hatom, hw.isDottedHost_iff.mp hhost⟩
    · rintro ⟨localPart, domain, extension, hw, hatom, hblank⟩
      obtain ⟨hl, hh⟩ := hw.encode_ascii ascii
      exact ⟨localPart, domain, extension, _, _, hw, hl, hh, hatom,
        hw.isDottedHost_iff.mpr hblank⟩

/-- Names with a tag in front of a host of two labels make an address. -/
theorem isEmail_tagged : isEmail "a.b+c@example.io" = true := by
  have ascii : "a.b+c@example.io".toList.all isAsciiChar = true := by decide +kernel
  have unblank : ("example".toList ++ "io".toList).all (fun c => !Text.blanks.contains c) = true := by
    decide +kernel
  refine ((isEmail_iff "a.b+c@example.io").2 (List.all_eq_true.mp ascii)).2.mpr
    ⟨"a.b+c".toList, "example".toList, "io".toList, ?_, ?_, by simpa using unblank⟩
  · constructor <;> decide +kernel
  · exact (isLocalPart_iff _).mp (by decide +kernel)

end Accounts.Address
