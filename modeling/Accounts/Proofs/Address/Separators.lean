import Accounts.Proofs.Address.Language
import Accounts.Proofs.Label.Letters

/-!
Separators and blanks. Mapping can bring in an at sign or a space for a character that looks like
one, and ASCII labels of a host are not held against the rules for labels. Nevertheless an address
holds no blank, and its encoded parts hold none either and no at sign: what mapping brings in shows
in the encoded form, which is looked at afterwards.
-/
namespace Accounts.Address

open Label.Punycode (isPlain)

/-! ## ASCII -/

/-- A property of ASCII characters, looked at one by one. -/
theorem ascii_forall {P : Char → Prop} (h : ∀ n < 0x80, P (Char.ofNat n)) {c : Char}
    (hc : isAsciiChar c = true) : P c := by
  have hn := h c.toNat (Nat.blt_eq.mp hc)
  rwa [Char.ofNat_toNat] at hn

/-! ## Blanks -/

/-- A blank that is mapped at all is mapped to a blank that composition leaves alone: an ASCII one to
itself, and any other to the space. -/
theorem mapCodePoint_blank {c : Char} (hc : c ∈ Text.blanks) {ds : List Nat}
    (h : Label.mapCodePoint c.toNat = some ds) :
    ∃ b ∈ Text.blanks, b.toNat < 0x21 ∧ b.toNat ∈ ds := by
  have hall : Text.blanks.all (fun c => decide
      ((c.toNat < 0x21 ∧ Label.mapCodePoint c.toNat = some [c.toNat]) ∨
        (Label.mapCodePoint c.toNat).getD [0x20] = [0x20])) = true := by decide +kernel
  rcases of_decide_eq_true (List.all_eq_true.mp hall c hc) with ⟨hlow, hsame⟩ | hspace
  · rw [hsame] at h
    cases h
    exact ⟨c, hc, hlow, List.mem_singleton_self _⟩
  · rw [h, Option.getD_some] at hspace
    rw [hspace]
    exact ⟨' ', by decide, by decide, List.mem_singleton_self _⟩

theorem blank_mem_map {label : List Char} {mapped : List Nat} {c : Char}
    (h : Label.map (label.map Char.toNat) = .ok mapped) (hc : c ∈ label) (hb : c ∈ Text.blanks) :
    ∃ b ∈ Text.blanks, b.toNat < 0x21 ∧ b.toNat ∈ mapped := by
  have hmem : c.toNat ∈ label.map Char.toNat := List.mem_map_of_mem hc
  obtain ⟨ds, hds⟩ := Label.exists_mapCodePoint h hmem
  obtain ⟨b, hblank, hlow, hbd⟩ := mapCodePoint_blank hb hds
  have hstandalone : Text.Normal.IsStandalone b.toNat :=
    Text.Normal.isStandalone_of_lt (by omega)
  exact ⟨b, hblank, hlow, (Label.mem_map_iff hstandalone h).mpr ⟨c.toNat, hmem, ds, hds, hbd⟩⟩

/-- A blank in a label shows in its encoded form. -/
theorem blank_mem_encodeLabel {mode : Mode} {label encoded : List Char} {c : Char}
    (h : encodeLabel mode label = .ok encoded) (hc : c ∈ label) (hb : c ∈ Text.blanks) :
    ∃ b ∈ encoded, b ∈ Text.blanks := by
  unfold encodeLabel at h
  split at h
  · cases h
    exact ⟨c, hc, hb⟩
  · cases mode with
    | lenient =>
      obtain ⟨mapped, hm, rfl⟩ := Label.exists_of_encodeLenient h
      obtain ⟨b, hblank, hlow, hmem⟩ := blank_mem_map hm hc hb
      have hwritten := Label.mem_written_of_low hmem (by omega)
      rw [Char.ofNat_toNat] at hwritten
      exact ⟨b, hwritten, hblank⟩
    | strict =>
      obtain ⟨mapped, -, hm, -⟩ := Label.encodeStrict_cases h
      obtain ⟨b, hblank, hlow, hmem⟩ := blank_mem_map hm hc hb
      have hstop : b.toNat ≠ Label.fullStop := by
        simp only [Label.fullStop]
        omega
      have hencoded := Label.mem_encodeStrict h hm hmem (by omega) hstop
      rw [Char.ofNat_toNat] at hencoded
      exact ⟨b, hencoded, hblank⟩

theorem exists_right_of_forall₂ {α β : Type} {R : α → β → Prop} {as : List α} {bs : List β}
    (h : List.Forall₂ R as bs) {a : α} (ha : a ∈ as) : ∃ b ∈ bs, R a b := by
  induction h with
  | nil => cases ha
  | cons hr _ ih =>
    rcases List.mem_cons.mp ha with rfl | ha
    · exact ⟨_, List.mem_cons_self, hr⟩
    · obtain ⟨b, hb, hr⟩ := ih ha
      exact ⟨b, List.mem_cons_of_mem _ hb, hr⟩

/-- A text whose encoded form has no blank has none itself. -/
theorem blank_notMem_of_encode {mode : Mode} {text encoded : List Char}
    (h : encode mode text = .ok encoded) (hb : ∀ c ∈ encoded, c ∉ Text.blanks) :
    ∀ c ∈ text, c ∉ Text.blanks := by
  intro c hc hblank
  obtain ⟨labels, rfl, hlabels⟩ := exists_of_encode h
  rw [← Text.joinWith_splitOn '.' text] at hc
  rcases Text.mem_joinWith hc with rfl | ⟨label, hl, hc⟩
  · exact absurd hblank (by decide)
  · obtain ⟨e, he, hencode⟩ := exists_right_of_forall₂ hlabels hl
    obtain ⟨b, hbe, hbb⟩ := blank_mem_encodeLabel hencode hc hblank
    exact hb b (Text.mem_joinWith_of_mem he hbe) hbb

/-! ## Encoded parts -/

/-- A character of an atom is ASCII, and neither a blank nor an at sign. -/
theorem IsAtomChar.clean {c : Char} (h : IsAtomChar c) :
    isAsciiChar c = true ∧ c ∉ Text.blanks ∧ c ≠ '@' := by
  have hletter : ∀ d : Char, d.toNat < 0x80 → c ≤ d → isAsciiChar c = true := by
    intro d hd hle
    exact Nat.blt_eq.mpr (Nat.lt_of_le_of_lt (UInt32.le_iff_toNat_le.mp hle) hd)
  have hsymbol : "!#$%&'*+/=?^_\x60\x7b|\x7d~-".toList.all isAsciiChar = true := by decide
  have hascii : isAsciiChar c = true := by
    rcases h with ⟨-, hz⟩ | ⟨-, hz⟩ | ⟨-, h9⟩ | hs
    · exact hletter 'z' (by decide) hz
    · exact hletter 'Z' (by decide) hz
    · exact hletter '9' (by decide) h9
    · exact List.all_eq_true.mp hsymbol c hs
  have all : ∀ n < 0x80, isAtomChar (Char.ofNat n) = true →
      Char.ofNat n ∉ Text.blanks ∧ Char.ofNat n ≠ '@' := by decide +kernel
  have hclean := ascii_forall (P := fun d => isAtomChar d = true → d ∉ Text.blanks ∧ d ≠ '@') all hascii
  exact ⟨hascii, hclean ((isAtomChar_iff c).mpr h)⟩

theorem isAtomChar_of_isPlain {c : Char} (h : isPlain c = true) : IsAtomChar c := by
  rw [← isAtomChar_iff, isAtomChar]
  rcases Bool.or_eq_true_iff.mp h with hletter | hhyphen
  · rw [hletter, Bool.true_or]
  · rw [eq_of_beq hhyphen]
    decide

/-- Whatever way a label takes, it becomes ASCII. -/
theorem isAsciiChar_of_encodeLabel {mode : Mode} {label encoded : List Char}
    (h : encodeLabel mode label = .ok encoded) {c : Char} (hc : c ∈ encoded) :
    isAsciiChar c = true := by
  unfold encodeLabel at h
  split at h
  · next hascii =>
    cases h
    exact List.all_eq_true.mp hascii c hc
  · cases mode with
    | strict =>
      rcases Label.isPlain_of_mem_encodeStrict h hc with hplain | rfl
      · exact (isAtomChar_of_isPlain hplain).clean.1
      · rfl
    | lenient =>
      obtain ⟨mapped, -, rfl⟩ := Label.exists_of_encodeLenient h
      rcases Label.isPlain_or_of_mem_written hc with hplain | ⟨n, -, hlow, rfl⟩
      · exact (isAtomChar_of_isPlain hplain).clean.1
      · have all : ∀ m < 0x80, isAsciiChar (Char.ofNat m) = true := by decide
        exact all n hlow

/-- A label of a host has an at sign in its encoded form only if one was written: the rules for
labels do not let the sign pass that mapping brings in. -/
theorem at_notMem_of_encodeLabel {label encoded : List Char}
    (h : encodeLabel .strict label = .ok encoded) (hat : '@' ∉ label) : '@' ∉ encoded := by
  unfold encodeLabel at h
  split at h
  · cases h
    exact hat
  · intro hc
    rcases Label.isPlain_of_mem_encodeStrict h hc with hplain | hdot
    · exact (isAtomChar_of_isPlain hplain).clean.2.2 rfl
    · exact absurd hdot (by decide)

/-- An encoded text is ASCII. -/
theorem isAsciiChar_of_mem_encode {mode : Mode} {text encoded : List Char}
    (h : encode mode text = .ok encoded) {c : Char} (hc : c ∈ encoded) : isAsciiChar c = true := by
  obtain ⟨labels, rfl, hlabels⟩ := exists_of_encode h
  rcases Text.mem_joinWith hc with rfl | ⟨e, he, hc⟩
  · rfl
  · obtain ⟨label, -, hencode⟩ := exists_right_of_forall₂ hlabels.flip he
    exact isAsciiChar_of_encodeLabel hencode hc

/-- An encoded host is ASCII, and has an at sign only if one was written. -/
theorem ascii_of_mem_encode {text encoded : List Char} {c : Char}
    (h : encode .strict text = .ok encoded) (hat : '@' ∉ text) (hc : c ∈ encoded) :
    isAsciiChar c = true ∧ c ≠ '@' := by
  refine ⟨isAsciiChar_of_mem_encode h hc, ?_⟩
  rintro rfl
  obtain ⟨labels, rfl, hlabels⟩ := exists_of_encode h
  rcases Text.mem_joinWith hc with hdot | ⟨e, he, hc⟩
  · exact absurd hdot (by decide)
  · obtain ⟨label, hl, hencode⟩ := exists_right_of_forall₂ hlabels.flip he
    exact at_notMem_of_encodeLabel hencode (fun hmem => hat (Text.mem_of_mem_splitOn hl hmem)) hc

/-- An encoded local part is ASCII, without blanks and at signs. -/
theorem IsDotAtom.clean {text : List Char} (h : IsDotAtom text) {c : Char} (hc : c ∈ text) :
    isAsciiChar c = true ∧ c ∉ Text.blanks ∧ c ≠ '@' := by
  obtain ⟨atoms, -, hatoms, rfl⟩ := h
  rcases Text.mem_joinWith hc with rfl | ⟨atom, hatom, hc⟩
  · decide
  · exact ((hatoms atom hatom).2 c hc).clean

/-! ## Addresses -/

/-- No blank is in an address. Its encoded parts are ASCII without blanks, and the only at sign is
the one between them. -/
theorem separators_intact {text : String} (h : isEmail text = true) :
    (∀ c ∈ text.toList, c ∉ Text.blanks) ∧
      ∃ localPart host encodedLocal encodedHost,
        parts? text.toList = some (localPart, host) ∧
        encode .lenient localPart = .ok encodedLocal ∧ encode .strict host = .ok encodedHost ∧
        (encodedLocal ++ '@' :: encodedHost).count '@' = 1 ∧
        ∀ c ∈ encodedLocal ++ '@' :: encodedHost, isAsciiChar c = true ∧ c ∉ Text.blanks := by
  obtain ⟨localPart, domain, extension, l, host, hw, hl, hh, hatom, hhost⟩ := (accepts_iff _).mp h
  obtain ⟨hparts, -⟩ := written_iff.mpr ⟨domain, extension, rfl, hw⟩
  obtain ⟨-, -, hat⟩ := parts?_eq_some_iff.mp hparts
  have hlocal : ∀ c ∈ l, isAsciiChar c = true ∧ c ∉ Text.blanks ∧ c ≠ '@' :=
    fun c hc => hatom.clean hc
  have hencoded : ∀ c ∈ host, isAsciiChar c = true ∧ c ≠ '@' :=
    fun c hc => ascii_of_mem_encode hh hat hc
  refine ⟨?_, localPart, _, l, host, hparts, hl, hh, ?_, ?_⟩
  · intro c hc
    rw [hw.text_eq] at hc
    rcases List.mem_append.mp hc with hc | hc
    · exact blank_notMem_of_encode hl (fun d hd => (hlocal d hd).2.1) c hc
    · rcases List.mem_cons.mp hc with rfl | hc
      · decide
      · exact blank_notMem_of_encode hh hhost.1 c hc
  · have hbefore : l.count '@' = 0 := List.count_eq_zero.mpr fun hmem => (hlocal '@' hmem).2.2 rfl
    have hafter : host.count '@' = 0 := List.count_eq_zero.mpr fun hmem => (hencoded '@' hmem).2 rfl
    rw [List.count_append, List.count_cons_self, hbefore, hafter]
  · intro c hc
    rcases List.mem_append.mp hc with hc | hc
    · exact ⟨(hlocal c hc).1, (hlocal c hc).2.1⟩
    · rcases List.mem_cons.mp hc with rfl | hc
      · decide
      · exact ⟨(hencoded c hc).1, hhost.1 c hc⟩

/-- A capital with an umlaut beside a symbol, and a host that is not ASCII. -/
theorem separators_intact_accented :
    isEmail "\u00dc+tag@b\u00fccher.de" = true ∧ ∃ encodedLocal encodedHost,
      encode .lenient "\u00dc+tag".toList = .ok encodedLocal ∧
      encode .strict "b\u00fccher.de".toList = .ok encodedHost ∧
      (encodedLocal ++ '@' :: encodedHost).count '@' = 1 := by
  have haddress : isEmail "\u00dc+tag@b\u00fccher.de" = true := by decide +kernel
  obtain ⟨-, localPart, host, l, h, hp, hl, hh, hcount, -⟩ := separators_intact haddress
  have hparts : parts? "\u00dc+tag@b\u00fccher.de".toList =
      some ("\u00dc+tag".toList, "b\u00fccher.de".toList) := by decide +kernel
  rw [hparts] at hp
  cases hp
  exact ⟨haddress, l, h, hl, hh, hcount⟩

end Accounts.Address
