import Accounts.Proofs.Label.FullStop

/-!
Characters of encoded labels. Of ASCII, the rules for labels let letters, digits and the hyphen pass,
and Punycode adds nothing else. So a strictly encoded label is made of these, with dots between its
pieces; and what stands in a mapped label in ASCII stands in its encoded form as well.
-/
namespace Accounts.Label

open Punycode (isPlain isPlain_or_of_mem_encode)

/-! ## What the rules let pass -/

/-- The ranges of permitted code points that lie in ASCII. -/
theorem low_of_isPermitted {c : Nat} (hlow : c < 0x80) (h : Permitted.isPermitted c = true) :
    c = hyphen ∨ (0x30 ≤ c ∧ c ≤ 0x39) ∨ (0x61 ≤ c ∧ c ≤ 0x7A) := by
  have hrows : ∀ p ∈ Permitted.alphabets ++ Permitted.brahmic ++ Permitted.eastAsian ++
      Permitted.supplementary, p.1 < 0x80 →
      p = (hyphen, hyphen) ∨ p = (0x30, 0x39) ∨ p = (0x61, 0x7A) := by decide +kernel
  simp only [Permitted.isPermitted, Bool.or_eq_true, Text.Ranges.contains_iff] at h
  have hrow : ∃ p ∈ Permitted.alphabets ++ Permitted.brahmic ++ Permitted.eastAsian ++
      Permitted.supplementary, p.1 ≤ c ∧ c ≤ p.2 := by
    simp only [List.mem_append]
    rcases h with ((⟨p, hp, hc⟩ | ⟨p, hp, hc⟩) | ⟨p, hp, hc⟩) | ⟨p, hp, hc⟩
    · exact ⟨p, .inl (.inl (.inl hp)), hc⟩
    · exact ⟨p, .inl (.inl (.inr hp)), hc⟩
    · exact ⟨p, .inl (.inr hp), hc⟩
    · exact ⟨p, .inr hp, hc⟩
  obtain ⟨p, hp, hfirst, hlast⟩ := hrow
  rcases hrows p hp (by omega) with rfl | rfl | rfl
  · exact .inl (Nat.le_antisymm hlast hfirst)
  · exact .inr (.inl ⟨hfirst, hlast⟩)
  · exact .inr (.inr ⟨hfirst, hlast⟩)

theorem isPlain_of_isPermitted {c : Nat} (hlow : c < 0x80) (h : Permitted.isPermitted c = true) :
    isPlain (Char.ofNat c) = true := by
  have all : ∀ d < 0x80, d = hyphen ∨ (0x30 ≤ d ∧ d ≤ 0x39) ∨ (0x61 ≤ d ∧ d ≤ 0x7A) →
      isPlain (Char.ofNat d) = true := by decide
  exact all c hlow (low_of_isPermitted hlow h)

theorem isContextual_low {c : Nat} (hlow : c < 0x80) : isContextual c = false := by
  have all : ∀ d < 0x80, isContextual d = false := by decide
  exact all c hlow

/-- No context helps an ASCII code point. -/
theorem isPlain_of_checkCodePoint {label before after : List Nat} {c : Nat} (hlow : c < 0x80)
    (h : checkCodePoint label before c after = .ok ()) : isPlain (Char.ofNat c) = true := by
  unfold checkCodePoint at h
  split at h
  · next hp => exact isPlain_of_isPermitted hlow hp
  · have hjoiner : ¬(c = nonJoiner ∨ c = joiner) := by
      simp only [nonJoiner, joiner]
      omega
    rw [if_neg hjoiner, isContextual_low hlow] at h
    cases h

theorem isPlain_of_checkCodePoints {label before rest : List Nat} {c : Nat}
    (h : checkCodePoints label before rest = .ok ()) (hc : c ∈ rest) (hlow : c < 0x80) :
    isPlain (Char.ofNat c) = true := by
  induction rest generalizing before with
  | nil => cases hc
  | cons d rest ih =>
    rw [checkCodePoints] at h
    split at h
    · next hd =>
      rcases List.mem_cons.mp hc with rfl | hc
      · exact isPlain_of_checkCodePoint hlow hd
      · exact ih h hc
    · cases h

theorem isPlain_of_check {label : List Nat} {c : Nat} (h : check label = .ok ()) (hc : c ∈ label)
    (hlow : c < 0x80) : isPlain (Char.ofNat c) = true := by
  unfold check at h
  -- Length, normal form, hyphens and marks come before the code points.
  iterate 4
    split at h
    · cases h
  split at h
  · cases h
  · next hpoints => exact isPlain_of_checkCodePoints hpoints hc hlow

/-! ## Pieces -/

/-- Capitals are letters as well. -/
theorem isPlain_of_toLower {n : Nat} (hlow : n < 0x80)
    (h : isPlain (Char.ofNat n).toLower = true) : isPlain (Char.ofNat n) = true := by
  have all : ∀ m < 0x80, isPlain (Char.ofNat m).toLower = true → isPlain (Char.ofNat m) = true := by
    decide
  exact all n hlow h

/-- A text that the rules let pass is made of plain characters once it is encoded. -/
theorem isPlain_of_mem_encode {label : List Nat} {c : Char} (h : check label = .ok ())
    (hc : c ∈ Punycode.encode label) : isPlain c = true := by
  rcases isPlain_or_of_mem_encode hc with hplain | ⟨n, hn, hlow, rfl⟩
  · exact hplain
  · exact isPlain_of_check h hn hlow

theorem isPlain_of_mem_acePrefix {c : Char} (h : c ∈ acePrefix) : isPlain c = true := by
  have hall : acePrefix.all isPlain = true := by decide
  exact List.all_eq_true.mp hall c h

theorem isPlain_of_mem_ace {label : List Nat} {c : Char} (h : check label = .ok ())
    (hc : c ∈ ace label) : isPlain c = true := by
  rcases List.mem_append.mp hc with hc | hc
  · exact isPlain_of_mem_acePrefix hc
  · exact isPlain_of_mem_encode h hc

/-- What an encoded label stands for keeps the rules. -/
theorem exists_of_checkEncoded {tail : List Char} (h : checkEncoded tail = .ok ()) :
    ∃ label, Punycode.encode label = tail ∧ check label = .ok () := by
  unfold checkEncoded at h
  split at h
  · cases h
  · split at h
    · cases h
    · next label _ =>
      split at h
      · next hencode => exact ⟨label, hencode, h⟩
      · cases h

theorem isPlain_of_checkAscii {label : List Nat} {n : Nat} (h : checkAscii label = .ok ())
    (hn : n ∈ label) (hlow : n < 0x80) : isPlain (Char.ofNat n) = true := by
  apply isPlain_of_toLower hlow
  have hmem : (Char.ofNat n).toLower ∈ (toChars label).map Char.toLower :=
    List.mem_map_of_mem (List.mem_map_of_mem hn)
  unfold checkAscii at h
  dsimp only at h
  split at h
  · next hprefix =>
    -- The label is an encoded one: its beginning is plain, and the rest encodes a label.
    obtain ⟨inner, hencode, hinner⟩ := exists_of_checkEncoded h
    obtain ⟨tail, htail⟩ := List.isPrefixOf_iff_prefix.mp hprefix
    have hace : (toChars label).map Char.toLower = ace inner := by
      rw [ace, hencode, ← htail, List.drop_left]
    rw [hace] at hmem
    exact isPlain_of_mem_ace hinner hmem
  · have hlower : (Char.ofNat n).toLower.toNat < 0x80 := by
      have all : ∀ m < 0x80, (Char.ofNat m).toLower.toNat < 0x80 := by decide
      exact all n hlow
    have hplain := isPlain_of_check h (List.mem_map_of_mem hmem) hlower
    rwa [Char.ofNat_toNat] at hplain

/-- An encoded piece is made of letters, digits and hyphens. -/
theorem isPlain_of_mem_encodePiece {label : List Nat} {encoded : List Char} {c : Char}
    (h : encodePiece label = .ok encoded) (hc : c ∈ encoded) : isPlain c = true := by
  rw [encodePiece_eq h] at hc
  unfold encodePiece at h
  by_cases ha : isAscii label
  · simp only [ha, if_true] at h hc
    cases hcheck : checkAscii label with
    | error e =>
      rw [hcheck] at h
      cases h
    | ok u =>
      obtain ⟨n, hn, rfl⟩ := List.mem_map.mp hc
      exact isPlain_of_checkAscii hcheck hn (Nat.blt_eq.mp (List.all_eq_true.mp ha n hn))
  · simp only [ha] at h hc
    cases hcheck : check label with
    | error e =>
      rw [hcheck] at h
      cases h
    | ok u => exact isPlain_of_mem_ace hcheck hc

/-- Every label that is not empty has an encoded piece, and every piece with something in it comes
from a label. -/
theorem mem_encodePieces {labels : List (List Nat)} {pieces : List (List Char)}
    (h : encodePieces labels = .ok pieces) :
    (∀ label ∈ labels, label ≠ [] → ∃ piece ∈ pieces, encodePiece label = .ok piece) ∧
      ∀ piece ∈ pieces, piece ≠ [] → ∃ label ∈ labels, encodePiece label = .ok piece := by
  induction labels using encodePieces.induct generalizing pieces with
  | case1 =>
    cases h
    simp
  | case2 =>
    cases h
    simp
  | case3 label rest hne e he =>
    simp only [encodePieces, he] at h
    cases h
  | case4 label rest hne encoded he e hr ih =>
    simp only [encodePieces, he, hr] at h
    cases h
  | case5 label rest hne encoded he rest' hr ih =>
    simp only [encodePieces, he, hr, Except.ok.injEq] at h
    subst h
    obtain ⟨hto, hfrom⟩ := ih hr
    constructor
    · intro l hl hln
      rcases List.mem_cons.mp hl with rfl | hl
      · exact ⟨encoded, List.mem_cons_self, he⟩
      · obtain ⟨piece, hpiece, hp⟩ := hto l hl hln
        exact ⟨piece, List.mem_cons_of_mem _ hpiece, hp⟩
    · intro piece hpiece hpn
      rcases List.mem_cons.mp hpiece with rfl | hpiece
      · exact ⟨label, List.mem_cons_self, he⟩
      · obtain ⟨l, hl, hp⟩ := hfrom piece hpiece hpn
        exact ⟨l, List.mem_cons_of_mem _ hl, hp⟩

/-! ## Whole labels -/

/-- A strictly encoded label is made of letters, digits, hyphens and dots. -/
theorem isPlain_of_mem_encodeStrict {label : List Nat} {name : List Char} {c : Char}
    (h : encodeStrict label = .ok name) (hc : c ∈ name) : isPlain c = true ∨ c = '.' := by
  obtain ⟨mapped, pieces, -, -, hp, rfl⟩ := encodeStrict_cases h
  rcases Text.mem_joinWith hc with rfl | ⟨piece, hpiece, hc⟩
  · exact .inr rfl
  · obtain ⟨l, -, hl⟩ := (mem_encodePieces hp).2 piece hpiece (List.ne_nil_of_mem hc)
    exact .inl (isPlain_of_mem_encodePiece hl hc)

theorem mem_encode_of_low {text : List Nat} {n : Nat} (hn : n ∈ text)
    (hlow : n < Punycode.basicLimit) : Char.ofNat n ∈ Punycode.encode text := by
  have hbasic : n ∈ Punycode.basic text := List.mem_filter.mpr ⟨hn, decide_eq_true hlow⟩
  unfold Punycode.encode
  split
  · next hnil =>
    rw [hnil] at hbasic
    cases hbasic
  · exact List.mem_append_left _ (List.mem_map_of_mem hbasic)

/-- How a mapped text is written: as it is, or encoded where it must be. -/
def written (label : List Nat) : List Char := if isAscii label then toChars label else ace label

/-- What is ASCII in a text is kept when it is written. -/
theorem mem_written_of_low {label : List Nat} {n : Nat} (hn : n ∈ label) (hlow : n < 0x80) :
    Char.ofNat n ∈ written label := by
  unfold written
  split
  · exact List.mem_map_of_mem hn
  · exact List.mem_append_right _ (mem_encode_of_low hn hlow)

/-- Punycode keeps the ASCII code points of a text in their order, without what stands between. -/
theorem basic_prefix_encode (text : List Nat) :
    (Punycode.basic text).map Char.ofNat <+: Punycode.encode text := by
  unfold Punycode.encode
  split
  · next hnil => simp [hnil]
  · exact List.prefix_append _ _

/-- So full stops that stand together are still together. -/
theorem pair_infix_written {label : List Nat} (h : [fullStop, fullStop] <:+: label) :
    ['.', '.'] <:+: written label := by
  unfold written
  split
  · exact h.map Char.ofNat
  · have hbasic : ['.', '.'] <:+: (Punycode.basic label).map Char.ofNat :=
      (h.filter (· < Punycode.basicLimit)).map Char.ofNat
    exact (hbasic.trans (basic_prefix_encode label).isInfix).trans
      (List.suffix_append acePrefix _).isInfix

theorem written_nil : written [] = [] := rfl

/-- Writing adds letters, digits and hyphens to what is ASCII in a text. -/
theorem isPlain_or_of_mem_written {label : List Nat} {c : Char} (h : c ∈ written label) :
    isPlain c = true ∨ ∃ n ∈ label, n < 0x80 ∧ c = Char.ofNat n := by
  unfold written at h
  split at h
  · next hascii =>
    obtain ⟨n, hn, rfl⟩ := List.mem_map.mp h
    exact .inr ⟨n, hn, Nat.blt_eq.mp (List.all_eq_true.mp hascii n hn), rfl⟩
  · rcases List.mem_append.mp h with h | h
    · exact .inl (isPlain_of_mem_acePrefix h)
    · exact isPlain_or_of_mem_encode h

/-- A leniently encoded label is its mapped form, written. -/
theorem exists_of_encodeLenient {label : List Nat} {encoded : List Char}
    (h : encodeLenient label = .ok encoded) :
    ∃ mapped, map label = .ok mapped ∧ encoded = written mapped := by
  unfold encodeLenient at h
  split at h
  · cases h
  · next mapped hm => exact ⟨mapped, hm, (Except.ok.inj h).symm⟩

/-- Only full stops are taken out of a mapped label, to part its pieces. -/
theorem mem_encodeStrict {label mapped : List Nat} {name : List Char} {n : Nat}
    (h : encodeStrict label = .ok name) (hm : map label = .ok mapped) (hn : n ∈ mapped)
    (hlow : n < 0x80) (hstop : n ≠ fullStop) : Char.ofNat n ∈ name := by
  obtain ⟨mapped', pieces, hm', -, hp, rfl⟩ := encodeStrict_cases h
  obtain rfl : mapped = mapped' := Except.ok.inj (hm.symm.trans hm')
  rw [← Text.joinWith_splitOn fullStop mapped] at hn
  rcases Text.mem_joinWith hn with rfl | ⟨l, hl, hn⟩
  · exact absurd rfl hstop
  · obtain ⟨piece, hpiece, he⟩ := (mem_encodePieces hp).1 l hl (List.ne_nil_of_mem hn)
    apply Text.mem_joinWith_of_mem hpiece
    rw [encodePiece_eq he]
    exact mem_written_of_low hn hlow

end Accounts.Label
