import Accounts.Proofs.Address.Separators

/-!
The case of ASCII letters. A label in ASCII keeps its capitals, and any other label loses them when
it is mapped, so whether encoding changes a letter depends on its neighbours. Whether a text is an
address does not depend on the case of its letters: every check is blind to it, and so is mapping,
which replaces capitals before anything is composed.
-/
namespace Accounts.Address

/-- The texts differ in the case of ASCII letters only. -/
def SameButCase (s t : String) : Prop := s.toList.map Char.toLower = t.toList.map Char.toLower

instance (s t : String) : Decidable (SameButCase s t) := inferInstanceAs (Decidable (_ = _))

/-- The text in small letters, as far as ASCII goes. -/
def lowered (text : List Char) : List Char := text.map Char.toLower

/-! ## Characters -/

/-- Beyond ASCII nothing is a capital. -/
theorem toLower_of_not_ascii {c : Char} (h : isAsciiChar c = false) : c.toLower = c := by
  have hhigh : ¬c.toNat < 0x80 := by
    intro hlow
    rw [isAsciiChar, Nat.blt_eq.mpr hlow] at h
    cases h
  refine dif_neg ?_
  rintro ⟨-, hz⟩
  have hle : c.toNat ≤ 0x5A := UInt32.le_iff_toNat_le.mp hz
  omega

/-- A relation of characters to their small forms has to be looked at in ASCII only. -/
theorem toLower_cases {P : Char → Char → Prop}
    (hascii : ∀ n < 0x80, P (Char.ofNat n) (Char.ofNat n).toLower)
    (hother : ∀ c, isAsciiChar c = false → P c c) (c : Char) : P c c.toLower := by
  cases h : isAsciiChar c with
  | true => exact ascii_forall (P := fun d => P d d.toLower) hascii h
  | false =>
    rw [toLower_of_not_ascii h]
    exact hother c h

theorem toLower_toLower (c : Char) : c.toLower.toLower = c.toLower :=
  toLower_cases (P := fun _ d => d.toLower = d) (by decide)
    (fun _ h => toLower_of_not_ascii h) c

theorem isAsciiChar_toLower (c : Char) : isAsciiChar c.toLower = isAsciiChar c :=
  toLower_cases (P := fun c d => isAsciiChar d = isAsciiChar c) (by decide) (fun _ _ => rfl) c

theorem isAtomChar_toLower (c : Char) : isAtomChar c.toLower = isAtomChar c :=
  toLower_cases (P := fun c d => isAtomChar d = isAtomChar c) (by decide +kernel)
    (fun _ _ => rfl) c

theorem isBlank_toLower (c : Char) : Text.isBlank c.toLower = Text.isBlank c :=
  toLower_cases (P := fun c d => Text.isBlank d = Text.isBlank c) (by decide +kernel)
    (fun _ _ => rfl) c

theorem toLower_eq_at_iff (c : Char) : c.toLower = '@' ↔ c = '@' :=
  toLower_cases (P := fun c d => d = '@' ↔ c = '@') (by decide) (fun _ _ => Iff.rfl) c

theorem toLower_eq_dot_iff (c : Char) : c.toLower = '.' ↔ c = '.' :=
  toLower_cases (P := fun c d => d = '.' ↔ c = '.') (by decide) (fun _ _ => Iff.rfl) c

/-- Mapping replaces a capital by what it leaves a small letter as. -/
theorem mapCodePoint_toLower (c : Char) :
    Label.mapCodePoint c.toLower.toNat = Label.mapCodePoint c.toNat :=
  toLower_cases (P := fun c d => Label.mapCodePoint d.toNat = Label.mapCodePoint c.toNat)
    (by decide +kernel) (fun _ _ => rfl) c

/-! ## Labels -/

theorem length_lowered (text : List Char) : (lowered text).length = text.length := List.length_map _

theorem lowered_lowered (text : List Char) : lowered (lowered text) = lowered text := by
  rw [lowered, lowered, List.map_map]
  exact List.map_congr_left fun c _ => toLower_toLower c

theorem all_isAsciiChar_lowered (label : List Char) :
    (lowered label).all isAsciiChar = label.all isAsciiChar := by
  rw [lowered, List.all_map]
  exact congrArg label.all (funext isAsciiChar_toLower)

theorem mapAll_lowered (label : List Char) :
    Label.mapAll ((lowered label).map Char.toNat) = Label.mapAll (label.map Char.toNat) := by
  induction label with
  | nil => rfl
  | cons c cs ih =>
    simp only [lowered, List.map_cons, Label.mapAll, mapCodePoint_toLower] at ih ⊢
    rw [ih]

theorem map_lowered (label : List Char) :
    Label.map ((lowered label).map Char.toNat) = Label.map (label.map Char.toNat) := by
  simp only [Label.map, mapAll_lowered, List.length_map, length_lowered]

/-- Results that are the same under `f` are the same error, or values that are the same under `f`. -/
theorem alike_cases {α ε : Type} {f : α → α} {r s : Except ε α} (h : r.map f = s.map f) :
    (∃ e, r = .error e ∧ s = .error e) ∨ ∃ a b, r = .ok a ∧ s = .ok b ∧ f a = f b := by
  cases r with
  | error d =>
    cases s with
    | error e =>
      obtain rfl : d = e := Except.error.inj h
      exact .inl ⟨d, rfl, rfl⟩
    | ok b => cases h
  | ok a =>
    cases s with
    | error e => cases h
    | ok b => exact .inr ⟨a, b, rfl, rfl, Except.ok.inj h⟩

variable (mode : Mode)

/-- A label in small letters is encoded as the label is, but for the case of letters. -/
theorem encodeLabel_lowered (label : List Char) :
    (encodeLabel mode (lowered label)).map lowered = (encodeLabel mode label).map lowered := by
  simp only [encodeLabel, all_isAsciiChar_lowered]
  split
  · exact congrArg Except.ok (lowered_lowered label)
  · cases mode with
    | strict => simp only [Label.encodeStrict, map_lowered]
    | lenient => simp only [Label.encodeLenient, map_lowered]

theorem encodeLabels_lowered (labels : List (List Char)) :
    (encodeLabels mode (labels.map lowered)).map (List.map lowered) =
      (encodeLabels mode labels).map (List.map lowered) := by
  induction labels with
  | nil => rfl
  | cons label rest ih =>
    rw [List.map_cons, encodeLabels, encodeLabels]
    rcases alike_cases (encodeLabel_lowered mode label) with ⟨e, hl, hr⟩ | ⟨a, b, hl, hr, hab⟩
    · rw [hl, hr]
    · rcases alike_cases ih with ⟨e, hls, hrs⟩ | ⟨as, bs, hls, hrs, habs⟩
      · simp only [hl, hr, hls, hrs]
      · simp only [hl, hr, hls, hrs, Except.map, List.map_cons, hab, habs]

theorem splitOn_lowered {sep : Char} (h : ∀ c : Char, c.toLower = sep ↔ c = sep)
    (text : List Char) : Text.splitOn sep (lowered text) = (Text.splitOn sep text).map lowered :=
  Text.splitOn_map h text

theorem lowered_joinWith (labels : List (List Char)) :
    lowered (Text.joinWith '.' labels) = Text.joinWith '.' (labels.map lowered) :=
  (Text.joinWith_map ((toLower_eq_dot_iff '.').mpr rfl) labels).symm

/-- A text in small letters is encoded as the text is, but for the case of letters. -/
theorem encode_lowered (text : List Char) :
    (encode mode (lowered text)).map lowered = (encode mode text).map lowered := by
  rw [encode, encode, splitOn_lowered toLower_eq_dot_iff]
  rcases alike_cases (encodeLabels_lowered mode (Text.splitOn '.' text)) with
    ⟨e, hl, hr⟩ | ⟨as, bs, hl, hr, habs⟩
  · rw [hl, hr]
  · rw [hl, hr]
    refine congrArg Except.ok ?_
    rw [lowered_joinWith, lowered_joinWith, habs]

/-! ## Checks -/

theorem isLocalPart_lowered (text : List Char) : isLocalPart (lowered text) = isLocalPart text := by
  rw [Bool.eq_iff_iff, isLocalPart_iff_atoms, isLocalPart_iff_atoms,
    splitOn_lowered toLower_eq_dot_iff]
  refine and_congr (not_congr ?_) ?_
  · simp [lowered]
  · simp only [lowered, List.forall_mem_map, ← isAtomChar_iff, isAtomChar_toLower,
      toLower_eq_dot_iff]

theorem isHost_lowered (text : List Char) : isHost (lowered text) = isHost text := by
  rw [isHost, isHost]
  congr 1
  · rw [lowered, List.all_map]
    exact congrArg text.all (funext fun c => congrArg not (isBlank_toLower c))
  · rw [Bool.eq_iff_iff, List.contains_iff_mem, List.contains_iff_mem, lowered, ← List.map_tail,
      ← List.map_dropLast, List.mem_map]
    constructor
    · rintro ⟨c, hc, hdot⟩
      exact (toLower_eq_dot_iff c).mp hdot ▸ hc
    · exact fun hc => ⟨'.', hc, (toLower_eq_dot_iff '.').mpr rfl⟩

theorem hasLength_lowered (limit : Nat) (text : List Char) :
    hasLength limit (lowered text) = hasLength limit text := by
  rw [Bool.eq_iff_iff, hasLength_iff, hasLength_iff, length_lowered]

theorem parts?_lowered (text : List Char) :
    parts? (lowered text) = (parts? text).map (Prod.map lowered lowered) := by
  rw [parts?, parts?, splitOn_lowered toLower_eq_at_iff]
  match Text.splitOn '@' text with
  | [] | [_] | [_, _] | _ :: _ :: _ :: _ => rfl

theorem labels?_lowered (host : List Char) :
    labels? (lowered host) = (labels? host).map (Prod.map lowered lowered) := by
  rw [labels?, labels?, splitOn_lowered toLower_eq_dot_iff]
  match Text.splitOn '.' host with
  | [] | [_] | [_, _] | _ :: _ :: _ :: _ => rfl

theorem fits_lowered (localPart host : List Char) :
    fits (lowered localPart) (lowered host) = fits localPart host := by
  rw [fits, fits, hasLength_lowered, labels?_lowered]
  cases labels? host with
  | none => rfl
  | some p => simp [hasLength_lowered]

/-! ## Addresses -/

/-- A text is an address when it is one in small letters. -/
theorem accepts_lowered (text : List Char) : accepts (lowered text) = accepts text := by
  rw [accepts, accepts, parts?_lowered]
  cases parts? text with
  | none => rfl
  | some p =>
    obtain ⟨localPart, host⟩ := p
    simp only [Option.map_some, Prod.map_apply, fits_lowered]
    congr 1
    rcases alike_cases (encode_lowered .lenient localPart) with ⟨e, hl, hr⟩ | ⟨a, b, hl, hr, hab⟩
    · rw [hl, hr]
    · rcases alike_cases (encode_lowered .strict host) with ⟨e, hls, hrs⟩ | ⟨c, d, hls, hrs, hcd⟩
      · rw [hl, hr, hls, hrs]
      · simp only [hl, hr, hls, hrs]
        rw [← isLocalPart_lowered a, ← isHost_lowered c, hab, hcd, isLocalPart_lowered,
          isHost_lowered]

/-- Of two texts that differ in the case of ASCII letters only, either both are addresses or
neither. -/
theorem isEmail_sameButCase {s t : String} (h : SameButCase s t) : isEmail s = isEmail t := by
  calc isEmail s = accepts (lowered s.toList) := (accepts_lowered s.toList).symm
    _ = accepts (lowered t.toList) := congrArg accepts h
    _ = isEmail t := accepts_lowered t.toList

/-- Letters beside a mark, in a label with an umlaut and in labels in ASCII. -/
theorem isEmail_sameButCase_marked :
    SameButCase "BE\u0301la+X@B\u00fccher.De" "be\u0301LA+x@b\u00fcCHER.dE" ∧
      isEmail "be\u0301LA+x@b\u00fcCHER.dE" = true := by
  have hsame : SameButCase "BE\u0301la+X@B\u00fccher.De" "be\u0301LA+x@b\u00fcCHER.dE" := by
    decide +kernel
  have haddress : isEmail "BE\u0301la+X@B\u00fccher.De" = true := by decide +kernel
  exact ⟨hsame, (isEmail_sameButCase hsame).symm.trans haddress⟩

end Accounts.Address
