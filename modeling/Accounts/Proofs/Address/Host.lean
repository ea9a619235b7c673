import Accounts.Proofs.Address.Labels
import Accounts.Proofs.Label.FullStop

/-!
The host of an address. An address has a host of two labels, but it is the text as it was written
that is split at its dots. A label with another form of the full stop is mapped only afterwards and
falls apart then, so the encoded host has two labels exactly when no such character was written.
-/
namespace Accounts.Address

/-- Two labels with a dot between them, neither of them empty. -/
def IsTwoLabels (host : List Char) : Prop :=
  ∃ domain extension, host = domain ++ '.' :: extension ∧ domain ≠ [] ∧ extension ≠ [] ∧
    '.' ∉ domain ∧ '.' ∉ extension

/-- Another form of the full stop than the dot. -/
def IsOtherStop (c : Char) : Prop := c.toNat ∈ Label.otherStops

instance (c : Char) : Decidable (IsOtherStop c) := inferInstanceAs (Decidable (_ ∈ _))

theorem labels?_eq_some_iff {host domain extension : List Char} :
    labels? host = some (domain, extension) ↔
      host = domain ++ '.' :: extension ∧ '.' ∉ domain ∧ '.' ∉ extension := by
  rw [← Text.splitOn_eq_pair_iff]
  unfold labels?
  constructor
  · intro h
    split at h
    · next heq =>
      cases h
      exact heq
    · cases h
  · intro h
    rw [h]

/-- Joined labels are two again when neither holds a dot and neither is empty. -/
theorem isTwoLabels_join_iff {first second : List Char} :
    IsTwoLabels (first ++ '.' :: second) ↔
      first ≠ [] ∧ second ≠ [] ∧ '.' ∉ first ∧ '.' ∉ second := by
  constructor
  · rintro ⟨domain, extension, heq, hd, he, hdd, hed⟩
    obtain ⟨rfl, rfl⟩ := Text.append_cons_inj heq hdd hed
    exact ⟨hd, he, hdd, hed⟩
  · rintro ⟨hf, hs, hfd, hsd⟩
    exact ⟨first, second, rfl, hf, hs, hfd, hsd⟩

/-- The strict form of a label has a dot when the label holds another form of the full stop. -/
theorem encodeLabel_dot {label encoded : List Char} (hne : label ≠ []) (hd : '.' ∉ label)
    (h : encodeLabel .strict label = .ok encoded) :
    ('.' ∈ encoded ↔ ∃ c ∈ label, IsOtherStop c) ∧ ('.' ∉ encoded → encoded ≠ []) := by
  unfold encodeLabel at h
  split at h
  · next ha =>
    cases h
    refine ⟨?_, fun _ => hne⟩
    have hno : ¬∃ c ∈ label, IsOtherStop c := by
      rintro ⟨c, hc, hstop⟩
      have hlow : c.toNat < 0x80 := Nat.blt_eq.mp (List.all_eq_true.mp ha c hc)
      simp only [IsOtherStop, Label.otherStops, List.mem_cons, List.not_mem_nil, or_false] at hstop
      omega
    exact iff_of_false hd hno
  · obtain ⟨hdot, hempty⟩ := Label.encodeStrict_dot h
    refine ⟨hdot.trans ?_, hempty⟩
    constructor
    · rintro ⟨n, hn, hstop⟩
      obtain ⟨c, hc, rfl⟩ := List.mem_map.mp hn
      rcases hstop with hstop | hstop
      · have hcd : c = '.' := Char.toNat_inj.mp hstop
        exact absurd (hcd ▸ hc) hd
      · exact ⟨c, hc, hstop⟩
    · rintro ⟨c, hc, hstop⟩
      exact ⟨c.toNat, List.mem_map_of_mem hc, .inr hstop⟩

/-- The encoded form of two labels. -/
theorem encode_pair {domain extension encoded : List Char} (hd : '.' ∉ domain)
    (he : '.' ∉ extension) (h : encode .strict (domain ++ '.' :: extension) = .ok encoded) :
    ∃ first second, encodeLabel .strict domain = .ok first ∧
      encodeLabel .strict extension = .ok second ∧ encoded = first ++ '.' :: second := by
  obtain ⟨first, second, hf, hs, rfl⟩ := encode_append_eq_ok_iff.mp h
  rw [encode_label hd] at hf
  rw [encode_label he] at hs
  exact ⟨first, second, hf, hs, rfl⟩

/-- What an address is made of. -/
theorem parts_of_accepts {text : List Char} (h : accepts text = true) :
    ∃ localPart domain extension encoded,
      parts? text = some (localPart, domain ++ '.' :: extension) ∧
      domain ≠ [] ∧ extension ≠ [] ∧ '.' ∉ domain ∧ '.' ∉ extension ∧
      encode .strict (domain ++ '.' :: extension) = .ok encoded := by
  unfold accepts at h
  cases hp : parts? text with
  | none =>
    rw [hp] at h
    cases h
  | some p =>
    obtain ⟨localPart, host⟩ := p
    rw [hp] at h
    obtain ⟨hfits, henc⟩ := Bool.and_eq_true_iff.mp h
    obtain ⟨-, hlabels⟩ := Bool.and_eq_true_iff.mp hfits
    cases hl : labels? host with
    | none =>
      rw [hl] at hlabels
      cases hlabels
    | some q =>
      obtain ⟨domain, extension⟩ := q
      rw [hl] at hlabels
      simp only [hasLength, Bool.and_eq_true, Bool.not_eq_true', List.isEmpty_eq_false_iff]
        at hlabels
      obtain ⟨rfl, hd, he⟩ := labels?_eq_some_iff.mp hl
      cases hs : encode .strict (domain ++ '.' :: extension) with
      | error e =>
        rw [hs] at henc
        cases hx : encode .lenient localPart <;> simp [hx] at henc
      | ok encoded =>
        exact ⟨localPart, domain, extension, encoded, rfl, hlabels.1.1, hlabels.2.1, hd, he, hs⟩

/-- The host of an address is encoded, and its encoded form has two labels, neither of them empty,
exactly when no other form of the full stop was written in it. -/
theorem host_isTwoLabels_iff {text : String} (h : isEmail text = true) :
    ∃ localPart host encoded, parts? text.toList = some (localPart, host) ∧
      encode .strict host = .ok encoded ∧
      (IsTwoLabels encoded ↔ ∀ c ∈ host, ¬IsOtherStop c) := by
  obtain ⟨localPart, domain, extension, encoded, hp, hdne, hene, hd, he, henc⟩ :=
    parts_of_accepts h
  refine ⟨localPart, domain ++ '.' :: extension, encoded, hp, henc, ?_⟩
  obtain ⟨first, second, hf, hs, rfl⟩ := encode_pair hd he henc
  obtain ⟨hfdot, hfempty⟩ := encodeLabel_dot hdne hd hf
  obtain ⟨hsdot, hsempty⟩ := encodeLabel_dot hene he hs
  rw [isTwoLabels_join_iff]
  constructor
  · rintro ⟨-, -, hnf, hns⟩ c hc hstop
    rcases List.mem_append.mp hc with hc | hc
    · exact hnf (hfdot.mpr ⟨c, hc, hstop⟩)
    · rcases List.mem_cons.mp hc with rfl | hc
      · revert hstop
        decide
      · exact hns (hsdot.mpr ⟨c, hc, hstop⟩)
  · intro hno
    have hnf : '.' ∉ first := by
      intro hmem
      obtain ⟨c, hc, hstop⟩ := hfdot.mp hmem
      exact hno c (List.mem_append_left _ hc) hstop
    have hns : '.' ∉ second := by
      intro hmem
      obtain ⟨c, hc, hstop⟩ := hsdot.mp hmem
      exact hno c (List.mem_append_right _ (List.mem_cons_of_mem _ hc)) hstop
    exact ⟨hfempty hnf, hsempty hns, hnf, hns⟩

/-- A fullwidth letter is mapped to its ASCII form and leaves the two labels as they are. -/
theorem host_isTwoLabels_fullwidth :
    ∃ encoded, encode .strict "\uff41.c".toList = .ok encoded ∧ IsTwoLabels encoded := by
  have haddress : isEmail "x@\uff41.c" = true := by decide +kernel
  obtain ⟨localPart, host, encoded, hp, henc, hiff⟩ := host_isTwoLabels_iff haddress
  have hparts : parts? "x@\uff41.c".toList = some ("x".toList, "\uff41.c".toList) := by
    decide +kernel
  have hno : ∀ c ∈ "\uff41.c".toList, ¬IsOtherStop c := by
    intro c hc
    have hcs : c ∈ ['\uff41', '.', 'c'] := hc
    simp only [List.mem_cons, List.not_mem_nil, or_false] at hcs
    rcases hcs with rfl | rfl | rfl
    all_goals decide
  rw [hparts] at hp
  cases hp
  exact ⟨encoded, henc, hiff.mpr hno⟩

/-- With an ideographic full stop in it a host of two labels is encoded as one of three. -/
theorem host_threeLabels :
    isEmail "x@a\u3002b.c" = true ∧
      parts? "x@a\u3002b.c".toList = some ("x".toList, "a\u3002b.c".toList) ∧
      encode .strict "a\u3002b.c".toList = .ok "a.b.c".toList ∧ ¬IsTwoLabels "a.b.c".toList := by
  have henc : encode .strict "a\u3002b.c".toList = .ok "a.b.c".toList := by
    have h : (encode .strict "a\u3002b.c".toList).toOption = some "a.b.c".toList := by
      decide +kernel
    cases hx : encode .strict "a\u3002b.c".toList with
    | error e =>
      rw [hx] at h
      cases h
    | ok encoded =>
      rw [hx] at h
      exact congrArg Except.ok (Option.some.inj h)
  refine ⟨by decide +kernel, by decide +kernel, henc, ?_⟩
  intro htwo
  have hjoin : IsTwoLabels ("a".toList ++ '.' :: "b.c".toList) := htwo
  have hsecond := (isTwoLabels_join_iff.mp hjoin).2.2.2
  revert hsecond
  decide

end Accounts.Address
