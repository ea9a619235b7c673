import Accounts.Proofs.Address.Separators

/-!
Dots in the local part. It is split at its dots, and what its labels are encoded as is looked at. In
there the ASCII characters of a label stand in front, whatever stood before them. So the check sees
two full stops together that mapping brings in, but not one for the first or the last character of a
label that is not ASCII all the same: an address has an empty atom in its mapped local part exactly
when there is such a label.
-/
namespace Accounts.Address

open Label (fullStop)

/-- What a label of a local part is encoded from: an ASCII one as it is, any other mapped. -/
def form (label : List Char) : Except LabelError (List Nat) :=
  if label.all isAsciiChar then .ok (label.map Char.toNat) else Label.map (label.map Char.toNat)

/-- The mapped form of a local part. -/
def mappedLocal (localPart : List Char) : Except LabelError (List Nat) :=
  match (Text.splitOn '.' localPart).mapM form with
  | .error e => .error e
  | .ok forms => .ok (Text.joinWith fullStop forms)

/-- The first or the last character that mapping does not drop is another form of the full stop. -/
def HasStopAtEnd (label : List Char) : Prop :=
  ∃ n ∈ Label.otherStops, (Label.kept (label.map Char.toNat)).head? = some n ∨
    (Label.kept (label.map Char.toNat)).getLast? = some n

instance (label : List Char) : Decidable (HasStopAtEnd label) :=
  inferInstanceAs (Decidable (∃ n ∈ _, _))

/-! ## One label -/

theorem written_ascii {label : List Char} (h : label.all isAsciiChar = true) :
    Label.written (label.map Char.toNat) = label := by
  have hascii : Label.isAscii (label.map Char.toNat) = true := by
    rw [Label.isAscii, List.all_map]
    exact h
  rw [Label.written, if_pos hascii, Label.toChars, List.map_map]
  simp [Function.comp_def, Char.ofNat_toNat]

theorem exists_form {label encoded : List Char} (h : encodeLabel .lenient label = .ok encoded) :
    ∃ f, form label = .ok f ∧ encoded = Label.written f := by
  unfold encodeLabel at h
  unfold form
  split at h
  · next hascii =>
    cases h
    rw [if_pos hascii]
    exact ⟨_, rfl, (written_ascii hascii).symm⟩
  · next hascii =>
    rw [if_neg hascii]
    exact Label.exists_of_encodeLenient h

/-- A dot has no other form in ASCII. -/
theorem not_hasStopAtEnd_of_ascii {label : List Char} (h : label.all isAsciiChar = true) :
    ¬HasStopAtEnd label := by
  rintro ⟨n, hn, hend⟩
  have hmem : n ∈ Label.kept (label.map Char.toNat) :=
    hend.elim List.mem_of_head? List.mem_of_getLast?
  obtain ⟨c, hc, rfl⟩ := List.mem_map.mp (List.mem_of_mem_filter hmem)
  have hlow : c.toNat < 0x80 := Nat.blt_eq.mp (List.all_eq_true.mp h c hc)
  simp only [Label.otherStops, List.mem_cons, List.not_mem_nil, or_false] at hn
  omega

/-- The form of a label without dots has a full stop at an end when the label has one there. -/
theorem ends_form_iff {label : List Char} {f : List Nat} (hdot : '.' ∉ label)
    (h : form label = .ok f) :
    (f.head? = some fullStop ∨ f.getLast? = some fullStop) ↔ HasStopAtEnd label := by
  have hstop : fullStop ∉ label.map Char.toNat := by
    intro hmem
    obtain ⟨c, hc, hcs⟩ := List.mem_map.mp hmem
    have hcd : c = '.' := Char.toNat_inj.mp hcs
    exact hdot (hcd ▸ hc)
  unfold form at h
  split at h
  · next hascii =>
    cases h
    refine iff_of_false ?_ (not_hasStopAtEnd_of_ascii hascii)
    exact fun hend => hstop (hend.elim List.mem_of_head? List.mem_of_getLast?)
  · obtain ⟨hhead, hlast⟩ := Label.ends_map_iff h
    have hother {n : Nat} (hn : n ∈ Label.kept (label.map Char.toNat)) :
        Label.IsStop n ↔ n ∈ Label.otherStops := by
      refine or_iff_right ?_
      rintro rfl
      exact hstop (List.mem_of_mem_filter hn)
    rw [hhead, hlast]
    constructor
    · rintro (⟨n, hn, hs⟩ | ⟨n, hn, hs⟩)
      · exact ⟨n, (hother (List.mem_of_head? hn)).mp hs, .inl hn⟩
      · exact ⟨n, (hother (List.mem_of_getLast? hn)).mp hs, .inr hn⟩
    · rintro ⟨n, hs, hn | hn⟩
      · exact .inl ⟨n, hn, .inr hs⟩
      · exact .inr ⟨n, hn, .inr hs⟩

/-- When no atom of the encoded form is empty, an empty one of the form is at an end of it. -/
theorem nil_mem_splitOn_form_iff {label encoded : List Char} (hdot : '.' ∉ label)
    (h : encodeLabel .lenient label = .ok encoded) (hne : [] ∉ Text.splitOn '.' encoded) :
    ∃ f, form label = .ok f ∧ f ≠ [] ∧
      ([] ∈ Text.splitOn fullStop f ↔ HasStopAtEnd label) := by
  obtain ⟨f, hf, rfl⟩ := exists_form h
  rw [Text.nil_mem_splitOn_iff] at hne
  have hfne : f ≠ [] := by
    rintro rfl
    exact hne (.inl Label.written_nil)
  refine ⟨f, hf, hfne, ?_⟩
  rw [Text.nil_mem_splitOn_iff, ← ends_form_iff hdot hf]
  constructor
  · rintro (hnil | hhead | hlast | hpair)
    · exact absurd hnil hfne
    · exact .inl hhead
    · exact .inr hlast
    · exact absurd (.inr (.inr (.inr (Label.pair_infix_written hpair)))) hne
  · rintro (hhead | hlast)
    · exact .inr (.inl hhead)
    · exact .inr (.inr (.inl hlast))

/-! ## The local part -/

theorem exists_mapM {α β ε : Type} {f : α → Except ε β} {P : α → β → Prop} {as : List α}
    (h : ∀ a ∈ as, ∃ b, f a = .ok b ∧ P a b) :
    ∃ bs, as.mapM f = .ok bs ∧ List.Forall₂ P as bs := by
  induction as with
  | nil => exact ⟨[], rfl, .nil⟩
  | cons a as ih =>
    obtain ⟨b, hb, hp⟩ := h a List.mem_cons_self
    obtain ⟨bs, hbs, hps⟩ := ih fun c hc => h c (List.mem_cons_of_mem a hc)
    refine ⟨b :: bs, ?_, .cons hp hps⟩
    rw [List.mapM_cons, hb, hbs]
    rfl

/-- Where the encoded form of a local part has no empty atom, its mapped form has one exactly when
some label has another form of the full stop at an end. -/
theorem nil_mem_splitOn_mappedLocal_iff {localPart encoded : List Char}
    (h : encode .lenient localPart = .ok encoded) (hne : [] ∉ Text.splitOn '.' encoded) :
    ∃ m, mappedLocal localPart = .ok m ∧ m ≠ [] ∧
      ([] ∈ Text.splitOn fullStop m ↔ ∃ label ∈ Text.splitOn '.' localPart, HasStopAtEnd label) := by
  obtain ⟨labels, rfl, hlabels⟩ := exists_of_encode h
  have hlabels_ne : labels ≠ [] := by
    rintro rfl
    exact Text.splitOn_ne_nil '.' localPart (List.forall₂_nil_right_iff.mp hlabels)
  rw [Text.splitOn_joinWith_eq_flatMap '.' hlabels_ne] at hne
  have hform : ∀ label ∈ Text.splitOn '.' localPart, ∃ f, form label = .ok f ∧ f ≠ [] ∧
      ([] ∈ Text.splitOn fullStop f ↔ HasStopAtEnd label) := by
    intro label hlabel
    obtain ⟨e, he, hencode⟩ := exists_right_of_forall₂ hlabels hlabel
    exact nil_mem_splitOn_form_iff (Text.notMem_of_mem_splitOn hlabel) hencode
      fun hnil => hne (List.mem_flatMap.mpr ⟨e, he, hnil⟩)
  obtain ⟨forms, hforms, hends⟩ := exists_mapM hform
  have hforms_ne : forms ≠ [] := by
    rintro rfl
    exact Text.splitOn_ne_nil '.' localPart (List.forall₂_nil_right_iff.mp hends)
  refine ⟨Text.joinWith fullStop forms, by rw [mappedLocal, hforms], ?_, ?_⟩
  · obtain ⟨f, hf⟩ := List.exists_mem_of_ne_nil forms hforms_ne
    obtain ⟨label, -, hfne, -⟩ := exists_right_of_forall₂ hends.flip hf
    obtain ⟨n, hn⟩ := List.exists_mem_of_ne_nil f hfne
    exact List.ne_nil_of_mem (Text.mem_joinWith_of_mem hf hn)
  rw [Text.splitOn_joinWith_eq_flatMap fullStop hforms_ne, List.mem_flatMap]
  constructor
  · rintro ⟨f, hf, hnil⟩
    obtain ⟨label, hlabel, -, hiff⟩ := exists_right_of_forall₂ hends.flip hf
    exact ⟨label, hlabel, hiff.mp hnil⟩
  · rintro ⟨label, hlabel, hend⟩
    obtain ⟨f, hf, -, hiff⟩ := exists_right_of_forall₂ hends hlabel
    exact ⟨f, hf, hiff.mpr hend⟩

/-- The local part of an address can be mapped, and its mapped form has no dot at an end and no two
dots together exactly when no label has another form of the full stop at an end. -/
theorem mappedLocal_dots_iff {text : String} (h : isEmail text = true) :
    ∃ localPart host m, parts? text.toList = some (localPart, host) ∧
      mappedLocal localPart = .ok m ∧ m ≠ [] ∧
      ((m.head? ≠ some fullStop ∧ m.getLast? ≠ some fullStop ∧ ¬[fullStop, fullStop] <:+: m) ↔
        ∀ label ∈ Text.splitOn '.' localPart, ¬HasStopAtEnd label) := by
  obtain ⟨localPart, domain, extension, l, host, hw, hl, -, hatom, -⟩ := (accepts_iff _).mp h
  obtain ⟨hparts, -⟩ := written_iff.mpr ⟨domain, extension, rfl, hw⟩
  obtain ⟨m, hm, hne, hiff⟩ := nil_mem_splitOn_mappedLocal_iff hl hatom.nil_notMem
  refine ⟨localPart, _, m, hparts, hm, hne, ?_⟩
  have hnil : [] ∉ Text.splitOn fullStop m ↔ m.head? ≠ some fullStop ∧
      m.getLast? ≠ some fullStop ∧ ¬[fullStop, fullStop] <:+: m := by
    rw [Text.nil_mem_splitOn_iff]
    simp only [hne, false_or, not_or, ne_eq]
  rw [← hnil, hiff]
  simp only [not_exists, not_and]

/-- The ideographic full stop in the middle of a label parts two atoms. -/
theorem mappedLocal_dots_inner :
    isEmail "\u00e9\u3002x@b.com" = true ∧
      mappedLocal "\u00e9\u3002x".toList = .ok [0xE9, fullStop, 0x78] ∧
      ([0xE9, fullStop, 0x78].head? ≠ some fullStop ∧
        [0xE9, fullStop, 0x78].getLast? ≠ some fullStop ∧
        ¬[fullStop, fullStop] <:+: [0xE9, fullStop, 0x78]) := by
  have haddress : isEmail "\u00e9\u3002x@b.com" = true := by decide +kernel
  obtain ⟨localPart, host, m, hp, hm, -, hiff⟩ := mappedLocal_dots_iff haddress
  have hparts : parts? "\u00e9\u3002x@b.com".toList =
      some ("\u00e9\u3002x".toList, "b.com".toList) := by decide +kernel
  have hmapped : mappedLocal "\u00e9\u3002x".toList = .ok [0xE9, fullStop, 0x78] := by
    decide +kernel
  have hends : ∀ label ∈ Text.splitOn '.' "\u00e9\u3002x".toList, ¬HasStopAtEnd label := by
    decide +kernel
  rw [hparts] at hp
  cases hp
  rw [hmapped] at hm
  cases hm
  exact ⟨haddress, hmapped, hiff.mpr hends⟩

/-- With one in front of the letter the mapped form begins with a dot. In the encoded form the dot
stands behind the prefix. -/
theorem mappedLocal_dot_first :
    isEmail "\u3002\u00e9@b.com" = true ∧
      parts? "\u3002\u00e9@b.com".toList = some ("\u3002\u00e9".toList, "b.com".toList) ∧
      (∃ m, mappedLocal "\u3002\u00e9".toList = .ok m ∧ m.head? = some fullStop) ∧
      encode .lenient "\u3002\u00e9".toList = .ok "xn--.-bga".toList := by
  have hmapped : mappedLocal "\u3002\u00e9".toList = .ok [fullStop, 0xE9] := by decide +kernel
  refine ⟨?_, ?_, ⟨_, hmapped, rfl⟩, ?_⟩
  all_goals decide +kernel

end Accounts.Address
