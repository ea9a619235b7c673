import Accounts.Proofs.Address.Dots
import Accounts.Proofs.Label.Range

/-!
Forms read off encodings. A label of a local part is encoded from its form, the label itself or what
it is mapped to, and nothing of the form is lost: of two labels whose forms do not begin as encoded
labels do, the encoded forms are equal exactly when the forms are. The same holds of whole local
parts where mapping brings in no full stop.
-/
namespace Accounts

namespace Label

open Text.Normal (lastCodePoint)

/-- The text begins as encoded labels do. -/
def BeginsEncoded (label : List Nat) : Prop := acePrefix.map Char.toNat <+: label

instance (label : List Nat) : Decidable (BeginsEncoded label) :=
  inferInstanceAs (Decidable (_ <+: _))

/-- The text that a written one stands for. -/
def readForm (encoded : List Char) : List Nat :=
  if acePrefix.isPrefixOf encoded then
    (Punycode.decode? (encoded.drop acePrefix.length)).getD []
  else encoded.map Char.toNat

theorem map_toNat_toChars {label : List Nat} (h : isAscii label = true) :
    (toChars label).map Char.toNat = label :=
  Punycode.map_toNat_ofNat fun n hn => Nat.blt_eq.mp (List.all_eq_true.mp h n hn)

theorem readForm_written {label : List Nat} (hrange : ∀ c ∈ label, c ≤ lastCodePoint)
    (hbegins : ¬BeginsEncoded label) : readForm (written label) = label := by
  unfold written
  split
  · next hascii =>
    have hback := map_toNat_toChars hascii
    have hno : acePrefix.isPrefixOf (toChars label) = false := by
      rw [← Bool.not_eq_true, List.isPrefixOf_iff_prefix]
      intro hprefix
      have hcodes := hprefix.map Char.toNat
      rw [hback] at hcodes
      exact hbegins hcodes
    rw [readForm, hno, if_neg Bool.false_ne_true, hback]
  · have hyes : acePrefix.isPrefixOf (ace label) = true := by
      rw [List.isPrefixOf_iff_prefix]
      exact List.prefix_append _ _
    rw [readForm, if_pos hyes, ace, List.drop_left, Punycode.decode?_encode hrange, Option.getD_some]

theorem dot_notMem_written {label : List Nat} (h : fullStop ∉ label) : '.' ∉ written label := by
  unfold written
  split
  · next hascii => exact dot_notMem_toChars hascii h
  · exact dot_notMem_ace h

end Label

namespace Address

open Label (BeginsEncoded fullStop readForm readForm_written written)
open Text.Normal (lastCodePoint)

/-! ## Labels -/

theorem le_of_form {label : List Char} {f : List Nat} (h : form label = .ok f) :
    ∀ c ∈ f, c ≤ lastCodePoint := by
  have hlabel : ∀ c ∈ label.map Char.toNat, c ≤ lastCodePoint := by
    intro c hc
    obtain ⟨d, -, rfl⟩ := List.mem_map.mp hc
    exact Text.Normal.toNat_le d
  unfold form at h
  split at h
  · cases h
    exact hlabel
  · exact Label.le_of_mem_map h hlabel

/-- A form that does not begin as encoded labels do is read off what it is written as. -/
theorem readForm_of_form {label : List Char} {f : List Nat} (h : form label = .ok f)
    (hbegins : ¬BeginsEncoded f) : readForm (written f) = f :=
  readForm_written (le_of_form h) hbegins

/-! ## Local parts -/

/-- No label of the local part has a form that begins as encoded labels do, or one that holds a full
stop. -/
def HasPlainForms (localPart : List Char) : Prop :=
  ∀ label ∈ Text.splitOn '.' localPart, ∀ f ∈ (form label).toOption,
    ¬BeginsEncoded f ∧ fullStop ∉ f

instance (localPart : List Char) : Decidable (HasPlainForms localPart) :=
  inferInstanceAs (Decidable (∀ _ ∈ _, _))

/-- Labels are encoded as their forms are written. -/
theorem exists_forms {labels encoded : List (List Char)}
    (h : List.Forall₂ (fun label e => encodeLabel .lenient label = .ok e) labels encoded) :
    ∃ forms, labels.mapM form = .ok forms ∧ encoded = forms.map written ∧
      ∀ f ∈ forms, ∃ label ∈ labels, form label = .ok f := by
  induction h with
  | nil => exact ⟨[], rfl, rfl, by simp⟩
  | @cons label e labels encoded hlabel _ ih =>
    obtain ⟨f, hf, rfl⟩ := exists_form hlabel
    obtain ⟨forms, hforms, rfl, hfrom⟩ := ih
    refine ⟨f :: forms, ?_, rfl, ?_⟩
    · rw [List.mapM_cons, hf, hforms]
      rfl
    · rw [List.forall_mem_cons]
      refine ⟨⟨label, List.mem_cons_self, hf⟩, fun g hg => ?_⟩
      obtain ⟨l, hl, hg⟩ := hfrom g hg
      exact ⟨l, List.mem_cons_of_mem _ hl, hg⟩

/-- The forms of a local part are read off its encoded form, and off its mapped form. -/
theorem HasPlainForms.exists_forms {localPart encoded : List Char} (hplain : HasPlainForms localPart)
    (h : encode .lenient localPart = .ok encoded) :
    ∃ forms, mappedLocal localPart = .ok (Text.joinWith fullStop forms) ∧
      encoded = Text.joinWith '.' (forms.map written) ∧
      (Text.splitOn '.' encoded).map readForm = forms ∧
      Text.splitOn fullStop (Text.joinWith fullStop forms) = forms := by
  obtain ⟨labels, rfl, hlabels⟩ := exists_of_encode h
  obtain ⟨forms, hforms, rfl, hfrom⟩ := Address.exists_forms hlabels
  have hne : forms ≠ [] := by
    rintro rfl
    exact Text.splitOn_ne_nil '.' localPart (List.forall₂_nil_right_iff.mp hlabels)
  have hclean : ∀ f ∈ forms, readForm (written f) = f ∧ fullStop ∉ f := by
    intro f hf
    obtain ⟨label, hlabel, hform⟩ := hfrom f hf
    obtain ⟨hbegins, hstop⟩ := hplain label hlabel f (by rw [hform]; rfl)
    exact ⟨readForm_of_form hform hbegins, hstop⟩
  refine ⟨forms, by rw [mappedLocal, hforms], rfl, ?_, ?_⟩
  · rw [Text.splitOn_joinWith (by simpa using hne), List.map_map]
    · exact (List.map_congr_left fun f hf => (hclean f hf).1).trans (List.map_id _)
    · intro piece hpiece
      obtain ⟨f, hf, rfl⟩ := List.mem_map.mp hpiece
      exact Label.dot_notMem_written (hclean f hf).2
  · exact Text.splitOn_joinWith hne fun f hf => (hclean f hf).2

/-- Labels whose forms do not begin as encoded labels do have one encoded form exactly when they
have one form; and local parts, without full stops in their forms besides, exactly when they have one
mapped form. -/
theorem encoded_alike_iff :
    (∀ first second a b, encodeLabel .lenient first = .ok a → encodeLabel .lenient second = .ok b →
      ∃ f g, form first = .ok f ∧ form second = .ok g ∧
        (¬BeginsEncoded f → ¬BeginsEncoded g → (a = b ↔ f = g))) ∧
    ∀ first second a b, encode .lenient first = .ok a → encode .lenient second = .ok b →
      HasPlainForms first → HasPlainForms second →
      ∃ m n, mappedLocal first = .ok m ∧ mappedLocal second = .ok n ∧ (a = b ↔ m = n) := by
  constructor
  · intro first second a b ha hb
    obtain ⟨f, hf, rfl⟩ := exists_form ha
    obtain ⟨g, hg, rfl⟩ := exists_form hb
    refine ⟨f, g, hf, hg, fun hbf hbg => ⟨fun h => ?_, congrArg written⟩⟩
    calc f = readForm (written f) := (readForm_of_form hf hbf).symm
      _ = readForm (written g) := congrArg readForm h
      _ = g := readForm_of_form hg hbg
  · intro first second a b ha hb hfirst hsecond
    obtain ⟨fs, hm, haf, hfs, hfsplit⟩ := hfirst.exists_forms ha
    obtain ⟨gs, hn, hbg, hgs, hgsplit⟩ := hsecond.exists_forms hb
    refine ⟨_, _, hm, hn, fun h => ?_, fun h => ?_⟩
    · rw [← hfs, ← hgs, h]
    · rw [haf, hbg, ← hfsplit, ← hgsplit, h]

/-- A capital, and a small letter with its mark apart, are encoded alike and so have one form; a
local part with another letter in its second label is encoded in another way and so has another
mapped form. -/
theorem encoded_alike_umlauts :
    encodeLabel .lenient "\u00dc+A".toList = .ok "xn--+a-wka".toList ∧
      encodeLabel .lenient "u\u0308+a".toList = .ok "xn--+a-wka".toList ∧
      form "\u00dc+A".toList = form "u\u0308+a".toList ∧
      mappedLocal "\u00fc.a".toList ≠ mappedLocal "\u00fc.\u00e4".toList := by
  have hcapital : encodeLabel .lenient "\u00dc+A".toList = .ok "xn--+a-wka".toList := by
    decide +kernel
  have hmark : encodeLabel .lenient "u\u0308+a".toList = .ok "xn--+a-wka".toList := by
    decide +kernel
  have hascii : encode .lenient "\u00fc.a".toList = .ok "xn--tda.a".toList := by decide +kernel
  have humlaut : encode .lenient "\u00fc.\u00e4".toList = .ok "xn--tda.xn--4ca".toList := by
    decide +kernel
  have hbegins : ∀ label ∈ ["\u00dc+A".toList, "u\u0308+a".toList],
      ∀ f ∈ (form label).toOption, ¬BeginsEncoded f := by decide +kernel
  obtain ⟨hlabels, hlocals⟩ := encoded_alike_iff
  refine ⟨hcapital, hmark, ?_, ?_⟩
  · obtain ⟨f, g, hf, hg, hiff⟩ := hlabels _ _ _ _ hcapital hmark
    have hbf : ¬BeginsEncoded f := hbegins _ List.mem_cons_self f (by rw [hf]; rfl)
    have hbg : ¬BeginsEncoded g :=
      hbegins _ (List.mem_cons_of_mem _ List.mem_cons_self) g (by rw [hg]; rfl)
    rw [hf, hg, (hiff hbf hbg).mp rfl]
  · obtain ⟨m, n, hm, hn, hiff⟩ := hlocals _ _ _ _ hascii humlaut (by decide +kernel)
      (by decide +kernel)
    have hne : "xn--tda.a".toList ≠ "xn--tda.xn--4ca".toList := by decide
    rw [hm, hn]
    exact fun h => hne (hiff.mpr (Except.ok.inj h))

-- A full stop that mapping brings in cannot be told from one that was written.
example : encode .lenient "9ca\u3002b\u00e9".toList = encode .lenient "\u00e9.b-fsa".toList := by
  decide +kernel

end Address

end Accounts
