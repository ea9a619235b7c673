import Accounts.Proofs.Address.Separators

/-!
Encoding, label by label. A text is encoded as its parts on either side of a dot are, and fails as
the first of its labels that cannot be encoded. What comes out is ASCII, and ASCII stays as it is, so
a text that has been encoded is not changed by being encoded again.
-/
namespace Accounts.Address

/-! ## The label that fails first -/

/-- A label cannot be encoded for the reason `e`, and every label to the left of it can. -/
def FailsFirst (mode : Mode) (labels : List (List Char)) (e : LabelError) : Prop :=
  ∃ before label later, labels = before ++ label :: later ∧
    (∀ l ∈ before, ∃ encoded, encodeLabel mode l = .ok encoded) ∧ encodeLabel mode label = .error e

variable {mode : Mode} {e : LabelError}

theorem failsFirst_cons_iff {label : List Char} {rest : List (List Char)} :
    FailsFirst mode (label :: rest) e ↔ encodeLabel mode label = .error e ∨
      (∃ encoded, encodeLabel mode label = .ok encoded) ∧ FailsFirst mode rest e := by
  constructor
  · rintro ⟨before, failing, later, heq, hbefore, hfailing⟩
    cases before with
    | nil =>
      obtain ⟨rfl, -⟩ := List.cons.inj heq
      exact .inl hfailing
    | cons first before =>
      obtain ⟨rfl, rfl⟩ := List.cons.inj heq
      obtain ⟨hfirst, hbefore⟩ := List.forall_mem_cons.mp hbefore
      exact .inr ⟨hfirst, before, failing, later, rfl, hbefore, hfailing⟩
  · rintro (hfailing | ⟨hfirst, before, failing, later, rfl, hbefore, hfailing⟩)
    · exact ⟨[], label, rest, rfl, by simp, hfailing⟩
    · exact ⟨label :: before, failing, later, rfl, List.forall_mem_cons.mpr ⟨hfirst, hbefore⟩,
        hfailing⟩

/-- The error is that of the first label from the left that has one. -/
theorem encodeLabels_eq_error_iff {labels : List (List Char)} :
    encodeLabels mode labels = .error e ↔ FailsFirst mode labels e := by
  induction labels with
  | nil => simp [encodeLabels, FailsFirst]
  | cons label rest ih =>
    rw [failsFirst_cons_iff, ← ih, encodeLabels]
    cases encodeLabel mode label with
    | error d => simp
    | ok encoded => cases encodeLabels mode rest <;> simp

theorem encode_eq_error_iff {text : List Char} :
    encode mode text = .error e ↔ FailsFirst mode (Text.splitOn '.' text) e := by
  rw [← encodeLabels_eq_error_iff, encode]
  cases encodeLabels mode (Text.splitOn '.' text) <;> simp

/-! ## Texts on either side of a dot -/

theorem toAscii_eq (text : String) :
    toAscii text mode = (encode mode text.toList).map String.ofList := by
  rw [toAscii]
  cases encode mode text.toList <;> rfl

theorem toAscii_eq_ok_iff {text encoded : String} :
    toAscii text mode = .ok encoded ↔ encode mode text.toList = .ok encoded.toList := by
  rw [toAscii_eq]
  cases encode mode text.toList with
  | error d => simp [Except.map]
  | ok cs =>
    rw [Except.map, Except.ok.injEq, Except.ok.injEq]
    constructor
    · rintro rfl
      exact String.toList_ofList.symm
    · rintro rfl
      exact String.ofList_toList

theorem toAscii_append (before behind : String) :
    toAscii (before ++ "." ++ behind) mode = (toAscii before mode).bind fun first =>
      (toAscii behind mode).map (first ++ "." ++ ·) := by
  have hlist : (before ++ "." ++ behind).toList = before.toList ++ '.' :: behind.toList := by
    simp
  rw [toAscii_eq, toAscii_eq, toAscii_eq, hlist, encode_append]
  cases encode mode before.toList with
  | error d => rfl
  | ok first =>
    cases encode mode behind.toList with
    | error d => rfl
    | ok second =>
      refine congrArg Except.ok (String.toList_inj.mp ?_)
      simp

/-- Two texts with a dot between them are encoded exactly when both can be, as their encoded forms
with a dot between them. Otherwise the first of all their labels that cannot be encoded gives the
error. Where the labels around the only dot are looked for, the two texts are found, and each is
encoded as one label. -/
theorem toAscii_dot (mode : Mode) (before behind : String) :
    (∀ encoded, toAscii (before ++ "." ++ behind) mode = .ok encoded ↔
      ∃ first second, toAscii before mode = .ok first ∧ toAscii behind mode = .ok second ∧
        encoded = first ++ "." ++ second) ∧
    (∀ e, toAscii (before ++ "." ++ behind) mode = .error e ↔
      FailsFirst mode (Text.splitOn '.' before.toList ++ Text.splitOn '.' behind.toList) e) ∧
    ∀ domain extension, labels? (before ++ "." ++ behind).toList = some (domain, extension) →
      domain = before.toList ∧ extension = behind.toList ∧
        toAscii before mode = (encodeLabel mode domain).map String.ofList ∧
        toAscii behind mode = (encodeLabel mode extension).map String.ofList := by
  have hlist : (before ++ "." ++ behind).toList = before.toList ++ '.' :: behind.toList := by
    simp
  refine ⟨?_, ?_, ?_⟩
  · intro encoded
    rw [toAscii_append]
    cases toAscii before mode with
    | error d => simp [Except.bind]
    | ok first => cases toAscii behind mode <;> simp [Except.bind, Except.map, eq_comm]
  · intro e
    rw [← Text.splitOn_append_cons, ← encode_eq_error_iff, ← hlist, toAscii_eq]
    cases encode mode (before ++ "." ++ behind).toList <;> simp [Except.map]
  · intro domain extension h
    obtain ⟨heq, hd, he⟩ := labels?_eq_some_iff.mp h
    obtain ⟨rfl, rfl⟩ := Text.append_cons_inj (hlist.symm.trans heq) hd he
    refine ⟨rfl, rfl, ?_, ?_⟩
    · rw [toAscii_eq, encode_label hd]
    · rw [toAscii_eq, encode_label he]

/-- A host of a label with an umlaut and one in ASCII; and a text with two labels that cannot be
encoded, of which the left one counts. -/
theorem toAscii_dot_mixed :
    labels? ("b\u00fccher" ++ "." ++ "De").toList = some ("b\u00fccher".toList, "De".toList) ∧
      toAscii ("b\u00fccher" ++ "." ++ "De") .strict = .ok ("xn--bcher-kva" ++ "." ++ "De") ∧
      toAscii ("a.\u00b7x" ++ "." ++ "\u0378") .strict = .error .context := by
  have hlabels : labels? ("b\u00fccher" ++ "." ++ "De").toList =
      some ("b\u00fccher".toList, "De".toList) := by decide +kernel
  have hdomain : encodeLabel .strict "b\u00fccher".toList = .ok "xn--bcher-kva".toList := by
    decide +kernel
  have hextension : encodeLabel .strict "De".toList = .ok "De".toList := by decide +kernel
  obtain ⟨hok, -, hpieces⟩ := toAscii_dot .strict "b\u00fccher" "De"
  obtain ⟨-, -, hbefore, hbehind⟩ := hpieces _ _ hlabels
  rw [hdomain] at hbefore
  rw [hextension] at hbehind
  obtain ⟨-, herror, -⟩ := toAscii_dot .strict "a.\u00b7x" "\u0378"
  refine ⟨hlabels, (hok _).mpr ⟨_, _, hbefore, hbehind, ?_⟩, (herror .context).mpr ?_⟩
  · decide +kernel
  · refine ⟨["a".toList], "\u00b7x".toList, ["\u0378".toList], by decide +kernel, ?_, ?_⟩
    · exact List.forall_mem_singleton.mpr ⟨"a".toList, by decide +kernel⟩
    · decide +kernel

/-! ## ASCII -/

def IsAscii (text : String) : Prop := ∀ c ∈ text.toList, isAsciiChar c = true

theorem isAscii_of_toAscii {text encoded : String} (h : toAscii text mode = .ok encoded) :
    IsAscii encoded :=
  fun _ hc => isAsciiChar_of_mem_encode (toAscii_eq_ok_iff.mp h) hc

theorem toAscii_of_isAscii {text : String} (h : IsAscii text) : toAscii text mode = .ok text := by
  rw [toAscii_eq_ok_iff]
  exact encode_ascii mode h

/-- What comes out is ASCII and stays as it is from then on, however it is encoded. What stays as it
is are the ASCII texts, all of them. -/
theorem toAscii_settles (text : String) (mode : Mode) :
    (∀ encoded, toAscii text mode = .ok encoded →
      IsAscii encoded ∧ ∀ other, toAscii encoded other = .ok encoded) ∧
    (toAscii text mode = .ok text ↔ IsAscii text) := by
  refine ⟨fun encoded h => ?_, isAscii_of_toAscii, toAscii_of_isAscii⟩
  have hascii := isAscii_of_toAscii h
  exact ⟨hascii, fun other => toAscii_of_isAscii hascii⟩

/-- With a symbol and an empty label among what is encoded, the strict rules leave it alone all the
same. -/
theorem toAscii_settles_accented :
    toAscii "B\u00fccher+X..Y" .lenient = .ok "xn--bcher+x-n2a..Y" ∧
      IsAscii "xn--bcher+x-n2a..Y" ∧
      toAscii "xn--bcher+x-n2a..Y" .strict = .ok "xn--bcher+x-n2a..Y" := by
  have hlenient : toAscii "B\u00fccher+X..Y" .lenient = .ok "xn--bcher+x-n2a..Y" := by
    decide +kernel
  obtain ⟨hascii, hstays⟩ := (toAscii_settles "B\u00fccher+X..Y" .lenient).1 _ hlenient
  exact ⟨hlenient, hascii, hstays .strict⟩

end Accounts.Address
