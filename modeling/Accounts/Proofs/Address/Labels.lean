import Mathlib.Data.List.Forall2
import Accounts.Address

/-!
The labels of a text. They are encoded one by one, so a dot parts what is encoded before it from what
is encoded behind it, and a text whose labels are all ASCII is its own encoded form.
-/
namespace Accounts.Address

variable {mode : Mode}

/-! ## Labels in a row -/

/-- Labels are encoded one by one. -/
theorem forall₂_of_encodeLabels {labels encoded : List (List Char)}
    (h : encodeLabels mode labels = .ok encoded) :
    List.Forall₂ (fun label e => encodeLabel mode label = .ok e) labels encoded := by
  induction labels generalizing encoded with
  | nil =>
    cases h
    exact .nil
  | cons label rest ih =>
    rw [encodeLabels] at h
    split at h
    · cases h
    · next hfirst =>
      split at h
      · cases h
      · next hrest =>
        cases h
        exact .cons hfirst (ih hrest)

theorem ne_nil_of_encodeLabels {labels encoded : List (List Char)} (hne : labels ≠ [])
    (h : encodeLabels mode labels = .ok encoded) : encoded ≠ [] := by
  rintro rfl
  exact hne (List.forall₂_nil_right_iff.mp (forall₂_of_encodeLabels h))

theorem encodeLabels_append (labels others : List (List Char)) :
    encodeLabels mode (labels ++ others) = (encodeLabels mode labels).bind fun encoded =>
      (encodeLabels mode others).map (encoded ++ ·) := by
  induction labels with
  | nil => cases h : encodeLabels mode others <;> simp [encodeLabels, h, Except.bind, Except.map]
  | cons label rest ih =>
    rw [List.cons_append, encodeLabels, encodeLabels, ih]
    cases encodeLabel mode label with
    | error d => rfl
    | ok first =>
      cases encodeLabels mode rest with
      | error d => rfl
      | ok encoded => cases encodeLabels mode others <;> rfl

theorem encodeLabels_ascii {labels : List (List Char)}
    (h : ∀ label ∈ labels, label.all isAsciiChar = true) : encodeLabels mode labels = .ok labels := by
  induction labels with
  | nil => rfl
  | cons label rest ih =>
    have hfirst : encodeLabel mode label = .ok label := by
      unfold encodeLabel
      rw [if_pos (h label List.mem_cons_self)]
    have hrest := ih fun l hl => h l (List.mem_cons_of_mem _ hl)
    rw [encodeLabels, hfirst, hrest]

/-! ## Dotted texts -/

/-- An encoded text consists of its encoded labels. -/
theorem exists_of_encode {text encoded : List Char} (h : encode mode text = .ok encoded) :
    ∃ labels, encoded = Text.joinWith '.' labels ∧
      List.Forall₂ (fun label e => encodeLabel mode label = .ok e) (Text.splitOn '.' text)
        labels := by
  unfold encode at h
  split at h
  · cases h
  · next labels hlabels =>
    cases h
    exact ⟨labels, rfl, forall₂_of_encodeLabels hlabels⟩

/-- A dot parts what is encoded before it from what is encoded behind. -/
theorem encode_append (before behind : List Char) :
    encode mode (before ++ '.' :: behind) = (encode mode before).bind fun first =>
      (encode mode behind).map (first ++ '.' :: ·) := by
  simp only [encode, Text.splitOn_append_cons, encodeLabels_append]
  cases hb : encodeLabels mode (Text.splitOn '.' before) with
  | error d => rfl
  | ok first =>
    cases hl : encodeLabels mode (Text.splitOn '.' behind) with
    | error d => rfl
    | ok second =>
      have hjoin := Text.joinWith_append '.'
        (ne_nil_of_encodeLabels (Text.splitOn_ne_nil '.' before) hb)
        (ne_nil_of_encodeLabels (Text.splitOn_ne_nil '.' behind) hl)
      exact congrArg Except.ok hjoin

theorem encode_append_eq_ok_iff {before behind encoded : List Char} :
    encode mode (before ++ '.' :: behind) = .ok encoded ↔
      ∃ first second, encode mode before = .ok first ∧ encode mode behind = .ok second ∧
        encoded = first ++ '.' :: second := by
  rw [encode_append]
  cases encode mode before with
  | error d => simp [Except.bind]
  | ok first => cases encode mode behind <;> simp [Except.bind, Except.map, eq_comm]

/-- A text without dots is one label. -/
theorem encode_label {label : List Char} (h : '.' ∉ label) :
    encode mode label = encodeLabel mode label := by
  rw [encode, Text.splitOn_of_notMem h, encodeLabels]
  cases encodeLabel mode label <;> rfl

/-- An ASCII text is its own encoded form. -/
theorem encode_ascii (mode : Mode) {text : List Char} (h : ∀ c ∈ text, isAsciiChar c = true) :
    encode mode text = .ok text := by
  have hlabels : ∀ label ∈ Text.splitOn '.' text, label.all isAsciiChar = true := by
    intro label hlabel
    rw [List.all_eq_true]
    intro c hc
    exact h c (Text.mem_of_mem_splitOn hlabel hc)
  simp only [encode, encodeLabels_ascii hlabels, Text.joinWith_splitOn]

end Accounts.Address
