import Mathlib.Data.List.TakeDrop
import Accounts.Proofs.Json.Grammar

/-!
The reader gives back every value that a text stands for. What was printed is therefore read back,
but for surrogates that stand next to each other.
-/
namespace Accounts.Json

open Reader Grammar

/-! ## Numbers -/

/-- What follows does not go on with digits. -/
def EndsDigits (rest : List Char) : Prop := ∀ c ∈ rest.head?, c.isDigit = false

/-- What follows does not go on with a number. -/
def EndsNumber (rest : List Char) : Prop :=
  ∀ c ∈ rest.head?, c.isDigit = false ∧ c ≠ '.' ∧ c ≠ 'e' ∧ c ≠ 'E'

theorem endsNumber_nil : EndsNumber [] := by simp [EndsNumber]

theorem EndsNumber.endsDigits {rest : List Char} (h : EndsNumber rest) : EndsDigits rest :=
  fun c hc => (h c hc).1

theorem digitRun_append {digits rest : List Char} (hd : ∀ c ∈ digits, c.isDigit = true)
    (hr : EndsDigits rest) : digitRun (digits ++ rest) = (digits, rest) := by
  have hrest : rest.takeWhile Char.isDigit = [] ∧ rest.dropWhile Char.isDigit = rest := by
    cases rest with
    | nil => exact ⟨rfl, rfl⟩
    | cons c s =>
      have hc : c.isDigit = false := hr c rfl
      exact ⟨List.takeWhile_cons_of_neg (by simp [hc]), List.dropWhile_cons_of_neg (by simp [hc])⟩
  rw [digitRun, List.span_eq_takeWhile_dropWhile, List.takeWhile_append_of_pos hd,
    List.dropWhile_append_of_pos hd, hrest.1, hrest.2, List.append_nil]

theorem someDigits_append {digits rest : List Char} (hne : digits ≠ [])
    (hd : ∀ c ∈ digits, c.isDigit = true) (hr : EndsDigits rest) :
    someDigits (digits ++ rest) = some (digits, rest) := by
  obtain ⟨c, cs, rfl⟩ := List.exists_cons_of_ne_nil hne
  rw [someDigits, digitRun_append hd hr]

theorem IsWhole.wholePart {digits rest : List Char} (h : IsWhole digits) (hr : EndsDigits rest) :
    wholePart (digits ++ rest) = some (digits, rest) := by
  rcases h.head with rfl | hhead
  · rfl
  · have hrun := someDigits_append h.ne_nil h.isDigit hr
    obtain ⟨c, cs, hcs⟩ := List.exists_cons_of_ne_nil h.ne_nil
    subst hcs
    have hzero : c ≠ '0' := fun hc => hhead (by rw [hc]; rfl)
    rw [List.cons_append] at hrun ⊢
    rw [Reader.wholePart, hrun]
    exact fun _ hc => hzero (List.cons.inj hc).1

/-- A sign in front of digits is taken off them. -/
theorem exponentSign_append {sign digits rest : List Char}
    (hs : sign = [] ∨ sign = ['+'] ∨ sign = ['-']) (hne : digits ≠ [])
    (hd : ∀ c ∈ digits, c.isDigit = true) :
    exponentSign (sign ++ (digits ++ rest)) = (sign, digits ++ rest) := by
  obtain ⟨c, cs, rfl⟩ := List.exists_cons_of_ne_nil hne
  have hc : c.isDigit = true := hd c List.mem_cons_self
  rcases hs with rfl | rfl | rfl
  · rw [List.nil_append, List.cons_append, exponentSign]
    · rintro _ heq
      obtain rfl := (List.cons.inj heq).1
      exact absurd hc (by decide)
    · rintro _ heq
      obtain rfl := (List.cons.inj heq).1
      exact absurd hc (by decide)
  · rfl
  · rfl

theorem IsExponent.exponent {e rest : List Char} (h : IsExponent e) (hr : EndsNumber rest) :
    exponent (e ++ rest) = some (e, rest) := by
  rcases h with rfl | ⟨mark, sign, digits, hmark, hsign, hne, hd, rfl⟩
  · cases rest with
    | nil => rfl
    | cons c s =>
      obtain ⟨-, -, hlower, hupper⟩ := hr c rfl
      rw [List.nil_append, Reader.exponent, if_neg (not_or.mpr ⟨hlower, hupper⟩)]
  · have hrun := someDigits_append hne hd hr.endsDigits
    rw [List.cons_append, List.append_assoc, Reader.exponent, if_pos hmark,
      exponentSign_append hsign hne hd]
    simp only [hrun, Option.map_some]

/-- What follows the fraction is neither a digit nor a point. -/
theorem IsExponent.ends {e rest : List Char} (h : IsExponent e) (hr : EndsNumber rest) :
    ∀ c ∈ (e ++ rest).head?, c.isDigit = false ∧ c ≠ '.' := by
  intro c hc
  rcases h with rfl | ⟨mark, sign, digits, hmark, -, -, -, rfl⟩
  · exact ⟨(hr c hc).1, (hr c hc).2.1⟩
  · obtain rfl : mark = c := Option.some.inj hc
    rcases hmark with rfl | rfl <;> decide

theorem IsFraction.fraction {f s : List Char} (h : IsFraction f)
    (hs : ∀ c ∈ s.head?, c.isDigit = false ∧ c ≠ '.') : fraction (f ++ s) = some (f, s) := by
  rcases h with rfl | ⟨digits, hne, hd, rfl⟩
  · rw [List.nil_append, Reader.fraction]
    rintro t rfl
    exact (hs '.' rfl).2 rfl
  · have hrun := someDigits_append hne hd fun c hc => (hs c hc).1
    rw [List.cons_append, Reader.fraction, hrun]
    rfl

theorem IsFraction.endsDigits {f s : List Char} (h : IsFraction f) (hs : EndsDigits s) :
    EndsDigits (f ++ s) := by
  rcases h with rfl | ⟨digits, -, -, rfl⟩
  · exact hs
  · intro c hc
    obtain rfl : '.' = c := Option.some.inj hc
    decide

theorem isDigit_of_unsigned {c : Char} {s : List Char} {r : List Char × List Char}
    (h : unsigned (c :: s) = some r) : c.isDigit = true := by
  by_contra hdigit
  have hzero : c ≠ '0' := by
    rintro rfl
    exact hdigit (by decide)
  have hrun : someDigits (c :: s) = none := by
    simp [someDigits, digitRun, List.span_eq_takeWhile_dropWhile, hdigit]
  simp [unsigned, wholePart, hzero, hrun] at h

/-- What is not the word for an infinite size is read as a number without sign. -/
theorem size_of_unsigned {s : List Char} {r : List Char × List Char} (h : unsigned s = some r) :
    Reader.size s = some r := by
  cases s with
  | nil => cases h
  | cons c s =>
    have hdigit := isDigit_of_unsigned h
    rw [Reader.size, h]
    rintro _ hc
    obtain rfl := (List.cons.inj hc).1
    exact absurd hdigit (by decide)

/-- The whole part, the fraction and the exponent are read one after another. -/
theorem IsUnsigned.size {s rest : List Char} (h : IsUnsigned s) (hr : EndsNumber rest) :
    Reader.size (s ++ rest) = some (s, rest) := by
  obtain ⟨w, f, e, hw, hf, he, rfl⟩ := h
  have hends := he.ends hr
  have hwhole : wholePart (w ++ (f ++ (e ++ rest))) = some (w, f ++ (e ++ rest)) :=
    hw.wholePart (hf.endsDigits fun c hc => (hends c hc).1)
  have hunsigned : unsigned (w ++ (f ++ (e ++ rest))) = some (w ++ (f ++ e), rest) := by
    simp only [unsigned, hwhole, hf.fraction hends, he.exponent hr]
  simpa only [List.append_assoc] using size_of_unsigned hunsigned

theorem starts_of_size {c : Char} {s : List Char} {r : List Char × List Char}
    (h : Reader.size (c :: s) = some r) : c = 'I' ∨ c.isDigit = true := by
  by_cases hword : c = 'I'
  · exact .inl hword
  · rw [Reader.size] at h
    · exact .inr (isDigit_of_unsigned h)
    · exact fun _ hc => hword (List.cons.inj hc).1

/-- The first character of a number: a digit, a minus sign, or the capital of a word. -/
def IsStart (c : Char) : Prop := c = '-' ∨ c = 'N' ∨ c = 'I' ∨ c.isDigit = true

instance (c : Char) : Decidable (IsStart c) := inferInstanceAs (Decidable (_ ∨ _))

theorem starts_of_number {c : Char} {s : List Char} {r : List Char × List Char}
    (h : Reader.number (c :: s) = some r) : IsStart c := by
  by_cases hminus : c = '-'
  · exact .inl hminus
  · by_cases hnan : c = 'N'
    · exact .inr (.inl hnan)
    · rw [Reader.number] at h
      · exact .inr (.inr (starts_of_size h))
      · exact fun _ hc => hminus (List.cons.inj hc).1
      · exact fun _ hc => hnan (List.cons.inj hc).1

/-- A size is a number as it stands. -/
theorem number_of_size {s : List Char} {r : List Char × List Char} (h : Reader.size s = some r) :
    Reader.number s = some r := by
  cases s with
  | nil => cases h
  | cons c s =>
    have hstart := starts_of_size h
    rw [Reader.number]
    · exact h
    · intro _ hc
      obtain rfl := (List.cons.inj hc).1
      exact absurd hstart (by decide)
    · intro _ hc
      obtain rfl := (List.cons.inj hc).1
      exact absurd hstart (by decide)

/-- A numeral is read up to its end. -/
theorem IsNumeral.number {written rest : List Char} (h : IsNumeral written)
    (hr : EndsNumber rest) : Reader.number (written ++ rest) = some (written, rest) := by
  rcases h with (hsize | ⟨size, hsize, rfl⟩) | hword
  · exact number_of_size (hsize.size hr)
  · rw [List.cons_append, Reader.number, hsize.size hr]
    rfl
  · simp only [doubleWords, List.mem_cons, List.not_mem_nil, or_false] at hword
    rcases hword with rfl | rfl | rfl <;> rfl

/-- A whole number is read off its numeral. -/
theorem int?_int (n : Int) : (Json.int n).int? = some n := by
  have hdigits : ∀ m, (Text.decimal m).all Char.isDigit = true :=
    fun m => List.all_eq_true.mpr fun c hc => Text.isDigit_of_mem_decimal hc
  cases n with
  | ofNat n =>
    simp only [Json.int, Text.decimalInt]
    rw [int?, hdigits, if_pos rfl, Text.ofDecimal_decimal]
    · rfl
    · intro digits hdecimal
      have hminus := Text.isDigit_of_mem_decimal (n := n) (c := '-') (by simp [hdecimal])
      exact absurd hminus (by decide)
  | negSucc n =>
    simp only [Json.int, Text.decimalInt, int?, hdigits, if_true, Text.ofDecimal_decimal]
    rfl

/-! ## Strings -/

/-- A character with an escape of one letter. -/
theorem stringBody_shortEscape {e : Char} {c : Nat} (he : shortEscape e = some c)
    (s : List Char) :
    stringBody ('\\' :: e :: s) = (stringBody s).map fun r => (c :: r.1, r.2) := by
  rw [stringBody, he]
  · cases stringBody s <;> rfl
  · rintro _ _ _ _ _ rfl
    cases he

/-- A character that stands for itself. -/
theorem stringBody_char {c : Char} (control : 0x20 ≤ c.toNat) (quote : c ≠ '"')
    (backslash : c ≠ '\\') (s : List Char) :
    stringBody (c :: s) = (stringBody s).map fun r => (c.toNat :: r.1, r.2) := by
  rw [stringBody]
  · rw [if_neg (not_or.mpr ⟨Nat.not_lt.mpr control, backslash⟩)]
    cases stringBody s <;> rfl
  · exact quote
  · exact fun _ _ _ _ _ h => absurd h backslash
  · exact fun _ _ h => absurd h backslash

theorem shortEscape_of_mem {e : Char} {n : Nat} (h : (e, n) ∈ letters) :
    shortEscape e = some n ∧ ¬IsHigh n := by
  have hall : ∀ l ∈ letters, shortEscape l.1 = some l.2 ∧ l.2 < 0xD800 := by decide
  exact ⟨(hall _ h).1, fun hhigh => Nat.not_lt.mpr hhigh.1 (hall _ h).2⟩

/-- What a character stands for is read, and joined to what follows. -/
theorem Grammar.Sign.read {s : List Char} {n : Nat} (h : Sign s n) (t : List Char) :
    stringBody (s ++ t) = (stringBody t).map fun r => (joinSurrogates n r.1, r.2) := by
  cases h with
  | @plain c hcontrol hquote hbackslash =>
    simp only [joinSurrogates_of_not_high (not_isHigh_toNat c)]
    exact stringBody_char hcontrol hquote hbackslash t
  | letter hletter =>
    obtain ⟨hshort, hhigh⟩ := shortEscape_of_mem hletter
    simp only [joinSurrogates_of_not_high hhigh]
    exact stringBody_shortEscape hshort t
  | unit hread =>
    simp only [List.cons_append, List.nil_append, stringBody, hread]
    cases stringBody t <;> rfl

theorem Grammar.Signs.read {s : List Char} {cs : List Nat} (h : Signs s cs) (t : List Char) :
    stringBody (s ++ '"' :: t) = some (cs, t) := by
  induction h with
  | nil => rfl
  | cons hsign _ ih => rw [List.append_assoc, hsign.read, ih, Option.map_some]

theorem Grammar.Quoted.read {s : List Char} {cs : List Nat} (h : Quoted s cs) (rest : List Char) :
    ∃ t, s ++ rest = '"' :: t ∧ stringBody t = some (cs, rest) := by
  cases h with
  | @mk s _ hs => exact ⟨s ++ '"' :: rest, by simp, hs.read rest⟩

/-! ## Blanks -/

/-- What follows a value: nothing, a comma or a closing bracket. -/
def Stops (rest : List Char) : Prop := ∀ c ∈ rest.head?, c = ',' ∨ c = ']' ∨ c = '\x7d'

theorem stops_nil : Stops [] := by simp [Stops]

theorem stops_comma (s : List Char) : Stops (',' :: s) := by simp [Stops]

theorem stops_bracket (s : List Char) : Stops (']' :: s) := by simp [Stops]

theorem stops_brace (s : List Char) : Stops ('\x7d' :: s) := by simp [Stops]

theorem Stops.endsNumber {rest : List Char} (h : Stops rest) : EndsNumber rest := by
  intro c hc
  rcases h c hc with rfl | rfl | rfl <;> decide

theorem skipSpace_cons {c : Char} (h : isSpace c = false) (s : List Char) :
    skipSpace (c :: s) = c :: s := List.dropWhile_cons_of_neg (by simp [h])

theorem skipSpace_stops {rest : List Char} (h : Stops rest) : skipSpace rest = rest := by
  cases rest with
  | nil => rfl
  | cons c s =>
    apply skipSpace_cons
    rcases h c rfl with rfl | rfl | rfl <;> decide

theorem Grammar.IsBlank.isSpace {b : List Char} (h : IsBlank b) :
    ∀ c ∈ b, Reader.isSpace c = true := by
  intro c hc
  rcases h c hc with rfl | rfl | rfl | rfl <;> decide

theorem skipSpace_append {b : List Char} (h : IsBlank b) (s : List Char) :
    skipSpace (b ++ s) = skipSpace s := List.dropWhile_append_of_pos h.isSpace

theorem endsNumber_append {b s : List Char} (h : IsBlank b) (hs : EndsNumber s) :
    EndsNumber (b ++ s) := by
  cases b with
  | nil => exact hs
  | cons c b =>
    intro d hd
    obtain rfl : c = d := Option.some.inj hd
    rcases h c List.mem_cons_self with rfl | rfl | rfl | rfl <;> decide

/-! ## Values -/

/-- A value begins with something that is neither a space nor a closing bracket. -/
def Opens (s : List Char) : Prop := ∃ c cs, s = c :: cs ∧ isSpace c = false ∧ c ≠ ']'

theorem Opens.skipSpace {s : List Char} (h : Opens s) (t : List Char) :
    skipSpace (s ++ t) = s ++ t := by
  obtain ⟨c, cs, rfl, hspace, -⟩ := h
  exact skipSpace_cons hspace (cs ++ t)

theorem IsNumeral.starts {written : List Char} (h : IsNumeral written) :
    ∃ c cs, written = c :: cs ∧ IsStart c := by
  have hread := h.number endsNumber_nil
  rw [List.append_nil] at hread
  cases written with
  | nil => cases hread
  | cons c cs => exact ⟨c, cs, rfl, starts_of_number hread⟩

theorem IsNumeral.opens {written : List Char} (h : IsNumeral written) : Opens written := by
  obtain ⟨c, cs, rfl, hc⟩ := h.starts
  refine ⟨c, cs, rfl, ?_, ?_⟩
  · rw [Bool.eq_false_iff]
    intro hspace
    simp only [isSpace, Bool.or_eq_true, beq_iff_eq] at hspace
    rcases hspace with ((rfl | rfl) | rfl) | rfl <;> exact absurd hc (by decide)
  · rintro rfl
    exact absurd hc (by decide)

theorem value_numeral {written rest : List Char} (h : IsNumeral written) (hr : EndsNumber rest)
    (depth : Nat) : value (depth + 1) (written ++ rest) = some (.number written, rest) := by
  have hread := h.number hr
  obtain ⟨c, cs, rfl, hc⟩ := h.starts
  rw [List.cons_append] at hread ⊢
  rw [value, hread]
  · rfl
  -- The other values begin with a letter, a quote or a bracket.
  all_goals
    intro _ hcs
    obtain rfl := (List.cons.inj hcs).1
    exact absurd hc (by decide)

/-! The numbers of a text are among those that the reader takes. -/

variable {N : List Char → Prop}

theorem Grammar.Value.opens (hN : ∀ w, N w → IsNumeral w) {s : List Char} {j : Json}
    (h : Value N s j) : Opens s := by
  cases h with
  | null => exact ⟨'n', _, rfl, by decide, by decide⟩
  | true => exact ⟨'t', _, rfl, by decide, by decide⟩
  | false => exact ⟨'f', _, rfl, by decide, by decide⟩
  | number hs => exact (hN _ hs).opens
  | text hs =>
    cases hs with
    | mk _ => exact ⟨'"', _, rfl, by decide, by decide⟩
  | emptyArray | array => exact ⟨'[', _, rfl, by decide, by decide⟩
  | emptyObject | object => exact ⟨'\x7b', _, rfl, by decide, by decide⟩

theorem Grammar.Element.opens (hN : ∀ w, N w → IsNumeral w) {s : List Char} {j : Json}
    (h : Element N s j) (t : List Char) : ∃ c cs, skipSpace (s ++ t) = c :: cs ∧ c ≠ ']' := by
  cases h with
  | mk hb hvalue _ =>
    have hopens := hvalue.opens hN
    rw [List.append_assoc, skipSpace_append hb, List.append_assoc, hopens.skipSpace]
    obtain ⟨c, cs, rfl, -, hbracket⟩ := hopens
    exact ⟨c, _, rfl, hbracket⟩

theorem Grammar.Items.opens (hN : ∀ w, N w → IsNumeral w) {s : List Char} {items : List Json}
    (h : Items N s items) (t : List Char) : ∃ c cs, skipSpace (s ++ t) = c :: cs ∧ c ≠ ']' := by
  cases h with
  | one hitem => exact hitem.opens hN t
  | more hitem _ =>
    rw [List.append_assoc]
    exact hitem.opens hN _

theorem Grammar.Member.opens {s : List Char} {m : List Nat × Json} (h : Member N s m)
    (t : List Char) : ∃ cs, skipSpace (s ++ t) = '"' :: cs := by
  cases h with
  | mk hb hname _ _ =>
    obtain ⟨cs, hcs, -⟩ := hname.read _
    rw [List.append_assoc, skipSpace_append hb, List.append_assoc, hcs]
    exact ⟨cs, skipSpace_cons (by decide) cs⟩

theorem Grammar.Members.opens {s : List Char} {members : List (List Nat × Json)}
    (h : Members N s members) (t : List Char) : ∃ cs, skipSpace (s ++ t) = '"' :: cs := by
  cases h with
  | one hmember => exact hmember.opens t
  | more hmember _ =>
    rw [List.append_assoc]
    exact hmember.opens _

mutual

/-- What a text stands for is read. As many steps as it has characters are enough. -/
theorem Grammar.Value.read (hN : ∀ w, N w → IsNumeral w) {s : List Char} {j : Json}
    (h : Value N s j) (fuel : Nat) (rest : List Char) (hfuel : s.length ≤ fuel)
    (hrest : EndsNumber rest) : value fuel (s ++ rest) = some (j, rest) := by
  obtain ⟨depth, rfl⟩ : ∃ depth, fuel = depth + 1 := by
    obtain ⟨c, cs, rfl, -⟩ := Value.opens hN h
    rw [List.length_cons] at hfuel
    exact ⟨fuel - 1, by omega⟩
  match h with
  | .null | .true | .false => rfl
  | .number hs => exact value_numeral (hN _ hs) hrest depth
  | .text hs =>
    obtain ⟨t, ht, hread⟩ := hs.read rest
    rw [ht, value, hread]
    rfl
  | .emptyArray hb | .emptyObject hb =>
    rw [List.cons_append, List.append_assoc, value, skipSpace_append hb]
    rfl
  | .array hitems =>
    have hread := Items.read hN hitems depth rest (by
      simp only [List.length_cons, List.length_append, List.length_nil] at hfuel
      omega)
    obtain ⟨c, cs, hcs, hbracket⟩ := Items.opens hN hitems (']' :: rest)
    rw [List.cons_append, List.append_assoc, value, List.singleton_append]
    rw [hcs] at hread ⊢
    split
    · next heq => exact absurd (List.cons.inj heq).1 hbracket
    · rw [hread]
      rfl
  | .object hmembers =>
    have hread := Members.read hN hmembers depth rest (by
      simp only [List.length_cons, List.length_append, List.length_nil] at hfuel
      omega)
    obtain ⟨cs, hcs⟩ := Members.opens hmembers ('\x7d' :: rest)
    rw [List.cons_append, List.append_assoc, value, List.singleton_append]
    rw [hcs] at hread ⊢
    split
    · next heq => exact absurd (List.cons.inj heq).1 (by decide)
    · rw [hread]
      rfl

theorem Grammar.Element.read (hN : ∀ w, N w → IsNumeral w) {s : List Char} {j : Json}
    (h : Element N s j) (fuel : Nat) (rest : List Char) (hfuel : s.length ≤ fuel)
    (hrest : Stops rest) :
    ∃ after, value fuel (skipSpace (s ++ rest)) = some (j, after) ∧ skipSpace after = rest := by
  match h with
  | @Element.mk _ b t c _ hb hvalue hc =>
    have hread := Value.read hN hvalue fuel (c ++ rest)
      (by simp only [List.length_append] at hfuel; omega) (endsNumber_append hc hrest.endsNumber)
    refine ⟨c ++ rest, ?_, by rw [skipSpace_append hc, skipSpace_stops hrest]⟩
    rw [List.append_assoc, skipSpace_append hb, List.append_assoc,
      (Value.opens hN hvalue).skipSpace, hread]

theorem Grammar.Items.read (hN : ∀ w, N w → IsNumeral w) {s : List Char} {items : List Json}
    (h : Items N s items) (fuel : Nat) (rest : List Char) (hfuel : s.length < fuel) :
    Reader.items fuel (skipSpace (s ++ ']' :: rest)) = some (items, rest) := by
  obtain ⟨depth, rfl⟩ : ∃ depth, fuel = depth + 1 := ⟨fuel - 1, by omega⟩
  match h with
  | .one hitem =>
    obtain ⟨after, hread, hafter⟩ :=
      Element.read hN hitem depth (']' :: rest) (by omega) (stops_bracket rest)
    simp only [Reader.items, hread, hafter]
  | @Items.more _ s t j items hitem hitems =>
    simp only [List.length_append, List.length_cons] at hfuel
    obtain ⟨after, hread, hafter⟩ :=
      Element.read hN hitem depth (',' :: (t ++ ']' :: rest)) (by omega) (stops_comma _)
    have hmore := Items.read hN hitems depth rest (by omega)
    rw [List.append_assoc, List.cons_append]
    simp only [Reader.items, hread, hafter, hmore, Option.map_some]

theorem Grammar.Member.read (hN : ∀ w, N w → IsNumeral w) {s : List Char}
    {m : List Nat × Json} (h : Member N s m) (depth : Nat) (rest : List Char)
    (hfuel : s.length ≤ depth) (hrest : Stops rest) :
    ∃ t u v after, skipSpace (s ++ rest) = '"' :: t ∧ stringBody t = some (m.1, u) ∧
      skipSpace u = ':' :: v ∧ value depth (skipSpace v) = some (m.2, after) ∧
      skipSpace after = rest := by
  match h with
  | @Member.mk _ b n c s name j hb hname hc hvalue =>
    simp only [List.length_append, List.length_cons] at hfuel
    obtain ⟨t, ht, hbody⟩ := hname.read (c ++ ':' :: (s ++ rest))
    obtain ⟨after, hread, hafter⟩ := Element.read hN hvalue depth rest (by omega) hrest
    refine ⟨t, _, s ++ rest, after, ?_, hbody, ?_, hread, hafter⟩
    · simp only [List.append_assoc, List.cons_append]
      rw [skipSpace_append hb, ht, skipSpace_cons (by decide)]
    · rw [skipSpace_append hc, skipSpace_cons (by decide)]

theorem Grammar.Members.read (hN : ∀ w, N w → IsNumeral w) {s : List Char}
    {members : List (List Nat × Json)} (h : Members N s members) (fuel : Nat) (rest : List Char)
    (hfuel : s.length < fuel) :
    Reader.members fuel (skipSpace (s ++ '\x7d' :: rest)) = some (members, rest) := by
  obtain ⟨depth, rfl⟩ : ∃ depth, fuel = depth + 1 := ⟨fuel - 1, by omega⟩
  match h with
  | .one hmember =>
    obtain ⟨t, u, v, after, ht, hname, hcolon, hread, hafter⟩ :=
      Member.read hN hmember depth ('\x7d' :: rest) (by omega) (stops_brace rest)
    simp only [ht, Reader.members, hname, hcolon, hread, hafter]
  | @Members.more _ s t m members hmember hmembers =>
    simp only [List.length_append, List.length_cons] at hfuel
    obtain ⟨t', u, v, after, ht, hname, hcolon, hread, hafter⟩ :=
      Member.read hN hmember depth (',' :: (t ++ '\x7d' :: rest)) (by omega) (stops_comma _)
    have hmore := Members.read hN hmembers depth rest (by omega)
    rw [List.append_assoc, List.cons_append]
    simp only [ht, Reader.members, hname, hcolon, hread, hafter, hmore, Option.map_some]

end

/-- The reader takes every text of the grammar, and only one value comes of it. -/
theorem Grammar.Element.parse? (hN : ∀ w, N w → IsNumeral w) {s : List Char} {j : Json}
    (h : Element N s j) : parse? s = some j := by
  obtain ⟨after, hread, hafter⟩ := h.read hN (2 * s.length + 2) [] (by omega) stops_nil
  rw [List.append_nil] at hread
  simp only [Json.parse?, hread, hafter, if_true]

/-- What is printed is read back, but for surrogates that stand next to each other. -/
theorem parse?_print {j : Json} (h : j.IsReadable) : parse? j.print = some j.joined :=
  (value_print j h (isNumeral_of_mem_numbers j h)).element.parse? fun _ => id

/-- What is printed is JSON exactly if its numbers are, and stands for nothing else. -/
theorem element_print_iff {j k : Json} (h : j.IsReadable) :
    Element IsNumber j.print k ↔ k = j.joined ∧ ∀ w ∈ j.numbers, IsNumber w := by
  constructor
  · intro hk
    have hread := hk.parse? fun _ => Or.inl
    rw [parse?_print h] at hread
    obtain rfl := Option.some.inj hread
    exact ⟨rfl, numbers_joined j ▸ hk.numbers⟩
  · rintro ⟨rfl, hnumbers⟩
    exact (value_print j h hnumbers).element

end Accounts.Json
