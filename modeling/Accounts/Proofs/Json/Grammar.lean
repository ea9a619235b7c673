import Accounts.Json.Printer
import Accounts.Json.Reader
import Accounts.Proofs.Text.Numeral

/-!
The grammar of JSON, as a relation between a text and the value that it stands for. Blanks are taken
together with the values and names that they surround, so that brackets, commas and colons need
none. Which numbers there are is left open: JSON has its own, and the reader also takes the words
that the log writes for doubles that are no numbers.

What is printed stands for the value that was printed, with one exception: an escape can only name a
unit of UTF-16, so a high surrogate in front of a low one stands for the one code point of the two.
-/
namespace Accounts.Json

open Reader

/-! ## Code points -/

/-- Code points are no larger than the largest. -/
def InRange (codePoints : List Nat) : Prop := ∀ c ∈ codePoints, c ≤ 0x10FFFF

theorem inRange_map_toNat (cs : List Char) : InRange (cs.map Char.toNat) := by
  intro n hn
  obtain ⟨c, -, rfl⟩ := List.mem_map.mp hn
  rcases c.valid with h | h
  · exact Nat.le_trans (Nat.le_of_lt h) (by decide)
  · exact Nat.le_of_lt_succ h.2

theorem inRange_codePoints (s : String) : InRange (Text.codePoints s) := inRange_map_toNat s.toList

/-- The first unit of a pair. -/
def IsHigh (c : Nat) : Prop := 0xD800 ≤ c ∧ c < 0xDC00

/-- The second unit of a pair. -/
def IsLow (c : Nat) : Prop := 0xDC00 ≤ c ∧ c < 0xE000

/-- A high surrogate stands right in front of a low one. -/
def HasPair (codePoints : List Nat) : Prop :=
  ∃ before high low later, codePoints = before ++ high :: low :: later ∧ IsHigh high ∧ IsLow low

/-- A text with its surrogates joined two by two. -/
def joinedText (codePoints : List Nat) : List Nat := codePoints.foldr joinSurrogates []

theorem joinSurrogates_of_not_high {c : Nat} (h : ¬IsHigh c) (cs : List Nat) :
    joinSurrogates c cs = c :: cs := by
  cases cs with
  | nil => rfl
  | cons low rest =>
    rw [joinSurrogates, if_neg]
    rintro ⟨hc, hc', -⟩
    exact h ⟨hc, hc'⟩

theorem joinSurrogates_pair {high low : Nat} (hh : IsHigh high) (hl : IsLow low)
    (cs : List Nat) :
    joinSurrogates high (low :: cs) =
      (0x10000 + (high - 0xD800) * 0x400 + (low - 0xDC00)) :: cs := by
  rw [joinSurrogates, if_pos ⟨hh.1, hh.2, hl⟩]

theorem joinedText_cons (c : Nat) (cs : List Nat) :
    joinedText (c :: cs) = joinSurrogates c (joinedText cs) := rfl

/-- A pair becomes the code point that it stands for. -/
theorem joinedText_pair {high low : Nat} (hh : IsHigh high) (hl : IsLow low) (cs : List Nat) :
    joinedText (high :: low :: cs) =
      (0x10000 + (high - 0xD800) * 0x400 + (low - 0xDC00)) :: joinedText cs := by
  have hlow : ¬IsHigh low := fun h => absurd h.2 (Nat.not_lt.mpr hl.1)
  rw [joinedText_cons, joinedText_cons, joinSurrogates_of_not_high hlow, joinSurrogates_pair hh hl]

theorem length_joinedText_cons_le (c : Nat) (cs : List Nat) :
    (joinedText (c :: cs)).length ≤ (joinedText cs).length + 1 := by
  rw [joinedText_cons]
  cases joinedText cs with
  | nil => exact Nat.le_refl _
  | cons low rest =>
    rw [joinSurrogates]
    split <;> simp

theorem length_joinedText_le (cs : List Nat) : (joinedText cs).length ≤ cs.length := by
  induction cs with
  | nil => exact Nat.le_refl _
  | cons c cs ih => exact Nat.le_trans (length_joinedText_cons_le c cs) (Nat.succ_le_succ ih)

/-- Every pair makes the text shorter. -/
theorem length_joinedText_lt {cs : List Nat} (h : HasPair cs) :
    (joinedText cs).length < cs.length := by
  obtain ⟨before, high, low, later, rfl, hh, hl⟩ := h
  induction before with
  | nil =>
    have hlater := length_joinedText_le later
    rw [List.nil_append, joinedText_pair hh hl]
    simp only [List.length_cons]
    omega
  | cons c before ih =>
    exact Nat.lt_of_le_of_lt (length_joinedText_cons_le c _) (Nat.succ_lt_succ ih)

/-- Only pairs are changed. -/
theorem joinedText_eq_self_iff (cs : List Nat) : joinedText cs = cs ↔ ¬HasPair cs := by
  constructor
  · intro h hpair
    have hlength := length_joinedText_lt hpair
    rw [h] at hlength
    exact Nat.lt_irrefl _ hlength
  · intro h
    induction cs with
    | nil => rfl
    | cons c cs ih =>
      have htail : ¬HasPair cs := by
        rintro ⟨before, high, low, later, rfl, hpair⟩
        exact h ⟨c :: before, high, low, later, rfl, hpair⟩
      rw [joinedText_cons, ih htail]
      by_cases hhigh : IsHigh c
      · cases cs with
        | nil => rfl
        | cons low later =>
          rw [joinSurrogates, if_neg]
          rintro ⟨-, -, hlow⟩
          exact h ⟨[], c, low, later, rfl, hhigh, hlow⟩
      · exact joinSurrogates_of_not_high hhigh cs

/-- A character is no surrogate. -/
theorem not_isHigh_toNat (c : Char) : ¬IsHigh c.toNat := by
  rintro ⟨hlow, hhigh⟩
  rcases c.valid with h | h
  · exact absurd h (Nat.not_lt.mpr hlow)
  · exact absurd h.1 (by change ¬0xDFFF < c.toNat; omega)

theorem joinedText_map_toNat (cs : List Char) :
    joinedText (cs.map Char.toNat) = cs.map Char.toNat := by
  induction cs with
  | nil => rfl
  | cons c cs ih =>
    rw [List.map_cons, joinedText_cons, ih, joinSurrogates_of_not_high (not_isHigh_toNat c)]

theorem joinedText_codePoints (s : String) :
    joinedText (Text.codePoints s) = Text.codePoints s := joinedText_map_toNat s.toList

/-- The units of a code point above U+FFFF make that code point. -/
theorem joinSurrogates_units {c : Nat} (low : 0x10000 ≤ c) (high : c ≤ 0x10FFFF) (cs : List Nat) :
    joinSurrogates (0xD800 + (c - 0x10000) / 0x400)
      (joinSurrogates (0xDC00 + (c - 0x10000) % 0x400) cs) = c :: cs := by
  have hvalue : 0x10000 + (0xD800 + (c - 0x10000) / 0x400 - 0xD800) * 0x400 +
      (0xDC00 + (c - 0x10000) % 0x400 - 0xDC00) = c := by omega
  have hunit : joinSurrogates (0xDC00 + (c - 0x10000) % 0x400) cs =
      (0xDC00 + (c - 0x10000) % 0x400) :: cs :=
    joinSurrogates_of_not_high (fun h => absurd h.2 (by omega)) cs
  rw [hunit, joinSurrogates_pair ⟨by omega, by omega⟩ ⟨by omega, by omega⟩, hvalue]

theorem toNat_ofNat {n : Nat} (h : n < 0xD800) : (Char.ofNat n).toNat = n := by
  have hvalid : n.isValidChar := .inl h
  rw [Char.ofNat, dif_pos hvalid]
  rfl

/-! ## Numbers -/

/-- Digits without a superfluous zero in front. -/
structure IsWhole (digits : List Char) : Prop where
  ne_nil : digits ≠ []
  isDigit : ∀ c ∈ digits, c.isDigit = true
  head : digits = ['0'] ∨ digits.head? ≠ some '0'

/-- A fraction with its point, or none. -/
def IsFraction (f : List Char) : Prop :=
  f = [] ∨ ∃ digits, digits ≠ [] ∧ (∀ c ∈ digits, c.isDigit = true) ∧ f = '.' :: digits

/-- An exponent, with or without a sign, or none. -/
def IsExponent (e : List Char) : Prop :=
  e = [] ∨ ∃ mark sign digits, (mark = 'e' ∨ mark = 'E') ∧
    (sign = [] ∨ sign = ['+'] ∨ sign = ['-']) ∧ digits ≠ [] ∧
    (∀ c ∈ digits, c.isDigit = true) ∧ e = mark :: (sign ++ digits)

def IsUnsigned (s : List Char) : Prop :=
  ∃ w f e, IsWhole w ∧ IsFraction f ∧ IsExponent e ∧ s = w ++ (f ++ e)

/-- A number as JSON has it. -/
def IsNumber (s : List Char) : Prop := IsUnsigned s ∨ ∃ t, IsUnsigned t ∧ s = '-' :: t

/-- The words for doubles that are no numbers. -/
def doubleWords : List (List Char) := [nanWord, infinityWord, '-' :: infinityWord]

/-- What the reader takes for a number. -/
def IsNumeral (written : List Char) : Prop := IsNumber written ∨ written ∈ doubleWords

theorem isWhole_decimal (n : Nat) : IsWhole (Text.decimal n) where
  ne_nil := Text.decimal_ne_nil n
  isDigit := fun _ hc => Text.isDigit_of_mem_decimal hc
  head := by
    by_cases hn : n = 0
    · subst hn
      exact .inl rfl
    · exact .inr (Text.head?_decimal_ne (Nat.pos_of_ne_zero hn))

/-- A number without fraction and exponent. -/
theorem IsWhole.isUnsigned {digits : List Char} (h : IsWhole digits) : IsUnsigned digits :=
  ⟨digits, [], [], h, .inl rfl, .inl rfl, by simp⟩

/-- The first character behind the sign. -/
def behindSign? (s : List Char) : Option Char := (s.dropWhile (· == '-')).head?

theorem IsUnsigned.behindSign {s : List Char} (h : IsUnsigned s) :
    ∃ c, behindSign? s = some c ∧ c.isDigit = true := by
  obtain ⟨w, f, e, hw, -, -, rfl⟩ := h
  obtain ⟨c, cs, rfl⟩ := List.exists_cons_of_ne_nil hw.ne_nil
  have hdigit : c.isDigit = true := hw.isDigit c List.mem_cons_self
  have hminus : c ≠ '-' := by
    rintro rfl
    exact absurd hdigit (by decide)
  exact ⟨c, by simp [behindSign?, hminus], hdigit⟩

theorem IsNumber.behindSign {s : List Char} (h : IsNumber s) :
    ∃ c, behindSign? s = some c ∧ c.isDigit = true := by
  rcases h with hs | ⟨t, ht, rfl⟩
  · exact hs.behindSign
  · exact ht.behindSign

/-- None of the words is a number: a letter stands behind the sign. -/
theorem not_isNumber_of_mem_doubleWords {w : List Char} (h : w ∈ doubleWords) : ¬IsNumber w := by
  intro hnumber
  obtain ⟨c, hc, hdigit⟩ := hnumber.behindSign
  have hletter : ∀ v ∈ doubleWords, (behindSign? v).any Char.isDigit = false := by decide
  have hw := hletter w h
  rw [hc, Option.any_some, hdigit] at hw
  cases hw

theorem isNumber_decimalInt (n : Int) : IsNumber (Text.decimalInt n) := by
  cases n with
  | ofNat n => exact .inl (isWhole_decimal n).isUnsigned
  | negSucc n => exact .inr ⟨_, (isWhole_decimal (n + 1)).isUnsigned, rfl⟩

/-! ## The grammar -/

namespace Grammar

/-- Blanks: `ws = *( %x20 / %x09 / %x0A / %x0D )`. -/
def IsBlank (s : List Char) : Prop := ∀ c ∈ s, c = ' ' ∨ c = '\t' ∨ c = '\n' ∨ c = '\r'

/-- The escapes of one letter, each with the code point that it stands for. -/
def letters : List (Char × Nat) :=
  [('"', 0x22), ('\\', 0x5C), ('/', 0x2F), ('b', 0x08), ('f', 0x0C), ('n', 0x0A), ('r', 0x0D),
    ('t', 0x09)]

/-- One `char`, with the code point or the unit that it stands for. -/
inductive Sign : List Char → Nat → Prop where
  /-- As it is: `unescaped = %x20-21 / %x23-5B / %x5D-10FFFF`. -/
  | plain {c : Char} : 0x20 ≤ c.toNat → c ≠ '"' → c ≠ '\\' → Sign [c] c.toNat
  /-- One letter: `escape ( %x22 / %x5C / %x2F / %x62 / %x66 / %x6E / %x72 / %x74 )`. -/
  | letter {e : Char} {n : Nat} : (e, n) ∈ letters → Sign ['\\', e] n
  /-- One unit: `escape %x75 4HEXDIG`. -/
  | unit {a b c d : Char} {n : Nat} : Text.ofHex? [a, b, c, d] = some n →
      Sign ['\\', 'u', a, b, c, d] n

/-- Any number of them: `*char`. A high surrogate makes one code point with a low one behind it. -/
inductive Signs : List Char → List Nat → Prop where
  | nil : Signs [] []
  | cons {s t : List Char} {n : Nat} {cs : List Nat} : Sign s n → Signs t cs →
      Signs (s ++ t) (joinSurrogates n cs)

/-- A text: `string = quotation-mark *char quotation-mark`. -/
inductive Quoted : List Char → List Nat → Prop where
  | mk {s : List Char} {cs : List Nat} : Signs s cs → Quoted ('"' :: (s ++ ['"'])) cs

variable (N : List Char → Prop)

mutual

/-- A value: `value = false / null / true / object / array / number / string`. -/
inductive Value : List Char → Json → Prop where
  | null : Value ['n', 'u', 'l', 'l'] .null
  | true : Value ['t', 'r', 'u', 'e'] (.bool true)
  | false : Value ['f', 'a', 'l', 's', 'e'] (.bool false)
  | number {s : List Char} : N s → Value s (.number s)
  | text {s : List Char} {cs : List Nat} : Quoted s cs → Value s (.text cs)
  | emptyArray {b : List Char} : IsBlank b → Value ('[' :: (b ++ [']'])) (.array [])
  /-- Rule `array = begin-array [ value *( value-separator value ) ] end-array`. -/
  | array {s : List Char} {items : List Json} : Items s items →
      Value ('[' :: (s ++ [']'])) (.array items)
  | emptyObject {b : List Char} : IsBlank b → Value ('\x7b' :: (b ++ ['\x7d'])) (.object [])
  /-- Rule `object = begin-object [ member *( value-separator member ) ] end-object`. -/
  | object {s : List Char} {members : List (List Nat × Json)} : Members s members →
      Value ('\x7b' :: (s ++ ['\x7d'])) (.object members)

/-- A value between blanks, which is what a whole text is: `JSON-text = ws value ws`. -/
inductive Element : List Char → Json → Prop where
  | mk {b s c : List Char} {j : Json} : IsBlank b → Value s j → IsBlank c →
      Element (b ++ (s ++ c)) j

/-- One or more values. -/
inductive Items : List Char → List Json → Prop where
  | one {s : List Char} {j : Json} : Element s j → Items s [j]
  | more {s t : List Char} {j : Json} {items : List Json} : Element s j → Items t items →
      Items (s ++ ',' :: t) (j :: items)

/-- A member: `member = string name-separator value`. -/
inductive Member : List Char → List Nat × Json → Prop where
  | mk {b n c s : List Char} {name : List Nat} {j : Json} : IsBlank b → Quoted n name → IsBlank c →
      Element s j → Member (b ++ (n ++ (c ++ ':' :: s))) (name, j)

/-- One or more members. -/
inductive Members : List Char → List (List Nat × Json) → Prop where
  | one {s : List Char} {m : List Nat × Json} : Member s m → Members s [m]
  | more {s t : List Char} {m : List Nat × Json} {members : List (List Nat × Json)} :
      Member s m → Members t members → Members (s ++ ',' :: t) (m :: members)

end

end Grammar

/-! ## Values -/

mutual

/-- Numbers are numerals, and code points are in their range. -/
def IsReadable : Json → Prop
  | .null | .bool _ => True
  | .number written => IsNumeral written
  | .text codePoints => InRange codePoints
  | .array items => AreReadable items
  | .object members => HasReadable members

def AreReadable : List Json → Prop
  | [] => True
  | item :: items => item.IsReadable ∧ AreReadable items

def HasReadable : List (List Nat × Json) → Prop
  | [] => True
  | (name, value) :: members =>
    InRange name ∧ value.IsReadable ∧ HasReadable members

end

mutual

/-- A value with the surrogates of its texts and names joined. -/
def joined : Json → Json
  | .text codePoints => .text (joinedText codePoints)
  | .array items => .array (joinedItems items)
  | .object members => .object (joinedMembers members)
  | .null => .null
  | .bool b => .bool b
  | .number written => .number written

def joinedItems : List Json → List Json
  | [] => []
  | item :: items => item.joined :: joinedItems items

def joinedMembers : List (List Nat × Json) → List (List Nat × Json)
  | [] => []
  | (name, value) :: members => (joinedText name, value.joined) :: joinedMembers members

end

/-! ## What is in a value -/

mutual

/-- The numbers in a value, as they are written. -/
def numbers : Json → List (List Char)
  | .number written => [written]
  | .array items => itemNumbers items
  | .object members => memberNumbers members
  | .null | .bool _ | .text _ => []

def itemNumbers : List Json → List (List Char)
  | [] => []
  | item :: items => item.numbers ++ itemNumbers items

def memberNumbers : List (List Nat × Json) → List (List Char)
  | [] => []
  | (_, value) :: members => value.numbers ++ memberNumbers members

end

mutual

/-- The names of the members, for each object in a value. -/
def nameLists : Json → List (List (List Nat))
  | .array items => itemNameLists items
  | .object members => members.map (·.1) :: memberNameLists members
  | .null | .bool _ | .number _ | .text _ => []

def itemNameLists : List Json → List (List (List Nat))
  | [] => []
  | item :: items => item.nameLists ++ itemNameLists items

def memberNameLists : List (List Nat × Json) → List (List (List Nat))
  | [] => []
  | (_, value) :: members => value.nameLists ++ memberNameLists members

end

mutual

theorem numbers_joined (j : Json) : j.joined.numbers = j.numbers := by
  cases j with
  | array items => exact itemNumbers_joined items
  | object members => exact memberNumbers_joined members
  | null | bool _ | number _ | text _ => rfl

theorem itemNumbers_joined (items : List Json) :
    itemNumbers (joinedItems items) = itemNumbers items := by
  match items with
  | [] => rfl
  | item :: items =>
    rw [joinedItems, itemNumbers, itemNumbers, numbers_joined item, itemNumbers_joined items]

theorem memberNumbers_joined (members : List (List Nat × Json)) :
    memberNumbers (joinedMembers members) = memberNumbers members := by
  match members with
  | [] => rfl
  | (_, value) :: members =>
    rw [joinedMembers, memberNumbers, memberNumbers, numbers_joined value,
      memberNumbers_joined members]

end

mutual

theorem isNumeral_of_mem_numbers (j : Json) (h : j.IsReadable) : ∀ w ∈ j.numbers, IsNumeral w := by
  cases j with
  | number written => exact List.forall_mem_singleton.mpr h
  | array items => exact isNumeral_of_mem_itemNumbers items h
  | object members => exact isNumeral_of_mem_memberNumbers members h
  | null | bool _ | text _ => exact nofun

theorem isNumeral_of_mem_itemNumbers (items : List Json) (h : AreReadable items) :
    ∀ w ∈ itemNumbers items, IsNumeral w := by
  match items, h with
  | [], _ => exact nofun
  | item :: items, h =>
    exact List.forall_mem_append.mpr
      ⟨isNumeral_of_mem_numbers item h.1, isNumeral_of_mem_itemNumbers items h.2⟩

theorem isNumeral_of_mem_memberNumbers (members : List (List Nat × Json))
    (h : HasReadable members) : ∀ w ∈ memberNumbers members, IsNumeral w := by
  match members, h with
  | [], _ => exact nofun
  | (_, value) :: members, h =>
    exact List.forall_mem_append.mpr
      ⟨isNumeral_of_mem_numbers value h.2.1, isNumeral_of_mem_memberNumbers members h.2.2⟩

end

namespace Grammar

variable {N : List Char → Prop}

mutual

/-- Only the given numbers occur in what is derived. -/
theorem Value.numbers {s : List Char} {j : Json} (h : Value N s j) : ∀ w ∈ j.numbers, N w := by
  match h with
  | .number hs => exact List.forall_mem_singleton.mpr hs
  | .array hitems => exact Items.numbers hitems
  | .object hmembers => exact Members.numbers hmembers
  | .null | .true | .false | .text _ | .emptyArray _ | .emptyObject _ => exact nofun

theorem Element.numbers {s : List Char} {j : Json} (h : Element N s j) :
    ∀ w ∈ j.numbers, N w := by
  match h with
  | .mk _ hvalue _ => exact Value.numbers hvalue

theorem Items.numbers {s : List Char} {items : List Json} (h : Items N s items) :
    ∀ w ∈ itemNumbers items, N w := by
  match h with
  | .one hitem => exact List.forall_mem_append.mpr ⟨Element.numbers hitem, nofun⟩
  | .more hitem hitems =>
    exact List.forall_mem_append.mpr ⟨Element.numbers hitem, Items.numbers hitems⟩

theorem Member.numbers {s : List Char} {m : List Nat × Json} (h : Member N s m) :
    ∀ w ∈ m.2.numbers, N w := by
  match h with
  | .mk _ _ _ hvalue => exact Element.numbers hvalue

theorem Members.numbers {s : List Char} {members : List (List Nat × Json)}
    (h : Members N s members) : ∀ w ∈ memberNumbers members, N w := by
  match h with
  | .one hmember => exact List.forall_mem_append.mpr ⟨Member.numbers hmember, nofun⟩
  | .more hmember hmembers =>
    exact List.forall_mem_append.mpr ⟨Member.numbers hmember, Members.numbers hmembers⟩

end

/-! ## Printed values -/

theorem Signs.unitEscape {n : Nat} (hn : n < 0x10000) {s : List Char} {cs : List Nat}
    (h : Signs s cs) : Signs (unitEscape n ++ s) (joinSurrogates n cs) := by
  have hread := Text.ofHex?_hex4 hn
  rw [Text.hex4_eq hn] at hread
  rw [Json.unitEscape, Text.hex4_eq hn]
  exact .cons (.unit hread) h

/-- The escape of a code point stands for it, and is joined to what follows. -/
theorem Signs.escape {c : Nat} (hc : c ≤ 0x10FFFF) {s : List Char} {cs : List Nat}
    (h : Signs s cs) : Signs (escape c ++ s) (joinSurrogates c cs) := by
  unfold Json.escape
  -- The escapes of one letter.
  iterate 7
    split
    · next hletter =>
      subst hletter
      exact .cons (.letter (by decide)) h
  split
  · next hquote hbackslash _ _ _ _ _ hplain =>
    have hnat : (Char.ofNat c).toNat = c := toNat_ofNat (by omega)
    have hsign : Sign [Char.ofNat c] (Char.ofNat c).toNat := by
      refine .plain (by omega) ?_ ?_
      · exact fun hchar => hquote (by rw [← hnat, hchar]; rfl)
      · exact fun hchar => hbackslash (by rw [← hnat, hchar]; rfl)
    rw [hnat] at hsign
    exact .cons hsign h
  split
  · next hunit => exact h.unitEscape hunit
  · next hunit =>
    have hhigh : ¬IsHigh c := fun hhigh => hunit (Nat.lt_trans hhigh.2 (by decide))
    rw [joinSurrogates_of_not_high hhigh, ← joinSurrogates_units (Nat.not_lt.mp hunit) hc,
      pairEscape, List.append_assoc]
    exact (h.unitEscape (by omega)).unitEscape (by omega)

theorem quoted_quote {cs : List Nat} (h : InRange cs) : Quoted (quote cs) (joinedText cs) := by
  refine .mk ?_
  induction cs with
  | nil => exact .nil
  | cons c cs ih =>
    rw [List.flatMap_cons]
    exact (ih fun d hd => h d (List.mem_cons_of_mem _ hd)).escape (h c List.mem_cons_self)

theorem isBlank_nil : IsBlank [] := by simp [IsBlank]

theorem Value.element {s : List Char} {j : Json} (h : Value N s j) : Element N s j := by
  have helement := Element.mk isBlank_nil h isBlank_nil
  rwa [List.nil_append, List.append_nil] at helement

/-- A blank may stand in front. -/
theorem Element.space {s : List Char} {j : Json} (h : Element N s j) : Element N (' ' :: s) j := by
  cases h with
  | mk hb hvalue hc => exact .mk (List.forall_mem_cons.mpr ⟨.inl rfl, hb⟩) hvalue hc

theorem Items.space {s : List Char} {items : List Json} (h : Items N s items) :
    Items N (' ' :: s) items := by
  cases h with
  | one hitem => exact .one hitem.space
  | more hitem hitems => exact .more hitem.space hitems

theorem Member.space {s : List Char} {m : List Nat × Json} (h : Member N s m) :
    Member N (' ' :: s) m := by
  cases h with
  | mk hb hname hc hvalue => exact .mk (List.forall_mem_cons.mpr ⟨.inl rfl, hb⟩) hname hc hvalue

theorem Members.space {s : List Char} {members : List (List Nat × Json)} (h : Members N s members) :
    Members N (' ' :: s) members := by
  cases h with
  | one hmember => exact .one hmember.space
  | more hmember hmembers => exact .more hmember.space hmembers

theorem Value.member {n s : List Char} {name : List Nat} {j : Json} (hname : Quoted n name)
    (h : Value N s j) : Member N (n ++ ':' :: ' ' :: s) (name, j) :=
  .mk isBlank_nil hname isBlank_nil h.element.space

mutual

/-- What is printed stands for the value, with its surrogates joined. -/
theorem value_print (j : Json) (h : j.IsReadable) (hn : ∀ w ∈ j.numbers, N w) :
    Value N j.print j.joined := by
  cases j with
  | null => exact .null
  | bool b =>
    cases b with
    | true => exact .true
    | false => exact .false
  | number written => exact .number (hn _ (List.mem_singleton_self _))
  | text codePoints => exact .text (quoted_quote h)
  | array items =>
    match items, h, hn with
    | [], _, _ => exact .emptyArray isBlank_nil
    | item :: items, h, hn => exact .array (items_print (item :: items) h hn (by simp))
  | object members =>
    match members, h, hn with
    | [], _, _ => exact .emptyObject isBlank_nil
    | m :: members, h, hn => exact .object (members_print (m :: members) h hn (by simp))

theorem items_print (items : List Json) (h : AreReadable items)
    (hn : ∀ w ∈ itemNumbers items, N w) (hne : items ≠ []) :
    Items N (printItems items) (joinedItems items) := by
  match items, h with
  | [], _ => exact absurd rfl hne
  | [item], h =>
    have hitem := (List.forall_mem_append.mp hn).1
    exact .one (value_print item h.1 hitem).element
  | item :: next :: more, h =>
    obtain ⟨hitem, hmore⟩ := List.forall_mem_append.mp hn
    have hitems := items_print (next :: more) h.2 hmore (by simp)
    exact .more (value_print item h.1 hitem).element hitems.space

theorem members_print (members : List (List Nat × Json)) (h : HasReadable members)
    (hn : ∀ w ∈ memberNumbers members, N w) (hne : members ≠ []) :
    Members N (printMembers members) (joinedMembers members) := by
  match members, h with
  | [], _ => exact absurd rfl hne
  | [(name, item)], h =>
    have hitem := (List.forall_mem_append.mp hn).1
    exact .one ((value_print item h.2.1 hitem).member (quoted_quote h.1))
  | (name, item) :: next :: more, h =>
    obtain ⟨hitem, hmore⟩ := List.forall_mem_append.mp hn
    have hmember := (value_print item h.2.1 hitem).member (quoted_quote h.1)
    have hmembers := members_print (next :: more) h.2.2 hmore (by simp)
    have hprint : printMembers ((name, item) :: next :: more) =
        (quote name ++ ':' :: ' ' :: item.print) ++ ',' :: ' ' :: printMembers (next :: more) := by
      simp [printMembers]
    rw [hprint]
    exact .more hmember hmembers.space

end

end Grammar

end Accounts.Json
