import Accounts.Label.Encoding
import Accounts.Proofs.Label.Punycode
import Accounts.Proofs.Label.Sources

/-!
Full stops in encoded labels. Three code points besides the full stop itself are mapped to one, and
an encoded label falls into pieces exactly when the label holds one of the four.
-/
namespace Accounts.Label

open Text.Normal (IsStandalone)

/-! ## Mapping -/

/-- The other code points that mapping replaces by a full stop: the ideographic one, the fullwidth
one, and the halfwidth form of the first. -/
def otherStops : List Nat := [0x3002, 0xFF0E, 0xFF61]

/-- A full stop, in whatever form. -/
def IsStop (c : Nat) : Prop := c = fullStop ∨ c ∈ otherStops

/-- A full stop is composed with nothing. -/
theorem isStandalone_fullStop : IsStandalone fullStop :=
  Text.Normal.isStandalone_of_lt (by decide)

theorem sources_fullStop : ∀ c ∈ sources fullStop, c ∈ otherStops := by decide +kernel

theorem mapCodePoint_stop {c : Nat} (h : IsStop c) : mapCodePoint c = some [fullStop] := by
  have hall : ∀ d ∈ fullStop :: otherStops, mapCodePoint d = some [fullStop] := by
    decide +kernel
  exact hall c (List.mem_cons.mpr h)

/-- Only the four are replaced by a full stop. -/
theorem fullStop_mem_mapCodePoint_iff {c : Nat} {ds : List Nat} (h : mapCodePoint c = some ds) :
    fullStop ∈ ds ↔ IsStop c := by
  constructor
  · intro hmem
    rcases source_of_mem_mapCodePoint h hmem with hc | ⟨hc, -, hx⟩ | hc
    · exact .inl hc
    · simp only [fullStop] at hx
      omega
    · exact .inr (sources_fullStop c hc)
  · intro hc
    rw [mapCodePoint_stop hc] at h
    cases h
    exact List.mem_singleton_self _

/-- The mapped form of a text holds a full stop when the text holds one in whatever form. -/
theorem fullStop_mem_map_iff {text mapped : List Nat} (h : map text = .ok mapped) :
    fullStop ∈ mapped ↔ ∃ c ∈ text, IsStop c := by
  rw [mem_map_iff isStandalone_fullStop h]
  constructor
  · rintro ⟨c, hc, ds, hds, hmem⟩
    exact ⟨c, hc, (fullStop_mem_mapCodePoint_iff hds).mp hmem⟩
  · rintro ⟨c, hc, hstop⟩
    exact ⟨c, hc, [fullStop], mapCodePoint_stop hstop, List.mem_singleton_self _⟩

/-! ## Ends -/

/-- The code points of a text that mapping does not drop. -/
def kept (text : List Nat) : List Nat := text.filter fun c => mapCodePoint c != some []

theorem kept_cons_of_nil {c : Nat} (h : mapCodePoint c = some []) (cs : List Nat) :
    kept (c :: cs) = kept cs := by
  simp [kept, h]

theorem kept_cons_of_ne_nil {c : Nat} {ds : List Nat} (h : mapCodePoint c = some ds)
    (hne : ds ≠ []) (cs : List Nat) : kept (c :: cs) = c :: kept cs := by
  simp [kept, h, hne]

/-- A full stop is alone in what replaces a code point. -/
theorem ends_mapCodePoint_iff {c : Nat} {ds : List Nat} (h : mapCodePoint c = some ds) :
    (ds.head? = some fullStop ↔ IsStop c) ∧ (ds.getLast? = some fullStop ↔ IsStop c) := by
  have hmem := fullStop_mem_mapCodePoint_iff h
  have hback : IsStop c → ds = [fullStop] := by
    intro hc
    rw [mapCodePoint_stop hc] at h
    exact (Option.some.inj h).symm
  refine ⟨⟨fun hd => hmem.mp (List.mem_of_head? hd), fun hc => ?_⟩,
    fun hd => hmem.mp (List.mem_of_getLast? hd), fun hc => ?_⟩
  · simp [hback hc]
  · simp [hback hc]

theorem mapAll_eq_nil_iff {text all : List Nat} (h : mapAll text = some all) :
    all = [] ↔ kept text = [] := by
  induction text generalizing all with
  | nil =>
    cases h
    simp [kept]
  | cons c cs ih =>
    obtain ⟨ds, es, hc, hcs, rfl⟩ := mapAll_cons_eq_some h
    by_cases hds : ds = []
    · subst hds
      rw [kept_cons_of_nil hc, List.nil_append]
      exact ih hcs
    · rw [kept_cons_of_ne_nil hc hds]
      simp [hds]

/-- The replacements begin with a full stop when the first code point that is kept is one. -/
theorem head?_mapAll_iff {text all : List Nat} (h : mapAll text = some all) :
    all.head? = some fullStop ↔ ∃ c, (kept text).head? = some c ∧ IsStop c := by
  induction text generalizing all with
  | nil =>
    cases h
    simp [kept]
  | cons c cs ih =>
    obtain ⟨ds, es, hc, hcs, rfl⟩ := mapAll_cons_eq_some h
    by_cases hds : ds = []
    · subst hds
      rw [kept_cons_of_nil hc, List.nil_append]
      exact ih hcs
    · rw [kept_cons_of_ne_nil hc hds, List.head?_append, Option.or_of_isSome (by simpa using hds),
        (ends_mapCodePoint_iff hc).1]
      simp

/-- They end with one when the last code point that is kept is one. -/
theorem getLast?_mapAll_iff {text all : List Nat} (h : mapAll text = some all) :
    all.getLast? = some fullStop ↔ ∃ c, (kept text).getLast? = some c ∧ IsStop c := by
  induction text generalizing all with
  | nil =>
    cases h
    simp [kept]
  | cons c cs ih =>
    obtain ⟨ds, es, hc, hcs, rfl⟩ := mapAll_cons_eq_some h
    have hnil := mapAll_eq_nil_iff hcs
    by_cases hes : es = []
    · -- Nothing behind the first is kept.
      have hbehind := hnil.mp hes
      subst hes
      rw [List.append_nil]
      by_cases hds : ds = []
      · subst hds
        simp [kept_cons_of_nil hc, hbehind]
      · rw [kept_cons_of_ne_nil hc hds, (ends_mapCodePoint_iff hc).2, hbehind]
        simp
    · have hbehind : kept cs ≠ [] := mt hnil.mpr hes
      have hlast : (kept (c :: cs)).getLast? = (kept cs).getLast? := by
        by_cases hds : ds = []
        · subst hds
          rw [kept_cons_of_nil hc]
        · rw [kept_cons_of_ne_nil hc hds, List.getLast?_cons_of_ne_nil hbehind]
      rw [List.getLast?_append_of_ne_nil _ hes, ih hcs, hlast]

/-- The mapped form of a text begins, and ends, with a full stop when the first, and the last, code
point that is kept is one. -/
theorem ends_map_iff {text mapped : List Nat} (h : map text = .ok mapped) :
    (mapped.head? = some fullStop ↔ ∃ c, (kept text).head? = some c ∧ IsStop c) ∧
      (mapped.getLast? = some fullStop ↔ ∃ c, (kept text).getLast? = some c ∧ IsStop c) := by
  obtain ⟨all, hall, rfl⟩ := exists_mapAll h
  obtain ⟨hhead, hlast⟩ := Text.Normal.ends_composed_iff isStandalone_fullStop all
  exact ⟨hhead.trans (head?_mapAll_iff hall), hlast.trans (getLast?_mapAll_iff hall)⟩

/-! ## Pieces -/

theorem eq_fullStop_of_ofNat {n : Nat} (hn : n < 0x80) (h : Char.ofNat n = '.') : n = fullStop := by
  have hall : ∀ m < 0x80, Char.ofNat m = '.' → m = fullStop := by decide
  exact hall n hn h

/-- ASCII without a full stop is written without a dot. -/
theorem dot_notMem_toChars {label : List Nat} (ha : isAscii label = true) (h : fullStop ∉ label) :
    '.' ∉ toChars label := by
  intro hmem
  obtain ⟨n, hn, hc⟩ := List.mem_map.mp hmem
  have hlt : n < 0x80 := Nat.blt_eq.mp (List.all_eq_true.mp ha n hn)
  exact h (eq_fullStop_of_ofNat hlt hc ▸ hn)

theorem dot_notMem_ace {label : List Nat} (h : fullStop ∉ label) : '.' ∉ ace label := by
  intro hmem
  rcases List.mem_append.mp hmem with hp | he
  · revert hp
    decide
  · rcases Punycode.isPlain_or_of_mem_encode he with hd | ⟨n, hn, hlt, hc⟩
    · revert hd
      decide
    · exact h (eq_fullStop_of_ofNat hlt hc.symm ▸ hn)

/-- An empty label does not pass. -/
theorem encodePiece_nil : encodePiece [] = .error .malformed := rfl

/-- What an encoded piece looks like. -/
theorem encodePiece_eq {label : List Nat} {encoded : List Char}
    (h : encodePiece label = .ok encoded) :
    encoded = if isAscii label then toChars label else ace label := by
  unfold encodePiece at h
  split at h
  · cases h
  · dsimp only at h
    by_cases hl : labelLimit < (if isAscii label then toChars label else ace label).length
    · rw [if_pos hl] at h
      cases h
    · rw [if_neg hl] at h
      exact (Except.ok.inj h).symm

/-- A piece is encoded as something, without a dot. -/
theorem encodePiece_dotless {label : List Nat} {encoded : List Char}
    (h : encodePiece label = .ok encoded) (hs : fullStop ∉ label) :
    encoded ≠ [] ∧ '.' ∉ encoded := by
  have hne : label ≠ [] := by
    rintro rfl
    rw [encodePiece_nil] at h
    cases h
  rw [encodePiece_eq h]
  by_cases ha : isAscii label
  · rw [if_pos ha]
    exact ⟨by simpa [toChars] using hne, dot_notMem_toChars ha hs⟩
  · rw [if_neg ha]
    exact ⟨by simp [ace, acePrefix], dot_notMem_ace hs⟩

/-- Labels without full stops are encoded one by one, each without a dot. -/
theorem encodePieces_dotless {labels : List (List Nat)} {pieces : List (List Char)}
    (h : encodePieces labels = .ok pieces) (hs : ∀ label ∈ labels, fullStop ∉ label) :
    pieces.length = labels.length ∧ ∀ piece ∈ pieces, '.' ∉ piece := by
  induction labels using encodePieces.induct generalizing pieces with
  | case1 =>
    cases h
    exact ⟨rfl, by simp⟩
  | case2 =>
    cases h
    exact ⟨rfl, by simp⟩
  | case3 label rest hne e he =>
    simp only [encodePieces, he] at h
    cases h
  | case4 label rest hne encoded he e hr ih =>
    simp only [encodePieces, he, hr] at h
    cases h
  | case5 label rest hne encoded he rest' hr ih =>
    simp only [encodePieces, he, hr, Except.ok.injEq] at h
    subst h
    obtain ⟨hl, hd⟩ := ih hr fun l hl => hs l (List.mem_cons_of_mem _ hl)
    have hfirst := encodePiece_dotless he (hs label List.mem_cons_self)
    refine ⟨by simp [hl], ?_⟩
    intro piece hp
    rcases List.mem_cons.mp hp with rfl | hp
    · exact hfirst.2
    · exact hd piece hp

/-- One piece is encoded by itself. -/
theorem encodePieces_singleton {label : List Nat} {pieces : List (List Char)} (hne : label ≠ [])
    (h : encodePieces [label] = .ok pieces) :
    ∃ piece, encodePiece label = .ok piece ∧ pieces = [piece] := by
  cases label with
  | nil => exact absurd rfl hne
  | cons c cs =>
    cases he : encodePiece (c :: cs) with
    | error e =>
      simp only [encodePieces, he] at h
      cases h
    | ok piece =>
      simp only [encodePieces, he, Except.ok.injEq] at h
      exact ⟨piece, rfl, h.symm⟩

/-! ## Whole labels -/

/-- What a strictly encoded label is made of. -/
theorem encodeStrict_cases {label : List Nat} {name : List Char}
    (h : encodeStrict label = .ok name) :
    ∃ mapped pieces, map label = .ok mapped ∧ mapped ≠ [] ∧
      encodePieces (Text.splitOn fullStop mapped) = .ok pieces ∧
      name = Text.joinWith '.' pieces := by
  unfold encodeStrict at h
  cases hm : map label with
  | error e =>
    rw [hm] at h
    cases h
  | ok mapped =>
    rw [hm] at h
    dsimp only at h
    split at h
    · cases h
    · next hlong =>
      cases hp : encodePieces (Text.splitOn fullStop mapped) with
      | error e =>
        rw [hp] at h
        cases h
      | ok pieces =>
        rw [hp] at h
        dsimp only at h
        refine ⟨mapped, pieces, rfl, fun hempty => hlong (.inl hempty), hp, ?_⟩
        by_cases hl : (if pieces.getLast? = some [] then nameLimit + 1 else nameLimit) <
            (Text.joinWith '.' pieces).length
        · rw [if_pos hl] at h
          cases h
        · rw [if_neg hl] at h
          exact (Except.ok.inj h).symm

/-- A strictly encoded label has a dot when the label holds a full stop, in whatever form. One
without a dot is not empty. -/
theorem encodeStrict_dot {label : List Nat} {name : List Char} (h : encodeStrict label = .ok name) :
    ('.' ∈ name ↔ ∃ c ∈ label, IsStop c) ∧ ('.' ∉ name → name ≠ []) := by
  obtain ⟨mapped, pieces, hm, hne, hp, rfl⟩ := encodeStrict_cases h
  obtain ⟨hl, hd⟩ := encodePieces_dotless hp fun l hl => Text.notMem_of_mem_splitOn hl
  have hdot : '.' ∈ Text.joinWith '.' pieces ↔ fullStop ∈ mapped := by
    rw [Text.mem_joinWith_iff hd, hl, Text.two_le_length_splitOn_iff]
  refine ⟨hdot.trans (fullStop_mem_map_iff hm), ?_⟩
  intro hn
  have hs : fullStop ∉ mapped := fun hs => hn (hdot.mpr hs)
  rw [Text.splitOn_of_notMem hs] at hp
  obtain ⟨piece, he, rfl⟩ := encodePieces_singleton hne hp
  exact (encodePiece_dotless he hs).1

end Accounts.Label
