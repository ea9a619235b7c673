/-!
Splitting a text at every occurrence of a separator, and joining the pieces again.
-/
namespace Accounts.Text

variable {α : Type}

/-- The pieces between the separators; there is always at least one. -/
def splitOn [DecidableEq α] (sep : α) : List α → List (List α)
  | [] => [[]]
  | c :: cs =>
    if c = sep then [] :: splitOn sep cs
    else
      match splitOn sep cs with
      | [] => [[c]]
      | piece :: pieces => (c :: piece) :: pieces

def joinWith (sep : α) : List (List α) → List α
  | [] => []
  | [piece] => piece
  | piece :: pieces => piece ++ sep :: joinWith sep pieces

theorem splitOn_ne_nil [DecidableEq α] (sep : α) (s : List α) : splitOn sep s ≠ [] := by
  cases s with
  | nil => simp [splitOn]
  | cons c cs =>
    unfold splitOn; split
    · simp
    · split <;> simp

@[simp] theorem joinWith_cons_cons (sep : α) (p q : List α) (ps : List (List α)) :
    joinWith sep (p :: q :: ps) = p ++ sep :: joinWith sep (q :: ps) := rfl

theorem joinWith_cons (sep : α) (p : List α) {ps : List (List α)} (h : ps ≠ []) :
    joinWith sep (p :: ps) = p ++ sep :: joinWith sep ps := by
  cases ps with
  | nil => exact absurd rfl h
  | cons q ps => rfl

/-- Joining undoes splitting. -/
theorem joinWith_splitOn [DecidableEq α] (sep : α) (s : List α) :
    joinWith sep (splitOn sep s) = s := by
  induction s with
  | nil => rfl
  | cons c cs ih =>
    unfold splitOn
    split
    · next h => rw [joinWith_cons _ _ (splitOn_ne_nil sep cs), ih, h]; rfl
    · split
      · next h => exact absurd h (splitOn_ne_nil sep cs)
      · next piece pieces h =>
        rw [h] at ih
        rw [← ih]
        cases pieces <;> rfl

/-- A separator parts what stands before it from what stands behind. -/
theorem splitOn_append_cons [DecidableEq α] (sep : α) (s t : List α) :
    splitOn sep (s ++ sep :: t) = splitOn sep s ++ splitOn sep t := by
  induction s with
  | nil => simp [splitOn]
  | cons c cs ih =>
    by_cases h : c = sep
    · simp only [List.cons_append, splitOn, h, if_true]
      rw [ih]
    · simp only [List.cons_append, splitOn, h, if_false]
      rw [ih]
      cases hp : splitOn sep cs with
      | nil => exact absurd hp (splitOn_ne_nil sep cs)
      | cons piece pieces => rfl

/-- No piece holds a separator. -/
theorem notMem_of_mem_splitOn [DecidableEq α] {sep : α} {s piece : List α}
    (h : piece ∈ splitOn sep s) : sep ∉ piece := by
  induction s generalizing piece with
  | nil =>
    have hp : piece = [] := by simpa [splitOn] using h
    simp [hp]
  | cons c cs ih =>
    by_cases hc : c = sep
    · simp only [splitOn, hc, if_true, List.mem_cons] at h
      rcases h with rfl | h
      · simp
      · exact ih h
    · simp only [splitOn, hc, if_false] at h
      cases hp : splitOn sep cs with
      | nil => exact absurd hp (splitOn_ne_nil sep cs)
      | cons first pieces =>
        rw [hp] at h ih
        rcases List.mem_cons.mp h with rfl | h
        · have hf := ih List.mem_cons_self
          simp [hf, Ne.symm hc]
        · exact ih (List.mem_cons_of_mem _ h)

/-- A text without separators is one piece. -/
theorem splitOn_of_notMem [DecidableEq α] {sep : α} {s : List α} (h : sep ∉ s) :
    splitOn sep s = [s] := by
  induction s with
  | nil => rfl
  | cons c cs ih =>
    have hc : c ≠ sep := fun hc => h (by simp [hc])
    have hcs : sep ∉ cs := fun hcs => h (List.mem_cons_of_mem c hcs)
    simp only [splitOn, hc, if_false]
    rw [ih hcs]

/-- The pieces of a joined text are those of its parts. -/
theorem splitOn_joinWith_eq_flatMap [DecidableEq α] (sep : α) {parts : List (List α)}
    (hne : parts ≠ []) : splitOn sep (joinWith sep parts) = parts.flatMap (splitOn sep) := by
  match parts with
  | [] => exact absurd rfl hne
  | [p] => simp [joinWith]
  | p :: q :: ps =>
    rw [joinWith_cons_cons, splitOn_append_cons, splitOn_joinWith_eq_flatMap sep (by simp)]
    rfl

/-- Splitting undoes joining when no piece holds a separator. -/
theorem splitOn_joinWith [DecidableEq α] {sep : α} {pieces : List (List α)} (hne : pieces ≠ [])
    (h : ∀ p ∈ pieces, sep ∉ p) : splitOn sep (joinWith sep pieces) = pieces := by
  rw [splitOn_joinWith_eq_flatMap sep hne]
  clear hne
  induction pieces with
  | nil => rfl
  | cons p ps ih =>
    rw [List.flatMap_cons, splitOn_of_notMem (h p List.mem_cons_self),
      ih fun q hq => h q (List.mem_cons_of_mem p hq)]
    rfl

/-- What is in a joined text comes from a piece, or is the separator. -/
theorem mem_joinWith {sep c : α} {pieces : List (List α)} (h : c ∈ joinWith sep pieces) :
    c = sep ∨ ∃ p ∈ pieces, c ∈ p := by
  match pieces with
  | [] => cases h
  | [p] => exact .inr ⟨p, by simp, h⟩
  | p :: q :: ps =>
    rw [joinWith_cons_cons, List.mem_append, List.mem_cons] at h
    rcases h with h | rfl | h
    · exact .inr ⟨p, by simp, h⟩
    · exact .inl rfl
    · rcases mem_joinWith h with rfl | ⟨r, hr, hc⟩
      · exact .inl rfl
      · exact .inr ⟨r, List.mem_cons_of_mem _ hr, hc⟩

theorem mem_joinWith_of_mem {sep c : α} {p : List α} {pieces : List (List α)} (hp : p ∈ pieces)
    (hc : c ∈ p) : c ∈ joinWith sep pieces := by
  match pieces with
  | [] => cases hp
  | [q] =>
    obtain rfl := List.mem_singleton.mp hp
    exact hc
  | q :: r :: ps =>
    rw [joinWith_cons_cons, List.mem_append, List.mem_cons]
    rcases List.mem_cons.mp hp with rfl | hp
    · exact .inl hc
    · exact .inr (.inr (mem_joinWith_of_mem hp hc))

/-- What is in a piece is in the text. -/
theorem mem_of_mem_splitOn [DecidableEq α] {sep c : α} {s piece : List α}
    (hp : piece ∈ splitOn sep s) (hc : c ∈ piece) : c ∈ s := by
  rw [← joinWith_splitOn sep s]
  exact mem_joinWith_of_mem hp hc

/-- A separator stands between what is joined of two parts. -/
theorem joinWith_append (sep : α) {ps qs : List (List α)} (hp : ps ≠ []) (hq : qs ≠ []) :
    joinWith sep (ps ++ qs) = joinWith sep ps ++ sep :: joinWith sep qs := by
  induction ps with
  | nil => exact absurd rfl hp
  | cons p ps ih =>
    cases ps with
    | nil => exact joinWith_cons sep p hq
    | cons r ps =>
      have hrest := ih (List.cons_ne_nil r ps)
      rw [List.cons_append] at hrest
      simp [hrest]

/-- Splitting does not mind a change of the letters that leaves the separator alone. -/
theorem splitOn_map [DecidableEq α] {sep : α} {f : α → α} (h : ∀ c, f c = sep ↔ c = sep)
    (s : List α) : splitOn sep (s.map f) = (splitOn sep s).map (List.map f) := by
  induction s with
  | nil => rfl
  | cons c cs ih =>
    by_cases hc : c = sep
    · simp [splitOn, hc, (h sep).mpr rfl, ih]
    · have hf : f c ≠ sep := fun hf => hc ((h c).mp hf)
      simp only [List.map_cons, splitOn, hc, hf, if_false]
      rw [ih]
      cases splitOn sep cs <;> rfl

theorem joinWith_map {sep : α} {f : α → α} (h : f sep = sep) (pieces : List (List α)) :
    joinWith sep (pieces.map (List.map f)) = (joinWith sep pieces).map f := by
  induction pieces with
  | nil => rfl
  | cons p ps ih =>
    cases ps with
    | nil => rfl
    | cons q ps =>
      rw [List.map_cons] at ih
      rw [List.map_cons, List.map_cons, joinWith_cons_cons, joinWith_cons_cons, ih]
      simp [h]

/-- Two pieces are the two sides of the only separator. -/
theorem splitOn_eq_pair_iff [DecidableEq α] {sep : α} {s a b : List α} :
    splitOn sep s = [a, b] ↔ s = a ++ sep :: b ∧ sep ∉ a ∧ sep ∉ b := by
  constructor
  · intro h
    have hj := joinWith_splitOn sep s
    rw [h] at hj
    refine ⟨hj.symm, ?_, ?_⟩
    · apply notMem_of_mem_splitOn (s := s)
      simp [h]
    · apply notMem_of_mem_splitOn (s := s)
      simp [h]
  · rintro ⟨rfl, ha, hb⟩
    rw [splitOn_append_cons, splitOn_of_notMem ha, splitOn_of_notMem hb]
    rfl

/-- A separator that is the only one on one side is the only one on the other. -/
theorem append_cons_inj {sep : α} {s t a b : List α} (h : s ++ sep :: t = a ++ sep :: b)
    (ha : sep ∉ a) (hb : sep ∉ b) : s = a ∧ t = b := by
  rcases List.append_eq_append_iff.mp h with ⟨c, rfl, hc⟩ | ⟨c, rfl, hc⟩
  · cases c with
    | nil => simpa [eq_comm] using hc
    | cons d c =>
      obtain ⟨rfl, -⟩ := List.cons.inj hc
      simp at ha
  · cases c with
    | nil => simpa [eq_comm] using hc
    | cons d c =>
      obtain ⟨rfl, rfl⟩ := List.cons.inj hc
      simp at hb

/-- A joined text holds a separator as soon as there are two pieces. -/
theorem mem_joinWith_iff {sep : α} {pieces : List (List α)} (h : ∀ p ∈ pieces, sep ∉ p) :
    sep ∈ joinWith sep pieces ↔ 2 ≤ pieces.length := by
  match pieces with
  | [] => simp [joinWith]
  | [p] => simpa [joinWith] using h p (by simp)
  | p :: q :: ps => simp

theorem two_le_length_splitOn_iff [DecidableEq α] {sep : α} {s : List α} :
    2 ≤ (splitOn sep s).length ↔ sep ∈ s := by
  have hp : ∀ p ∈ splitOn sep s, sep ∉ p := fun p hp => notMem_of_mem_splitOn hp
  have h := mem_joinWith_iff hp
  rw [joinWith_splitOn] at h
  exact h.symm

/-- The first piece is empty when the text is, or begins with a separator. -/
theorem head?_splitOn_eq_nil_iff [DecidableEq α] {sep : α} {s : List α} :
    (splitOn sep s).head? = some [] ↔ s = [] ∨ s.head? = some sep := by
  cases s with
  | nil => simp [splitOn]
  | cons c cs =>
    by_cases hc : c = sep
    · simp [splitOn, hc]
    · simp only [splitOn, hc, if_false]
      split <;> simp [hc]

theorem nil_mem_iff {pieces : List (List α)} :
    [] ∈ pieces ↔ pieces.head? = some [] ∨ [] ∈ pieces.tail := by
  cases pieces with
  | nil => simp
  | cons p ps => simp [eq_comm]

theorem pair_infix_cons_iff {sep c : α} {cs : List α} :
    [sep, sep] <:+: c :: cs ↔ (c = sep ∧ cs.head? = some sep) ∨ [sep, sep] <:+: cs := by
  rw [List.infix_cons_iff, List.cons_prefix_cons]
  cases cs with
  | nil => simp
  | cons d ds =>
    rw [List.cons_prefix_cons]
    simp [eq_comm]

/-- A later piece is empty when the text ends with a separator or has two of them together. -/
theorem nil_mem_tail_splitOn_iff [DecidableEq α] {sep : α} {s : List α} :
    [] ∈ (splitOn sep s).tail ↔ s.getLast? = some sep ∨ [sep, sep] <:+: s := by
  induction s with
  | nil => simp [splitOn]
  | cons c cs ih =>
    rw [pair_infix_cons_iff]
    by_cases hc : c = sep
    · subst hc
      have hlast : (c :: cs).getLast? = some c ↔ cs = [] ∨ cs.getLast? = some c := by
        cases cs <;> simp
      simp only [splitOn, if_true, List.tail_cons]
      rw [nil_mem_iff, head?_splitOn_eq_nil_iff, ih, hlast]
      simp only [true_and]
      exact or_or_or_comm
    · have htail : (splitOn sep (c :: cs)).tail = (splitOn sep cs).tail := by
        simp only [splitOn, hc, if_false]
        cases splitOn sep cs <;> rfl
      have hlast : (c :: cs).getLast? = some sep ↔ cs.getLast? = some sep := by
        cases cs <;> simp [hc]
      rw [htail, ih, hlast]
      simp [hc]

/-- A piece is empty when the text is, or has a separator at an end, or two of them together. -/
theorem nil_mem_splitOn_iff [DecidableEq α] {sep : α} {s : List α} :
    [] ∈ splitOn sep s ↔
      s = [] ∨ s.head? = some sep ∨ s.getLast? = some sep ∨ [sep, sep] <:+: s := by
  rw [nil_mem_iff, head?_splitOn_eq_nil_iff, nil_mem_tail_splitOn_iff, or_assoc]

end Accounts.Text
