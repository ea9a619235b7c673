import Accounts.Proofs.Session.Holdings

/-!
Callers and the store share nothing that can be changed. Every list and dictionary belongs either to
the callers or to the account of one address, and new ones have tags that nothing had before. So an
assignment to a user that is held changes no account, whatever the path, and an operation on one
account changes neither another nor a user that is held.
-/
namespace Accounts.Session

open Repository (Tends)

variable {T : Type}

/-- A list or dictionary of the user that is held under a name. -/
def Holds (s : Session T) (name : String) (c : Metadata) : Prop :=
  ∃ u, s.held.get? name = some u ∧ c ∈ u.metadata.containers

/-- Every node belongs to the callers or to one account, and all of them have been used up. -/
structure IsIsolated (s : Session T) : Prop where
  nodup : s.repository.entries.names.Nodup
  addressed : s.repository.IsAddressed
  stored_lt : ∀ email c, s.repository.Stores email c → c.tag < s.repository.supply
  held_lt : ∀ name c, s.Holds name c → c.tag < s.repository.supply
  apart : ∀ email name c d, s.repository.Stores email c → s.Holds name d → c.tag ≠ d.tag
  single : ∀ email email' c d, s.repository.Stores email c → s.repository.Stores email' d →
    c.tag = d.tag → email = email'

variable {s t : Session T} {n name : String} {c : Metadata}

theorem isIsolated_start (now : T) (hasher : Hasher) :
    (start now (.directory {}) hasher).IsIsolated where
  nodup := List.nodup_nil
  addressed _ _ h := by cases h
  stored_lt _ _ h := by obtain ⟨u, hu, -⟩ := h; cases hu
  held_lt _ _ h := by obtain ⟨u, hu, -⟩ := h; cases hu
  apart _ _ _ _ h := by obtain ⟨u, hu, -⟩ := h; cases hu
  single _ _ _ _ h := by obtain ⟨u, hu, -⟩ := h; cases hu

/-! ## What is held after a step -/

theorem holds_of_held (held : t.held = s.held) (h : t.Holds n c) : s.Holds n c := by
  unfold Holds at h ⊢
  rwa [held] at h

theorem held_put {u v : User Metadata} (held : t.held = s.held.put name v)
    (h : t.held.get? n = some u) : n = name ∧ u = v ∨ s.held.get? n = some u := by
  rw [held] at h
  by_cases hn : n = name
  · subst hn
    rw [Table.get?_put_same] at h
    exact .inl ⟨rfl, (Option.some.inj h).symm⟩
  · rw [Table.get?_put_other hn] at h
    exact .inr h

theorem holds_put {v : User Metadata} (held : t.held = s.held.put name v) (h : t.Holds n c) :
    n = name ∧ c ∈ v.metadata.containers ∨ s.Holds n c := by
  obtain ⟨u, hu, hc⟩ := h
  rcases held_put held hu with ⟨hn, rfl⟩ | hu
  · exact .inl ⟨hn, hc⟩
  · exact .inr ⟨u, hu, hc⟩

/-- After an update, what is held under a name is part of what was held there, or of the node. -/
theorem holds_update {node : Metadata}
    (held : t.held = s.held.mapValues fun w => w.withMetadata (Tree.update node w.metadata))
    (h : t.Holds n c) : (∃ d, s.Holds n d ∧ d.tag ≠ node.tag ∧ c = Tree.update node d) ∨
      (∃ d, s.Holds n d ∧ d.tag = node.tag) ∧ c ∈ node.containers := by
  obtain ⟨u, hu, hc⟩ := h
  rw [held, Table.get?_mapValues] at hu
  obtain ⟨v, hv, rfl⟩ := Option.map_eq_some_iff.mp hu
  rcases Tree.isUpdated_of_mem v.metadata hc with ⟨d, hd, hne, rfl⟩ | ⟨⟨d, hd, htag⟩, hnode⟩
  · exact .inl ⟨d, ⟨v, hv, hd⟩, hne, rfl⟩
  · exact .inr ⟨⟨d, ⟨v, hv, hd⟩, htag⟩, hnode⟩

/-- The containers of a node that was assigned to: it has the tag of a container that is held, and
all inside were held or are in the value. -/
theorem holds_assigned {u : User Metadata} {path : List Value} {value node : Metadata}
    (hu : s.held.get? name = some u) (hnode : Tree.assigned path value u.metadata = .ok node) :
    ∃ v, s.Holds name v ∧ Tree.IsAssigned v value node ∧
      ∀ c ∈ node.inner, c ∈ v.inner ∧ s.Holds name c ∨ c ∈ value.containers := by
  obtain ⟨v, hv, hassigned⟩ := Tree.exists_isAssigned hnode
  refine ⟨v, ⟨u, hu, hv⟩, hassigned, fun c hc => ?_⟩
  refine (hassigned.inner c hc).imp_left fun hc => ⟨hc, u, hu, ?_⟩
  exact Tree.containers_trans (Tree.mem_containers_of_inner hc) hv

/-- What is found at a place is held already. -/
theorem holds_of_descend {v : User Metadata} {place : List Value} {value : Metadata}
    (hv : s.held.get? n = some v) (hvalue : Tree.descend place v.metadata = .ok value)
    (hc : c ∈ value.containers) : s.Holds n c :=
  ⟨v, hv, Tree.mem_containers_of_descend hvalue hc⟩

/-! ## Isolation is kept -/

namespace IsIsolated

/-- A node that is held is in no account, so that its update changes none. -/
theorem entries_update (h : s.IsIsolated) {v node : Metadata} (hv : s.Holds name v)
    (htag : node.tag = v.tag) :
    (s.repository.entries.mapValues fun w => w.withMetadata (Tree.update node w.metadata)) =
      s.repository.entries := by
  refine (List.map_congr_left fun e he => ?_).trans (List.map_id _)
  have hget : s.repository.entries.get? e.1 = some e.2 := Table.get?_of_mem h.nodup he
  have hsame : Tree.update node e.2.metadata = e.2.metadata :=
    Tree.update_of_notMem _ fun c hc heq =>
      h.apart e.1 name c v ⟨e.2, hget, hc⟩ hv (heq.trans htag)
  change (e.1, e.2.withMetadata (Tree.update node e.2.metadata)) = e
  rw [hsame]
  rfl

/-- New nodes of the callers come first, new nodes of one account after them. -/
theorem evolve (h : s.IsIsolated) {middle : NodeId} {address : Option String}
    (hle : s.repository.supply ≤ middle)
    (accounts : Tends address { s.repository with supply := middle } t.repository)
    (held : ∀ n c, t.Holds n c → (∃ name d, s.Holds name d ∧ d.tag = c.tag) ∨
      s.repository.supply ≤ c.tag ∧ c.tag < middle) : t.IsIsolated := by
  have hstored : ∀ email c, t.repository.Stores email c → s.repository.Stores email c ∨
      address = some email ∧ middle ≤ c.tag ∧ c.tag < t.repository.supply := accounts.nodes
  have hlast : middle ≤ t.repository.supply := accounts.supply
  have hheld : ∀ n c, t.Holds n c → c.tag < middle := fun n c hc => by
    rcases held n c hc with ⟨name, d, hd, htag⟩ | ⟨-, hlt⟩
    · exact htag ▸ Nat.lt_of_lt_of_le (h.held_lt name d hd) hle
    · exact hlt
  have hlt : ∀ email c, s.repository.Stores email c → c.tag < middle := fun email c hc =>
    Nat.lt_of_lt_of_le (h.stored_lt email c hc) hle
  refine ⟨accounts.nodup h.nodup, accounts.addressed h.addressed, fun email c hc => ?_,
    fun n c hc => Nat.lt_of_lt_of_le (hheld n c hc) hlast, fun email n c d hc hd heq => ?_,
    fun email email' c d hc hd heq => ?_⟩
  · rcases hstored email c hc with hc | ⟨-, -, hnew⟩
    · exact Nat.lt_of_lt_of_le (hlt email c hc) hlast
    · exact hnew
  · rcases hstored email c hc with hc | ⟨-, hge, -⟩
    · rcases held n d hd with ⟨name, d', hd', htag⟩ | ⟨hge, -⟩
      · exact h.apart email name c d' hc hd' (heq.trans htag.symm)
      · exact Nat.ne_of_lt (Nat.lt_of_lt_of_le (h.stored_lt email c hc) hge) heq
    · exact Nat.ne_of_gt (Nat.lt_of_lt_of_le (hheld n d hd) hge) heq
  · rcases hstored email c hc with hc | ⟨haddress, hge, -⟩
    · rcases hstored email' d hd with hd | ⟨-, hge, -⟩
      · exact h.single email email' c d hc hd heq
      · exact absurd heq (Nat.ne_of_lt (Nat.lt_of_lt_of_le (hlt email c hc) hge))
    · rcases hstored email' d hd with hd | ⟨haddress', -, -⟩
      · exact absurd heq (Nat.ne_of_gt (Nat.lt_of_lt_of_le (hlt email' d hd) hge))
      · exact Option.some.inj (haddress.symm.trans haddress')

/-- An assignment keeps callers and accounts apart, if what is in the value was held before or is
new. -/
theorem update (h : s.IsIsolated) {u : User Metadata} {path : List Value} {value node : Metadata}
    (hu : s.held.get? name = some u) (hnode : Tree.assigned path value u.metadata = .ok node)
    (hle : s.repository.supply ≤ t.repository.supply)
    (hvalue : ∀ c ∈ value.containers, (∃ n, s.Holds n c) ∨
      s.repository.supply ≤ c.tag ∧ c.tag < t.repository.supply)
    (held : t.held = s.held.mapValues fun w => w.withMetadata (Tree.update node w.metadata))
    (accounts : t.repository.entries =
      s.repository.entries.mapValues fun w => w.withMetadata (Tree.update node w.metadata)) :
    t.IsIsolated := by
  obtain ⟨v, hv, hassigned, hinner⟩ := holds_assigned hu hnode
  rw [h.entries_update hv hassigned.tag] at accounts
  have hsame : Tends none { s.repository with supply := t.repository.supply } t.repository :=
    .of_entries (Nat.le_refl _) accounts
  refine h.evolve hle hsame fun n c hc => ?_
  rcases holds_update held hc with ⟨d, hd, -, rfl⟩ | ⟨-, hc⟩
  · exact .inl ⟨n, d, hd, (Tree.tag_update _ d).symm⟩
  · rcases Tree.containers_cases hc with rfl | hc
    · exact .inl ⟨name, v, hv, hassigned.tag.symm⟩
    · rcases hinner c hc with ⟨-, hc⟩ | hc
      · exact .inl ⟨name, c, hc, rfl⟩
      · exact (hvalue c hc).imp_left fun ⟨n, hc⟩ => ⟨n, c, hc, rfl⟩

/-- A step keeps callers and accounts apart. -/
theorem step (h : s.IsIsolated) {step : Step T} (he : Evolves s t step) : t.IsIsolated := by
  cases he with
  | kept held accounts =>
    exact h.evolve (Nat.le_refl _) accounts fun n c hc => .inl ⟨n, c, holds_of_held held hc, rfl⟩
  | @edited name _ u v _ hu hv held accounts =>
    have hsame : Tends none s.repository t.repository := accounts ▸ .refl _
    refine h.evolve (Nat.le_refl _) hsame fun n c hc => ?_
    rcases holds_put held hc with ⟨-, hc⟩ | hc
    · exact .inl ⟨name, c, ⟨u, hu, hv ▸ hc⟩, rfl⟩
    · exact .inl ⟨n, c, hc, rfl⟩
  | renewed _ hnew held accounts =>
    have hsame : Tends none { s.repository with supply := t.repository.supply } t.repository :=
      .of_entries (Nat.le_refl _) accounts
    refine h.evolve hnew.le hsame fun n c hc => ?_
    rcases holds_put held hc with ⟨-, hc⟩ | hc
    · exact .inr (hnew.range c hc)
    · exact .inl ⟨n, c, hc, rfl⟩
  | @registered _ user name u v next _ hu hdict held accounts =>
    obtain ⟨entries, hv, hlt, hold⟩ := Tree.freshDict_ok hdict
    refine h.evolve (Nat.le_of_lt hlt) accounts fun n c hc => ?_
    rcases holds_put held hc with ⟨-, hc⟩ | hc
    · rw [hv] at hc
      rcases Tree.containers_cases hc with rfl | hc
      · exact .inr ⟨Nat.le_refl _, hlt⟩
      · exact .inl ⟨user, c, ⟨u, hu, Tree.mem_containers_of_inner (hold c hc)⟩, rfl⟩
    · exact .inl ⟨n, c, hc, rfl⟩
  | assigned _ hu hvalue hnode held accounts =>
    exact h.update hu hnode hvalue.le (fun c hc => .inr (hvalue.range c hc)) held accounts
  | @shared _ source _ _ _ _ _ hu hv hvalue held accounts =>
    have hsame : Tends none s.repository t.repository := accounts ▸ .refl _
    refine h.evolve (Nat.le_refl _) hsame fun n c hc => .inl ?_
    rcases holds_put held hc with ⟨-, hc⟩ | hc
    · exact ⟨source, c, holds_of_descend hv hvalue hc, rfl⟩
    · exact ⟨n, c, hc, rfl⟩
  | linked _ hu hv hvalue hnode houtside held supply accounts =>
    exact h.update hu hnode (Nat.le_of_eq supply.symm)
      (fun c hc => .inl ⟨_, holds_of_descend hv hvalue hc⟩) held accounts

theorem draw (h : s.IsIsolated) (salt : Option String) : (s.draw salt).IsIsolated := by
  cases salt with
  | none => exact h
  | some salt => exact ⟨h.nodup, h.addressed, h.stored_lt, h.held_lt, h.apart, h.single⟩

variable [Timeline T]

theorem after (h : s.IsIsolated) (steps : List (Option String × Step T)) :
    (s.after steps).IsIsolated := by
  induction steps generalizing s with
  | nil => exact h
  | cons p steps ih =>
    obtain ⟨salt, step⟩ := p
    exact ih ((h.draw salt).step (evolves_step _ step))

end IsIsolated

/-! ## What each step leaves alone -/

/-- A step leaves every account alone but the one that it is about. -/
theorem entries_of_evolves (h : s.IsIsolated) {step : Step T} (he : Evolves s t step)
    {email : String} (hne : step.address? s ≠ some email) :
    t.repository.entries.get? email = s.repository.entries.get? email := by
  cases he with
  | kept held accounts => exact accounts.others email hne
  | edited hstep hu hv held accounts => rw [accounts]
  | renewed hstep hnew held accounts => rw [accounts]
  | @registered context user name u v next hstep hu hdict held accounts =>
    subst hstep
    have haddress : Step.address? s (.ask context (.register user (some name))) = some u.email :=
      congrArg (Option.map User.email) hu
    exact accounts.others email (haddress ▸ hne)
  | shared hstep hu hv hvalue held accounts => rw [accounts]
  | assigned _ hu _ hnode _ accounts | linked _ hu _ _ hnode _ _ _ accounts =>
    obtain ⟨v, hv, hassigned, -⟩ := holds_assigned hu hnode
    rw [accounts, h.entries_update hv hassigned.tag]

/-- An ask leaves every user alone that is held under another name than its answer is given. -/
theorem held_of_evolves {context : String} {a : Ask} (he : Evolves s t (.ask context a))
    (hne : a.result? ≠ some name) : t.held.get? name = s.held.get? name := by
  cases he with
  | kept held accounts => rw [held]
  | edited hstep => cases hstep
  | renewed hstep hnew held accounts =>
    rw [held, Table.get?_put_other]
    rintro rfl
    exact hne hstep
  | registered hstep hu hdict held accounts =>
    cases hstep
    rw [held, Table.get?_put_other]
    rintro rfl
    exact hne rfl
  | assigned hstep | shared hstep | linked hstep => cases hstep

variable [Timeline T]

/-- In every session with a directory that was empty at first, callers and accounts share no list
and no dictionary, nor do two accounts, and every account stands under its own address. Whatever is
assigned to a user that is held, be it to a field or to a part of its metadata at any depth, and be
it new or held already, no account changes. What is asked about one account changes no other account, and no user that is held. -/
theorem accounts_isolated (now : T) (hasher : Hasher) (steps : List (Option String × Step T))
    (salt : Option String) :
    let s := ((start now (.directory {}) hasher).after steps).draw salt
    s.IsIsolated ∧
      (∀ name c email, (s.step (.change name c)).1.repository.entries.get? email =
        s.repository.entries.get? email) ∧
      ∀ context a,
        (∀ email, a.address? s ≠ some email →
          (s.step (.ask context a)).1.repository.entries.get? email =
            s.repository.entries.get? email) ∧
        ∀ name, a.result? ≠ some name →
          (s.step (.ask context a)).1.held.get? name = s.held.get? name := by
  intro s
  have h : s.IsIsolated := ((isIsolated_start now hasher).after steps).draw salt
  refine ⟨h, fun name c email => ?_, fun context a => ⟨fun email hne => ?_, fun name hne => ?_⟩⟩
  · exact entries_of_evolves h (evolves_step s _) (by rintro ⟨⟩)
  · exact entries_of_evolves h (evolves_step s _) hne
  · exact held_of_evolves (evolves_step s _) hne

-- Two users share a dictionary, one of them is saved, and then a number is put inside through the
-- other. It shows in both users and not in the account.
example :
    let s := (start (.whole 1000 : Moment) (.directory {}) .reversing).after
      [(none, .hold "u" ⟨"ann@site.org", .text "", Value.record [("tags", .empty)]⟩),
        (none, .hold "v" ⟨"bob@site.org", .text "", .empty⟩),
        (none, .change "v" (.share [.text "tags"] "u" [.text "tags"])),
        (none, .ask "bg" (.save "v")),
        (none, .change "u" (.part [.text "tags", .text "size"] (.atom () (.int 2))))]
    (s.held.get? "v").map (·.metadata.erase) =
        some (Value.record [("tags", Value.record [("size", .atom () (.int 2))])]) ∧
      (s.repository.entries.get? "bob@site.org").map (·.metadata.erase) =
        some (Value.record [("tags", .empty)]) := ⟨rfl, rfl⟩

end Accounts.Session
