import Accounts.Proofs.Session.Isolation

/-!
When a user and the one that was registered from it are independent. Registering gives the new user
a dictionary of its own whose values it shares with the old one. So no assignment to a field or to a
key of the dictionary shows in the other user. As long as every list and dictionary that both hold
has no place for an assignment, none inside shows either, and they never come to share more. If the
two share a dictionary, or a list that is not empty, an assignment inside it shows in both.
-/
namespace Accounts.Session

open Accounts.Tree (IsNumbered)

variable {T : Type}

/-! ## Coherence -/

/-- What is held under one tag is one container, and all tags have been used up. -/
structure IsCoherent (s : Session T) : Prop where
  held_lt : ∀ name c, s.Holds name c → c.tag < s.repository.supply
  same : ∀ name name' c d, s.Holds name c → s.Holds name' d → c.tag = d.tag → c = d

variable {s t : Session T} {n a b name : String} {c d : Metadata}

theorem isCoherent_start (now : T) (backend : Backend) (hasher : Hasher) :
    (start now backend hasher).IsCoherent where
  held_lt _ _ h := by obtain ⟨u, hu, -⟩ := h; cases hu
  same _ _ _ _ h := by obtain ⟨u, hu, -⟩ := h; cases hu

namespace IsCoherent

/-- What is held is not new. -/
theorem tag_ne (h : s.IsCoherent) (hc : s.Holds n c) {last : NodeId} {new : List Metadata}
    (hnew : IsNumbered s.repository.supply last new) (hd : d ∈ new) : c.tag ≠ d.tag :=
  Nat.ne_of_lt (Nat.lt_of_lt_of_le (h.held_lt n c hc) (hnew.range d hd).1)

/-- What is inside a container has other tags than the container. -/
theorem inner_tag_ne (h : s.IsCoherent) (hd : s.Holds n d) (hc : c ∈ d.inner) :
    c.tag ≠ d.tag := by
  intro heq
  obtain ⟨u, hu, hdu⟩ := hd
  have hcu : s.Holds n c :=
    ⟨u, hu, Tree.containers_trans (Tree.mem_containers_of_inner hc) hdu⟩
  have hsame : c = d := h.same n n c d hcu ⟨u, hu, hdu⟩ heq
  exact Tree.notMem_inner d (hsame ▸ hc)

/-- What is held after an assignment: containers from before with the update made inside them, and
where the node was held, its new form and what is in the value. -/
theorem holds_update (h : s.IsCoherent) {u : User Metadata} {path : List Value}
    {value node : Metadata} (hu : s.held.get? name = some u)
    (hnode : Tree.assigned path value u.metadata = .ok node)
    (held : t.held = s.held.mapValues fun w => w.withMetadata (Tree.update node w.metadata))
    (hc : t.Holds n c) :
    (∃ d, s.Holds n d ∧ d.tag ≠ node.tag ∧ c = Tree.update node d) ∨
      (∃ d, s.Holds n d ∧ d.tag = node.tag) ∧ (c = node ∨ c ∈ value.containers) := by
  obtain ⟨v, hv, hassigned, hinner⟩ := holds_assigned hu hnode
  rcases Session.holds_update held hc with hc | ⟨⟨d, hd, htag⟩, hc⟩
  · exact .inl hc
  · rcases Tree.containers_cases hc with rfl | hc
    · exact .inr ⟨⟨d, hd, htag⟩, .inl rfl⟩
    · rcases hinner c hc with ⟨hc, -⟩ | hc
      · -- An old part of the node is a part of the container that it replaces, which is `d` too.
        have hdv : d = v := h.same n name d v hd hv (htag.trans hassigned.tag)
        subst hdv
        have hne : ∀ e ∈ d.inner, e.tag ≠ node.tag := fun e he heq =>
          h.inner_tag_ne hd he (heq.trans htag.symm)
        have hsame : Tree.update node c = c :=
          Tree.update_of_notMem c fun e he => hne e ((Tree.sublist_inner hc).subset he)
        obtain ⟨w, hw, hdw⟩ := hd
        have hcn : s.Holds n c :=
          ⟨w, hw, Tree.containers_trans (Tree.mem_containers_of_inner hc) hdw⟩
        exact .inl ⟨c, hcn, hne c hc, hsame.symm⟩
      · exact .inr ⟨⟨d, hd, htag⟩, .inr hc⟩

/-- What is held after an assignment of what was held before, the container apart that is assigned
to: its new form, and the others with the update made inside them. -/
theorem holds_linked (h : s.IsCoherent) {u : User Metadata} {path : List Value}
    {value node : Metadata} (hu : s.held.get? name = some u)
    (hnode : Tree.assigned path value u.metadata = .ok node)
    (hvalue : ∀ c ∈ value.containers, c.tag ≠ node.tag ∧ ∃ m, s.Holds m c)
    (held : t.held = s.held.mapValues fun w => w.withMetadata (Tree.update node w.metadata))
    (hc : t.Holds n c) :
    (∃ m d, s.Holds m d ∧ d.tag ≠ node.tag ∧ c = Tree.update node d) ∨ c = node := by
  rcases h.holds_update hu hnode held hc with ⟨d, hd, hne, rfl⟩ | ⟨-, rfl | hc⟩
  · exact .inl ⟨n, d, hd, hne, rfl⟩
  · exact .inr rfl
  · obtain ⟨hne, m, hm⟩ := hvalue c hc
    have hsame : Tree.update node c = c :=
      Tree.update_of_notMem c fun e he => (hvalue e (Tree.containers_trans he hc)).1
    exact .inl ⟨m, c, hm, hne, hsame.symm⟩

/-- What is held is what was held somewhere, and new containers. -/
theorem of_new (h : s.IsCoherent) {new : List Metadata}
    (hnew : IsNumbered s.repository.supply t.repository.supply new)
    (held : ∀ n c, t.Holds n c → (∃ name, s.Holds name c) ∨ c ∈ new) : t.IsCoherent := by
  refine ⟨fun n c hc => ?_, fun n n' c d hc hd heq => ?_⟩
  · rcases held n c hc with ⟨name, hc⟩ | hc
    · exact Nat.lt_of_lt_of_le (h.held_lt name c hc) hnew.le
    · exact (hnew.range c hc).2
  · rcases held n c hc with ⟨name, hc⟩ | hc
    · rcases held n' d hd with ⟨name', hd⟩ | hd
      · exact h.same name name' c d hc hd heq
      · exact absurd heq (h.tag_ne hc hnew hd)
    · rcases held n' d hd with ⟨name', hd⟩ | hd
      · exact absurd heq.symm (h.tag_ne hd hnew hc)
      · exact hnew.eq_of_tag hc hd heq

/-- A step keeps what is held coherent. -/
theorem step (h : s.IsCoherent) {step : Step T} (he : Evolves s t step) : t.IsCoherent := by
  cases he with
  | kept held accounts =>
    exact h.of_new (Tree.isNumbered_nil accounts.supply) fun n c hc =>
      .inl ⟨n, holds_of_held held hc⟩
  | @edited name _ u v _ hu hv held accounts =>
    have hle : s.repository.supply ≤ t.repository.supply := accounts ▸ Nat.le_refl _
    refine h.of_new (Tree.isNumbered_nil hle) fun n c hc => .inl ?_
    rcases holds_put held hc with ⟨-, hc⟩ | hc
    · exact ⟨name, u, hu, hv ▸ hc⟩
    · exact ⟨n, hc⟩
  | renewed _ hnew held accounts =>
    refine h.of_new hnew fun n c hc => ?_
    rcases holds_put held hc with ⟨-, hc⟩ | hc
    · exact .inr hc
    · exact .inl ⟨n, hc⟩
  | @registered _ user name u v next _ hu hdict held accounts =>
    obtain ⟨entries, hv, hlt, hold⟩ := Tree.freshDict_ok hdict
    have hnew : IsNumbered s.repository.supply t.repository.supply [v.metadata] := by
      rw [hv]
      exact Tree.IsNumbered.cons (t := .dict s.repository.supply entries)
        (Tree.isNumbered_nil (Nat.le_trans hlt accounts.supply))
    refine h.of_new hnew fun n c hc => ?_
    rcases holds_put held hc with ⟨-, hc⟩ | hc
    · rcases Tree.containers_cases hc with rfl | hc
      · exact .inr List.mem_cons_self
      · rw [hv] at hc
        exact .inl ⟨user, u, hu, Tree.mem_containers_of_inner (hold c hc)⟩
    · exact .inl ⟨n, hc⟩
  | @assigned name _ _ _ value node _ hu hvalue hnode held accounts =>
    obtain ⟨v, hv, hassigned, -⟩ := holds_assigned hu hnode
    have hcases : ∀ n c, t.Holds n c → _ := fun n c hc => h.holds_update hu hnode held hc
    have hnodelt : node.tag < s.repository.supply := hassigned.tag ▸ h.held_lt name v hv
    refine ⟨fun n c hc => ?_, fun n n' c d hc hd heq => ?_⟩
    · rcases hcases n c hc with ⟨d, hd, -, rfl⟩ | ⟨-, rfl | hc⟩
      · rw [Tree.tag_update]
        exact Nat.lt_of_lt_of_le (h.held_lt n d hd) hvalue.le
      · exact Nat.lt_of_lt_of_le hnodelt hvalue.le
      · exact (hvalue.range c hc).2
    · rcases hcases n c hc with ⟨e, he, hen, rfl⟩ | ⟨-, rfl | hc⟩
      · rw [Tree.tag_update] at heq
        rcases hcases n' d hd with ⟨f, hf, -, rfl⟩ | ⟨-, rfl | hd⟩
        · rw [Tree.tag_update] at heq
          rw [h.same n n' e f he hf heq]
        · exact absurd heq hen
        · exact absurd heq (h.tag_ne he hvalue hd)
      · rcases hcases n' d hd with ⟨f, -, hfn, rfl⟩ | ⟨-, rfl | hd⟩
        · rw [Tree.tag_update] at heq
          exact absurd heq.symm hfn
        · rfl
        · exact absurd heq (Nat.ne_of_lt (Nat.lt_of_lt_of_le hnodelt (hvalue.range d hd).1))
      · rcases hcases n' d hd with ⟨f, hf, -, rfl⟩ | ⟨-, rfl | hd⟩
        · rw [Tree.tag_update] at heq
          exact absurd heq.symm (h.tag_ne hf hvalue hc)
        · exact absurd heq (Nat.ne_of_gt (Nat.lt_of_lt_of_le hnodelt (hvalue.range c hc).1))
        · exact hvalue.eq_of_tag hc hd heq
  | @shared _ source _ _ _ _ _ hu hv hvalue held accounts =>
    have hle : s.repository.supply ≤ t.repository.supply := accounts ▸ Nat.le_refl _
    refine h.of_new (Tree.isNumbered_nil hle) fun n c hc => .inl ?_
    rcases holds_put held hc with ⟨-, hc⟩ | hc
    · exact ⟨source, holds_of_descend hv hvalue hc⟩
    · exact ⟨n, hc⟩
  | @linked name source _ _ _ _ value node _ hu hv hvalue hnode houtside held supply accounts =>
    obtain ⟨w, hw, hassigned, -⟩ := holds_assigned hu hnode
    have hsource : ∀ c ∈ value.containers, c.tag ≠ node.tag ∧ ∃ m, s.Holds m c := fun c hc =>
      ⟨houtside c hc, source, holds_of_descend hv hvalue hc⟩
    have hcases : ∀ n c, t.Holds n c → _ := fun n c hc =>
      h.holds_linked hu hnode hsource held hc
    refine ⟨fun n c hc => ?_, fun n n' c d hc hd heq => ?_⟩
    · rw [supply]
      rcases hcases n c hc with ⟨m, d, hd, -, rfl⟩ | rfl
      · rw [Tree.tag_update]
        exact h.held_lt m d hd
      · exact hassigned.tag ▸ h.held_lt name w hw
    · rcases hcases n c hc with ⟨m, e, he, hen, rfl⟩ | rfl
      · rw [Tree.tag_update] at heq
        rcases hcases n' d hd with ⟨m', f, hf, -, rfl⟩ | rfl
        · rw [Tree.tag_update] at heq
          rw [h.same m m' e f he hf heq]
        · exact absurd heq hen
      · rcases hcases n' d hd with ⟨m', f, -, hfn, rfl⟩ | rfl
        · rw [Tree.tag_update] at heq
          exact absurd heq.symm hfn
        · rfl

theorem draw (h : s.IsCoherent) (salt : Option String) : (s.draw salt).IsCoherent := by
  cases salt with
  | none => exact h
  | some salt => exact ⟨h.held_lt, h.same⟩

theorem after [Timeline T] (h : s.IsCoherent) (steps : List (Option String × Step T)) :
    (s.after steps).IsCoherent := by
  induction steps generalizing s with
  | nil => exact h
  | cons p steps ih =>
    obtain ⟨salt, step⟩ := p
    exact ih ((h.draw salt).step (evolves_step _ step))

end IsCoherent

/-! ## Independence -/

/-- The user of an answer or a new one is held under the name from now on. -/
def Step.binds (name : String) : Step T → Prop
  | .hold n _ => n = name
  | .ask _ a => a.result? = some name
  | _ => False

/-- A node that is held is assigned, so that users may come to share it. -/
def Step.shares : Step T → Prop
  | .change _ (.share ..) => True
  | _ => False

/-- Both names go on standing for the same users, and nobody makes users share a node. -/
structure Step.Spares (a b : String) (step : Step T) : Prop where
  first : ¬step.binds a
  second : ¬step.binds b
  shares : ¬step.shares

theorem Step.Spares.symm {step : Step T} (h : step.Spares a b) : step.Spares b a :=
  ⟨h.second, h.first, h.shares⟩

/-- Where inside the metadata the assignment is made. -/
def Change.path? : Change → Option (List Value)
  | .part path _ | .share path _ _ => some path
  | _ => none

/-- An assignment to a field, or to the metadata without going inside a part of them. -/
def Change.IsShallow (c : Change) : Prop := ∀ path ∈ c.path?, path.length ≤ 1

/-- Whatever happens later, as long as both names stand for the same users and nobody makes them
share more: no change of one of them that is of the kind in question shows in the other. -/
def Independent [Timeline T] (s : Session T) (kind : Change → Prop) (a b : String) : Prop :=
  ∀ later : List (Option String × Step T), (∀ p ∈ later, p.2.Spares a b) →
    ∀ c, kind c →
      (((s.after later).step (.change a c)).1.held.get? b).map User.erase =
          ((s.after later).held.get? b).map User.erase ∧
        (((s.after later).step (.change b c)).1.held.get? a).map User.erase =
          ((s.after later).held.get? a).map User.erase

/-- A change of one user leaves the other as it is, if what is assigned to is not in the other. -/
theorem held_change [Timeline T] (hne : a ≠ b) {c : Change}
    (h : ∀ {u path value node}, c.path? = some path → s.held.get? a = some u →
      Tree.assigned path value u.metadata = .ok node → ∀ d, s.Holds b d → d.tag ≠ node.tag) :
    (s.step (.change a c)).1.held.get? b = s.held.get? b := by
  have he := evolves_step s (.change a c)
  cases he with
  | kept held accounts => rw [held]
  | edited hstep hu hv held accounts =>
    cases hstep
    rw [held, Table.get?_put_other hne.symm]
  | renewed hstep hnew held accounts =>
    cases hstep
    rw [held, Table.get?_put_other hne.symm]
  | registered hstep => cases hstep
  | shared hstep hu hv hvalue held accounts =>
    cases hstep
    rw [held, Table.get?_put_other hne.symm]
  | assigned hstep hu _ hnode held | linked hstep hu _ _ hnode _ held =>
    cases hstep
    rw [held, Table.get?_mapValues]
    cases hw : s.held.get? b with
    | none => rfl
    | some w =>
      have hsame : Tree.update _ w.metadata = w.metadata :=
        Tree.update_of_notMem _ fun d hd => h rfl hu hnode d ⟨w, hw, hd⟩
      exact congrArg (fun m => some (w.withMetadata m)) hsame

/-- What every step keeps that binds neither name is kept, whatever happens later. -/
theorem kept_after [Timeline T] {P : Session T → Prop} (hc : s.IsCoherent) (h : P s)
    (hdraw : ∀ {s : Session T}, P s → ∀ salt, P (s.draw salt))
    (hstep : ∀ {s t : Session T} {step : Step T}, s.IsCoherent → P s → step.Spares a b →
      Evolves s t step → P t)
    {later : List (Option String × Step T)}
    (hlater : ∀ p ∈ later, p.2.Spares a b) : P (s.after later) := by
  induction later generalizing s with
  | nil => exact h
  | cons p later ih =>
    obtain ⟨salt, step⟩ := p
    have he := evolves_step (s.draw salt) step
    have hspares : step.Spares a b := hlater _ List.mem_cons_self
    exact ih ((hc.draw salt).step he) (hstep (hc.draw salt) (hdraw h salt) hspares he)
      fun q hq => hlater q (List.mem_cons_of_mem _ hq)

/-! ## Users that share nothing to assign inside -/

/-- Two users share no container that something can be assigned inside. -/
def AreSplit (s : Session T) (a b : String) : Prop :=
  ∀ c d, s.Holds a c → s.Holds b d → c.tag = d.tag → c.IsFixed

namespace AreSplit

theorem symm (hc : s.IsCoherent) (h : s.AreSplit a b) : s.AreSplit b a := by
  intro c d hcb hda heq
  rw [hc.same b a c d hcb hda heq]
  exact h d c hda hcb heq.symm

/-- Under one name there may be new containers, under the other there are none. -/
theorem of_new (hc : s.IsCoherent) (h : s.AreSplit a b) (hne : a ≠ b) {new : List Metadata}
    {last : NodeId} (hnew : IsNumbered s.repository.supply last new)
    (held : ∀ n c, n = a ∨ n = b → t.Holds n c → s.Holds n c ∨ n = name ∧ c ∈ new) :
    t.AreSplit a b := by
  intro c d hca hdb heq
  rcases held a c (.inl rfl) hca with hca | ⟨rfl, hca⟩
  · rcases held b d (.inr rfl) hdb with hdb | ⟨rfl, hdb⟩
    · exact h c d hca hdb heq
    · exact absurd heq (hc.tag_ne hca hnew hdb)
  · rcases held b d (.inr rfl) hdb with hdb | ⟨rfl, hdb⟩
    · exact absurd heq.symm (hc.tag_ne hdb hnew hca)
    · exact absurd rfl hne

/-- A step that binds neither name keeps the users split. -/
theorem step (hc : s.IsCoherent) (h : s.AreSplit a b) (hne : a ≠ b) {step : Step T}
    (hstep : step.Spares a b) (he : Evolves s t step) : t.AreSplit a b := by
  cases he with
  | kept held accounts =>
    exact fun c d hca hdb => h c d (holds_of_held held hca) (holds_of_held held hdb)
  | @edited name _ u v _ hu hv held accounts =>
    have hold : ∀ n c, t.Holds n c → s.Holds n c := fun n c hc => by
      rcases holds_put held hc with ⟨rfl, hc⟩ | hc
      · exact ⟨u, hu, hv ▸ hc⟩
      · exact hc
    exact fun c d hca hdb => h c d (hold a c hca) (hold b d hdb)
  | renewed _ hnew held accounts =>
    exact h.of_new hc hne hnew fun n c _ hn => (holds_put held hn).symm
  | @registered context user name u v next hregister hu hdict held accounts =>
    -- The user that shares nodes has a third name.
    subst hregister
    have hold : ∀ n c, n = a ∨ n = b → t.Holds n c → s.Holds n c := fun n c hn hc => by
      rcases holds_put held hc with ⟨rfl, -⟩ | hc
      · rcases hn with rfl | rfl
        · exact absurd rfl hstep.first
        · exact absurd rfl hstep.second
      · exact hc
    exact fun c d hca hdb => h c d (hold a c (.inl rfl) hca) (hold b d (.inr rfl) hdb)
  | @assigned name _ _ _ value node _ hu hvalue hnode held accounts =>
    obtain ⟨v, hv, hassigned, -⟩ := holds_assigned hu hnode
    have hcases : ∀ n c, t.Holds n c → _ := fun n c hn => hc.holds_update hu hnode held hn
    intro c d hca hdb heq
    rcases hcases a c hca with ⟨e, he, hen, rfl⟩ | ⟨⟨e, he, hen⟩, hca⟩
    · rw [Tree.tag_update] at heq
      rcases hcases b d hdb with ⟨f, hf, -, rfl⟩ | ⟨-, rfl | hdb⟩
      · rw [Tree.tag_update] at heq
        have hfixed := h e f he hf heq
        rwa [Tree.update_of_isFixed hfixed hen]
      · exact absurd heq hen
      · exact absurd heq (hc.tag_ne he hvalue hdb)
    · rcases hcases b d hdb with ⟨f, hf, hfn, rfl⟩ | ⟨⟨f, hf, hfn⟩, -⟩
      · rw [Tree.tag_update] at heq
        rcases hca with rfl | hca
        · exact absurd heq.symm hfn
        · exact absurd heq.symm (hc.tag_ne hf hvalue hca)
      · -- Both would hold the container that was assigned to.
        have hfixed := h e f he hf (hen.trans hfn.symm)
        rw [hc.same a name e v he hv (hen.trans hassigned.tag)] at hfixed
        exact absurd hfixed hassigned.isOpen
  | shared hshare | linked hshare =>
    subst hshare
    exact absurd trivial hstep.shares

theorem draw (h : s.AreSplit a b) (salt : Option String) : (s.draw salt).AreSplit a b := by
  cases salt <;> exact h

variable [Timeline T]

theorem after (hc : s.IsCoherent) (h : s.AreSplit a b) (hne : a ≠ b)
    {later : List (Option String × Step T)}
    (hlater : ∀ p ∈ later, p.2.Spares a b) : (s.after later).AreSplit a b :=
  kept_after (P := fun s => s.AreSplit a b) hc h (fun h salt => h.draw salt)
    (fun hc h hstep he => h.step hc hne hstep he) hlater

/-- Users that are split are independent. -/
theorem independent (hc : s.IsCoherent) (h : s.AreSplit a b) (hne : a ≠ b) (kind : Change → Prop) :
    s.Independent kind a b := by
  -- What is assigned to is no fixed container.
  have hchange : ∀ {t : Session T} {a b : String}, t.AreSplit a b → a ≠ b → ∀ c,
      (t.step (.change a c)).1.held.get? b = t.held.get? b := by
    intro t a b hsplit hne c
    refine held_change hne fun _ hu hnode d hd heq => ?_
    obtain ⟨v, hv, hassigned, -⟩ := holds_assigned hu hnode
    exact hassigned.isOpen (hsplit v d hv hd (hassigned.tag.symm.trans heq.symm))
  intro later hlater c _
  have hl : (s.after later).AreSplit a b := h.after hc hne hlater
  have hl' : (s.after later).AreSplit b a := hl.symm (hc.after later)
  exact ⟨congrArg _ (hchange hl hne c), congrArg _ (hchange hl' hne.symm c)⟩

end AreSplit

/-! ## Users whose metadata are not the same -/

/-- The list or dictionary that the metadata of the first user are is nowhere in the second. -/
def IsTopApart (s : Session T) (a b : String) : Prop :=
  ∀ u d, s.held.get? a = some u → u.metadata ∈ u.metadata.containers → s.Holds b d →
    d.tag ≠ u.metadata.tag

namespace IsTopApart

/-- A step that binds neither name keeps the metadata apart. -/
theorem step (hc : s.IsCoherent) (h : s.IsTopApart a b) (hne : a ≠ b) {step : Step T}
    (hstep : step.Spares a b) (he : Evolves s t step) : t.IsTopApart a b := by
  intro u d hu hself hd
  cases he with
  | kept held accounts =>
    rw [held] at hu
    exact h u d hu hself (holds_of_held held hd)
  | @edited name _ v w _ hv hw held accounts =>
    have hdb : s.Holds b d := by
      rcases holds_put held hd with ⟨rfl, hd⟩ | hd
      · exact ⟨v, hv, hw ▸ hd⟩
      · exact hd
    rcases held_put held hu with ⟨rfl, rfl⟩ | hu
    · rw [hw] at hself ⊢
      exact h v d hv hself hdb
    · exact h u d hu hself hdb
  | renewed _ hnew held accounts =>
    rcases held_put held hu with ⟨rfl, rfl⟩ | hu
    · rcases holds_put held hd with ⟨rfl, -⟩ | hd
      · exact absurd rfl hne
      · exact hc.tag_ne hd hnew hself
    · rcases holds_put held hd with ⟨-, hd⟩ | hd
      · exact (hc.tag_ne ⟨u, hu, hself⟩ hnew hd).symm
      · exact h u d hu hself hd
  | registered hregister hv hdict held accounts =>
    subst hregister
    rcases held_put held hu with ⟨rfl, -⟩ | hu
    · exact absurd rfl hstep.first
    · rcases holds_put held hd with ⟨rfl, -⟩ | hd
      · exact absurd rfl hstep.second
      · exact h u d hu hself hd
  | shared hshare | linked hshare =>
    subst hshare
    exact absurd trivial hstep.shares
  | @assigned _ _ _ _ value node _ hv hvalue hnode held accounts =>
    rw [held, Table.get?_mapValues] at hu
    obtain ⟨w, hw, rfl⟩ := Option.map_eq_some_iff.mp hu
    have hwself : w.metadata ∈ w.metadata.containers := Tree.mem_containers_of_update hself
    change d.tag ≠ (Tree.update node w.metadata).tag
    rw [Tree.tag_update]
    rcases hc.holds_update hv hnode held hd with ⟨e, he, -, rfl⟩ | ⟨⟨e, he, hen⟩, rfl | hdv⟩
    · rw [Tree.tag_update]
      exact h w e hw hwself he
    · rw [← hen]
      exact h w e hw hwself he
    · exact (hc.tag_ne ⟨w, hw, hwself⟩ hvalue hdv).symm

theorem draw (h : s.IsTopApart a b) (salt : Option String) : (s.draw salt).IsTopApart a b := by
  cases salt <;> exact h

variable [Timeline T]

theorem after (hc : s.IsCoherent) (h : s.IsTopApart a b) (hne : a ≠ b)
    {later : List (Option String × Step T)}
    (hlater : ∀ p ∈ later, p.2.Spares a b) : (s.after later).IsTopApart a b :=
  kept_after (P := fun s => s.IsTopApart a b) hc h (fun h salt => h.draw salt)
    (fun hc h hstep he => h.step hc hne hstep he) hlater

/-- A shallow change of the first user leaves the second as it is. -/
theorem held_change (h : s.IsTopApart a b) (hne : a ≠ b) {c : Change} (hc : c.IsShallow) :
    (s.step (.change a c)).1.held.get? b = s.held.get? b := by
  refine Session.held_change hne fun {u path value node} hpath hu hnode d hd => ?_
  match path, hc path hpath with
  | [], _ => cases hnode
  | [step], _ =>
    have hassigned := Tree.isAssigned_of_assignPart hnode
    rw [hassigned.tag]
    exact h u d hu (Tree.mem_containers_self hassigned.isOpen) hd

theorem independent (hc : s.IsCoherent) (h : s.IsTopApart a b) (h' : s.IsTopApart b a)
    (hne : a ≠ b) : s.Independent Change.IsShallow a b := by
  intro later hlater c hshallow
  have hl : (s.after later).IsTopApart a b := h.after hc hne hlater
  have hl' : (s.after later).IsTopApart b a :=
    h'.after hc hne.symm fun p hp => (hlater p hp).symm
  exact ⟨congrArg _ (hl.held_change hne hshallow), congrArg _ (hl'.held_change hne.symm hshallow)⟩

end IsTopApart

/-! ## Registered users -/

variable [Timeline T] {context user : String} {u v : User Metadata} {tag tag' : NodeId}
  {entries : List (Atom × Metadata)}

/-- When an account has been opened, its user is held with a dictionary of its own. -/
theorem held_register {answer : Answer T} (hu : s.held.get? user = some u)
    (hok : (s.step (.ask context (.register user (some name)))).2.answer = .ok answer) :
    ∃ v next, u.metadata.freshDict s.repository.supply = .ok (v.metadata, next) ∧
      (s.step (.ask context (.register user (some name)))).1.held = s.held.put name v := by
  simp only [Session.step, perform, withUser, hu] at hok ⊢
  cases hid : s.named.get? context with
  | none =>
    rw [hid] at hok
    cases hok
  | some id =>
    simp only [hid, concludeUser, conclude] at hok ⊢
    cases hr : (Service.register s.hasher s.repository (s.occasion id) u).result with
    | error f =>
      rw [hr] at hok
      cases hok
    | ok v =>
      obtain ⟨next, reply, he, -⟩ := Service.register_of_ok hr
      exact ⟨v, next, (Service.freshDict_of_enrolled he).2, rfl⟩

omit [Timeline T] in
/-- A new dictionary is not the one that its parts come from, nor inside it. -/
theorem isTopApart_of_freshDict (hc : s.IsCoherent) {next : NodeId}
    (hu : s.held.get? user = some u)
    (hdict : u.metadata.freshDict s.repository.supply = .ok (v.metadata, next))
    (htu : t.held.get? user = some u) (htv : t.held.get? name = some v) :
    t.IsTopApart user name ∧ t.IsTopApart name user := by
  obtain ⟨entries, hv, -, hold⟩ := Tree.freshDict_ok hdict
  have htop : ∀ c ∈ u.metadata.containers, s.Holds user c := fun c hcu => ⟨u, hu, hcu⟩
  constructor
  · intro w d hw hself hd
    cases htu.symm.trans hw
    obtain ⟨x, hx, hd⟩ := hd
    cases htv.symm.trans hx
    rcases Tree.containers_cases hd with rfl | hd
    · rw [hv]
      exact Nat.ne_of_gt (hc.held_lt user _ (htop _ hself))
    · rw [hv] at hd
      exact hc.inner_tag_ne (htop _ hself) (hold d hd)
  · intro w d hw _ hd
    cases htv.symm.trans hw
    obtain ⟨x, hx, hd⟩ := hd
    cases htu.symm.trans hx
    rw [hv]
    exact Nat.ne_of_lt (hc.held_lt user d (htop d hd))

omit [Timeline T] in
/-- Two users whose dictionaries are apart and share fixed values only are split. -/
theorem areSplit_of_fixed (hapart : t.IsTopApart user name)
    (hm : u.metadata = .dict tag entries) (hfixed : ∀ e ∈ entries, e.2.IsFixed)
    (htu : t.held.get? user = some u) : t.AreSplit user name := by
  intro c d hcu hdv heq
  obtain ⟨w, hw, hcu⟩ := hcu
  cases htu.symm.trans hw
  rcases Tree.containers_cases hcu with rfl | hinner
  · exact absurd heq.symm (hapart u d htu hcu hdv)
  · rw [hm] at hinner
    obtain ⟨e, he, hce⟩ := Tree.mem_entryContainers.mp hinner
    exact Tree.isFixed_of_mem (hfixed e he) hce

/-- Inside a value that two users share, and that is not fixed, something can be assigned through
one that shows in the other. -/
theorem exists_change_shown (hc : s.IsCoherent)
    (hu : s.held.get? user = some u) (hm : u.metadata = .dict tag entries)
    (hv : s.held.get? name = some v) (hvm : v.metadata = .dict tag' entries)
    {e : Atom × Metadata} (he : e ∈ entries) (hkey : Tree.lookup e.1 entries = some e.2)
    (hopen : ¬e.2.IsFixed) :
    ∃ c, ((s.step (.change name c)).1.held.get? user).map User.erase ≠
      (s.held.get? user).map User.erase := by
  obtain ⟨step, x, hassign⟩ := Tree.exists_assignPart hopen
  obtain ⟨node, hnode, hshown⟩ := hassign s.repository.supply
  have htag : node.tag = e.2.tag := (Tree.isAssigned_of_assignPart hnode).tag
  have hassigned : Tree.assigned [.atom () e.1, step] (x.build s.repository.supply).1 v.metadata =
      .ok node := by
    have hchild : Tree.child (.atom () e.1) v.metadata = .ok e.2 := by
      simp only [hvm, Tree.child, Tree.key, hkey]
    simp only [Tree.assigned, hchild]
    exact hnode
  have hheld : (s.step (.change name (.part [.atom () e.1, step] x))).1.held =
      s.held.mapValues fun w => w.withMetadata (Tree.update node w.metadata) := by
    simp only [Session.step, withUser, hv, changeUser, hassigned]
    exact held_updateNode (s := s.withSupply (x.build s.repository.supply).2) hv node
  refine ⟨.part [.atom () e.1, step] x, fun heq => hshown ?_⟩
  rw [hheld, Table.get?_mapValues, hu] at heq
  have herase : (Tree.update node u.metadata).erase = u.metadata.erase :=
    congrArg User.metadata (Option.some.inj heq)
  have hmem : e.2 ∈ u.metadata.inner := by
    rw [hm]
    exact Tree.mem_entryContainers.mpr ⟨e, he, Tree.mem_containers_self hopen⟩
  have hself : s.Holds user u.metadata := by
    refine ⟨u, hu, ?_⟩
    rw [hm]
    exact List.mem_cons_self
  have hother : tag ≠ node.tag := by
    have hinner := hc.inner_tag_ne hself hmem
    rw [hm] at hinner
    exact fun h => hinner (htag.symm.trans h.symm)
  rw [hm, Tree.update, if_neg hother] at herase
  injection herase with _ hentries
  have hvalue := Tree.erase_update_of_entries hentries e he
  rwa [Tree.update_self hopen htag.symm] at hvalue

/-- Once an account has been opened for a user, in a session with either kind of repository, no
assignment to a field of that user or of the one in the answer shows in the other, and none to their
metadata that does not go inside a part. If the metadata are a dictionary in which every value is
found under its key (no key is an undefined number), no assignment at any depth shows in the other if
and only if no value in the dictionary is a dictionary or a list that is not empty. -/
theorem registered_independent_iff {now : T} {backend : Backend} {hasher : Hasher}
    {steps : List (Option String × Step T)} {salt : Option String} {answer : Answer T}
    (hs : s = ((start now backend hasher).after steps).draw salt)
    (hu : s.held.get? user = some u) (hne : name ≠ user)
    (hok : (s.step (.ask context (.register user (some name)))).2.answer = .ok answer) :
    let t := (s.step (.ask context (.register user (some name)))).1
    t.Independent Change.IsShallow user name ∧
      ∀ tag entries, u.metadata = .dict tag entries →
        (∀ e ∈ entries, Tree.lookup e.1 entries = some e.2) →
          (t.Independent (fun _ => True) user name ↔ ∀ e ∈ entries, e.2.IsFixed) := by
  intro t
  have hc : s.IsCoherent := by
    rw [hs]
    exact ((isCoherent_start now backend hasher).after steps).draw salt
  have hct : t.IsCoherent := hc.step (evolves_step s (.ask context (.register user (some name))))
  obtain ⟨v, next, hdict, hheld⟩ := held_register hu hok
  have htu : t.held.get? user = some u := by
    rw [hheld, Table.get?_put_other hne.symm, hu]
  have htv : t.held.get? name = some v := by
    rw [hheld, Table.get?_put_same]
  obtain ⟨hapart, hapart'⟩ := isTopApart_of_freshDict hc hu hdict htu htv
  refine ⟨hapart.independent hct hapart' hne.symm, fun tag entries hm hkeys => ⟨?_, ?_⟩⟩
  · intro hind e he
    have hv : v.metadata = .dict s.repository.supply entries := by
      rw [hm] at hdict
      exact (congrArg Prod.fst (Except.ok.inj hdict)).symm
    by_contra hopen
    obtain ⟨c, hshown⟩ := exists_change_shown hct htu hm htv hv he (hkeys e he) hopen
    exact hshown (hind [] (by simp) c trivial).2
  · intro hfixed
    exact (areSplit_of_fixed hapart hm hfixed htu).independent hct hne.symm _

/-- A user with the given metadata is held. -/
def holding (backend : Backend) (metadata : Value) : Session Moment :=
  (start (.whole 1000) backend .reversing).after
    [(none, .hold "u" { email := "a@b.c", password := .text "password", metadata := metadata })]

/-- An account is opened for that user. -/
def registering : Step Moment := .ask "bg" (.register "u" (some "r"))

def flat : Value := Value.record [("plan", .text "basic"), ("tags", .list () [])]

theorem registered_independent_iff_flat :
    ((holding (.archive {}) flat).step registering).1.Independent (fun _ => True) "u" "r" := by
  have hs : holding (.archive {}) flat = ((start (.whole 1000) (.archive {}) .reversing).after
      [(none, .hold "u" ⟨"a@b.c", .text "password", flat⟩)]).draw none := rfl
  have hu : (holding (.archive {}) flat).held.get? "u" = some ⟨"a@b.c", .text "password",
      .dict 0 [(.text "plan", .atom 1 (.text "basic")), (.text "tags", .list 2 [])]⟩ := rfl
  have hok : ((holding (.archive {}) flat).step registering).2.answer =
      .ok (.user ⟨"a@b.c", .text "fake-hash:drowssap", flat⟩) := rfl
  obtain ⟨-, hiff⟩ := registered_independent_iff hs hu (by decide) hok
  refine (hiff _ _ rfl ?_).mpr (by decide)
  intro e he
  rcases List.mem_pair.mp he with rfl | rfl <;> rfl

def nested (size : Int) : Value :=
  Value.record [("tags", Value.record [("size", .atom () (.int size))])]

/-- A number is put inside the dictionary of the registered user, and it is in the one of the other.
-/
theorem registered_shares_nested :
    ((holding (.directory {}) (nested 1)).step registering).2.answer =
        .ok (.user ⟨"a@b.c", .text "fake-hash:drowssap", nested 1⟩) ∧
      (((holding (.directory {}) (nested 1)).step registering).1.held.get? "u").map User.erase =
        some ⟨"a@b.c", .text "password", nested 1⟩ ∧
      ((((holding (.directory {}) (nested 1)).step registering).1.step
          (.change "r" (.part [.text "tags", .text "size"] (.atom () (.int 2))))).1.held.get?
            "u").map User.erase = some ⟨"a@b.c", .text "password", nested 2⟩ ∧
      ¬((holding (.directory {}) (nested 1)).step registering).1.Independent (fun _ => True)
        "u" "r" := by
  have hbefore : (((holding (.directory {}) (nested 1)).step registering).1.held.get? "u").map
      User.erase = some ⟨"a@b.c", .text "password", nested 1⟩ := rfl
  have hafter : ((((holding (.directory {}) (nested 1)).step registering).1.step
      (.change "r" (.part [.text "tags", .text "size"] (.atom () (.int 2))))).1.held.get?
        "u").map User.erase = some ⟨"a@b.c", .text "password", nested 2⟩ := rfl
  refine ⟨rfl, hbefore, hafter, fun h => ?_⟩
  have hsame := (h [] (by simp) (.part [.text "tags", .text "size"] (.atom () (.int 2))) trivial).2
  have husers := hafter.symm.trans (hsame.trans hbefore)
  injection husers with husers
  injection husers with _ _ hmetadata
  simp [nested, Value.record] at hmetadata

end Accounts.Session
