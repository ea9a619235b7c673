import Accounts.Proofs.Metadata.Encodable
import Accounts.Proofs.Store.History

/-!
A directory and an archive that keep the same users. While neither has a failure in store, and as
long as everything they are given can be put into a document, they answer every request alike and
keep the same users again.
-/
namespace Accounts

variable {M T : Type}

/-! ## What a document can hold -/

/-- Users stand for the same when their fields do. -/
theorem User.erase_eq_iff {u v : User Metadata} : u.erase = v.erase ↔
    u.email = v.email ∧ u.password = v.password ∧ u.metadata.erase = v.metadata.erase := by
  simp only [User.erase, User.withMetadata, User.mk.injEq]

/-- A user that a document can hold and give back. -/
structure User.IsStorable (u : User Value) : Prop where
  password : u.password.fault? = none
  metadata : u.metadata.fault? = none
  dict : u.metadata.IsDict

/-- What a request puts into a document, apart from the address and the times. -/
def Request.given : Request Value → List Value
  | .save u => [u.password, u.metadata]
  | .updateUser u => [u.metadata]
  | .updatePassword _ password => [password]
  | .retrieve _ => []

/-- A request whose data a document can hold and give back. -/
def Request.IsStorable : Request Value → Prop
  | .save u => u.IsStorable
  | .updateUser u => u.metadata.fault? = none ∧ u.metadata.IsDict
  | .updatePassword _ password => password.fault? = none
  | .retrieve _ => True

theorem Failure.withoutCause_withoutCause (f : Failure) :
    f.withoutCause.withoutCause = f.withoutCause := by
  cases f <;> rfl

theorem Request.readBack_of_isStorable {r : Request Value} (h : r.IsStorable) : r.readBack = r := by
  cases r with
  | save u =>
    have hm := Archive.readBack_of_isDict h.dict
    simp [readBack, User.withMetadata, hm]
  | updateUser u =>
    have hm := Archive.readBack_of_isDict h.2
    simp [readBack, User.withMetadata, hm]
  | updatePassword email password => rfl
  | retrieve email => rfl

/-- Everything in a table can be held by documents. -/
def Storable (entries : Table (User Value)) : Prop :=
  ∀ email u, entries.get? email = some u → u.IsStorable

theorem storable_put {entries : Table (User Value)} (h : Storable entries) (email : String)
    {u : User Value} (hu : u.IsStorable) : Storable (entries.put email u) := by
  intro other v hv
  by_cases he : other = email
  · subst he
    rw [Table.get?_put_same] at hv
    cases hv
    exact hu
  · rw [Table.get?_put_other he] at hv
    exact h other v hv

/-- A request whose data can be held keeps the table so, and is answered with a user of it. -/
theorem storable_body {before after : Table (User Value)} {r : Request Value} {reply : Reply Value}
    (hb : Storable before) (hr : r.IsStorable) (h : Directory.body before r = .ok (reply, after)) :
    Storable after ∧ ∀ u, reply = .user u → u.IsStorable := by
  rcases Directory.body_cases h with ⟨u, rfl, hg, rfl⟩ | ⟨u, v, rfl, hg, rfl⟩ |
    ⟨e, p, v, rfl, hg, rfl⟩ | ⟨e, v, rfl, hg, rfl⟩
  · refine ⟨storable_put hb _ hr, ?_⟩
    rintro w rfl
    simp [Directory.body, hg] at h
  · have hv := hb _ v hg
    refine ⟨storable_put hb _ ⟨hv.password, hr.1, hr.2⟩, ?_⟩
    rintro w rfl
    simp [Directory.body, Directory.modify, hg, Except.map] at h
  · have hv := hb _ v hg
    refine ⟨storable_put hb _ ⟨hr, hv.metadata, hv.dict⟩, ?_⟩
    rintro w rfl
    simp [Directory.body, Directory.modify, hg, Except.map] at h
  · refine ⟨hb, ?_⟩
    rintro w rfl
    simp only [Directory.body, hg, Except.ok.injEq, Prod.mk.injEq, Reply.user.injEq] at h
    rw [← h.1]
    exact hb _ v hg

/-! ## Results that look alike -/

/-- Two results that a caller cannot tell apart: values with the same view, which is a good one, or
failures that differ in nothing but what they were raised from. -/
inductive SameResult {α γ : Type} (view : α → γ) (Good : γ → Prop) :
    Except Failure α → Except Failure α → Prop where
  | ok {a b : α} (h : view a = view b) (good : Good (view b)) : SameResult view Good (.ok a) (.ok b)
  | error {f g : Failure} (h : f.withoutCause = g.withoutCause) :
    SameResult view Good (.error f) (.error g)

/-- Results that are alike are both values or both failures. -/
theorem SameResult.cases {α γ : Type} {view : α → γ} {Good : γ → Prop} {x y : Except Failure α}
    (h : SameResult view Good x y) :
    (∃ a b, x = .ok a ∧ y = .ok b ∧ view a = view b ∧ Good (view b)) ∨
      ∃ f g, x = .error f ∧ y = .error g ∧ f.withoutCause = g.withoutCause := by
  cases h with
  | @ok a b h good => exact .inl ⟨a, b, rfl, rfl, h, good⟩
  | @error f g h => exact .inr ⟨f, g, rfl, rfl, h⟩

/-- Operations that follow results alike keep them alike. -/
theorem SameResult.bind {α β γ δ : Type} {view : α → γ} {Good : γ → Prop} {other : β → δ}
    {Fine : δ → Prop} {x y : Except Failure α} {k l : α → Except Failure β}
    (h : SameResult view Good x y)
    (hk : ∀ a b, view a = view b → Good (view b) → SameResult other Fine (k a) (l b)) :
    SameResult other Fine (x.bind k) (y.bind l) := by
  cases h with
  | ok h good => exact hk _ _ h good
  | error h => exact .error h

/-- Results that are alike are so when less is looked at. -/
theorem SameResult.forget {α γ : Type} {view : α → γ} {Good : γ → Prop} {x y : Except Failure α}
    (h : SameResult view Good x y) : SameResult (fun _ => ()) (fun _ => True) x y := by
  cases h with
  | ok h good => exact .ok rfl trivial
  | error h => exact .error h

/-- Results are alike when both show what is expected. -/
theorem SameResult.of_expected {α γ : Type} {view : α → γ} {Good : γ → Prop}
    {x y : Except Failure α} {e : Except Failure γ} (hx : x.map view = e)
    (hy : (y.map view).mapError Failure.withoutCause = e) (he : ∀ c, e = .ok c → Good c) :
    SameResult view Good x y := by
  subst hx
  cases x with
  | ok a =>
    cases y with
    | ok b =>
      have hv : view b = view a := Except.ok.inj hy
      exact .ok hv.symm (hv ▸ he _ rfl)
    | error g => cases hy
  | error f =>
    cases y with
    | ok b => cases hy
    | error g =>
      have hf : g.withoutCause = f := Except.error.inj hy
      exact .error (by rw [← hf, Failure.withoutCause_withoutCause])

namespace Failure

/-- What a failure was raised from shows neither in its name nor in its kind and message. -/
theorem name_eq_of_withoutCause {f g : Failure} (h : f.withoutCause = g.withoutCause) :
    f.name = g.name := by
  have hn : ∀ f : Failure, f.withoutCause.name = f.name := by
    intro f
    cases f <;> rfl
  rw [← hn f, ← hn g, h]

theorem kind?_eq_of_withoutCause {f g : Failure} (h : f.withoutCause = g.withoutCause) :
    f.kind? = g.kind? := by
  have hk : ∀ f : Failure, f.withoutCause.kind? = f.kind? := by
    intro f
    cases f <;> rfl
  rw [← hk f, ← hk g, h]

theorem message_eq_of_withoutCause {f g : Failure} (h : f.withoutCause = g.withoutCause) :
    f.message = g.message := by
  have hm : ∀ f : Failure, f.withoutCause.message = f.message := by
    intro f
    cases f <;> rfl
  rw [← hm f, ← hm g, h]

end Failure

/-! ## Circumstances -/

namespace Occasion

variable [Timeline T] {o : Occasion T}

/-- Looking at a context fails for a reason of the context. -/
theorem check_eq_error_iff {f : Failure} :
    o.check = .error f ↔ ∃ e, f = .context e ∧ o.contexts.check o.now o.context = .error e := by
  unfold check
  cases o.contexts.check o.now o.context with
  | ok left => simp
  | error e => simp [eq_comm]

/-- The clock shows a date, and the time that the context leaves is not too large. -/
structure IsRegular (o : Occasion T) : Prop where
  date : ∃ time, o.wallTime = .ok time
  left : o.check ≠ .error (.context .overflow)

/-- The context allows work, or it is cancelled or expired, unless the time left is too large. -/
theorem check_cases (hc : o.check ≠ .error (.context .overflow)) :
    (∃ left, o.check = .ok left) ∨ o.check = .error (.context .cancelled) ∨
      o.check = .error (.context .expired) := by
  cases h : o.check with
  | ok left => exact .inl ⟨left, rfl⟩
  | error f =>
    obtain ⟨e, rfl, -⟩ := check_eq_error_iff.mp h
    cases e with
    | cancelled => exact .inr (.inl rfl)
    | expired => exact .inr (.inr rfl)
    | overflow => exact absurd h hc

end Occasion

/-- The difference of two moments that become doubles can be told. -/
theorem Moment.sub?_ne_none {a b : Moment} (ha : a.double? ≠ none) (hb : b.double? ≠ none) :
    Timeline.sub? a b ≠ none := by
  obtain ⟨x, hx⟩ := Option.ne_none_iff_exists'.mp ha
  obtain ⟨y, hy⟩ := Option.ne_none_iff_exists'.mp hb
  change Moment.combine Double.sub (· - ·) a b ≠ none
  unfold combine
  split
  · exact nofun
  · simp [hx, hy]

/-- The time left can be told when clock and deadline can be read as doubles. -/
theorem Occasion.check_ne_overflow {o : Occasion Moment} (hnow : o.now.double? ≠ none)
    (hd : ∀ d, o.contexts.deadline? o.context = some d → d.double? ≠ none) :
    o.check ≠ .error (.context .overflow) := by
  have hremaining : ∃ left, o.contexts.remaining o.now o.context = .ok left := by
    unfold Contexts.remaining
    cases hdeadline : o.contexts.deadline? o.context with
    | none => exact ⟨none, rfl⟩
    | some d =>
      obtain ⟨left, hleft⟩ :=
        Option.ne_none_iff_exists'.mp (Moment.sub?_ne_none (hd d hdeadline) hnow)
      simp only [hleft]
      exact ⟨_, rfl⟩
  obtain ⟨left, hleft⟩ := hremaining
  intro h
  obtain ⟨e, he, hcheck⟩ := check_eq_error_iff.mp h
  cases he
  rw [Contexts.check, hleft] at hcheck
  split at hcheck
  · cases hcheck
  · cases left with
    | none => cases hcheck
    | some left =>
      simp only at hcheck
      split at hcheck <;> cases hcheck

/-! ## Repositories that mirror each other -/

namespace Repository

/-- A directory and an archive that keep the same users and have no failure in store. -/
structure Mirrors (s t : Repository) : Prop where
  directory : ∃ d, s.backend = .directory d ∧ d.failWith = none
  archive : ∃ c, t.backend = .archive c ∧ c.armed = []
  contents : s.contents = t.contents
  storable : Storable t.contents

/-- What a directory of plain users without failures says to a request. -/
def expected [Timeline T] (entries : Table (User Value)) (o : Occasion T) (r : Request Value) :
    Outcome T (Directory Value) (Reply Value) :=
  ({ entries := entries } : Directory Value).run o r

end Repository

namespace Archive

/-- Address and times can be encoded. -/
theorem itemsFault?_arguments (r : Request Value) (time : Int) (left : Option T) :
    Tree.itemsFault? (call r time left).arguments = Tree.itemsFault? r.given := by
  have hquery : ∀ email, (Collection.query email).fault? = none := fun email => by
    rw [Collection.query, Value.fault?_record (by simp)]
    rfl
  have hsetting : ∀ (name : String) (v : Value), '\x00' ∉ name.toList →
      (Collection.setting [(name, v), ("updated_at", .instant time)]).fault? = v.fault? := by
    intro name v hname
    have hfields : (Value.record [(name, v), ("updated_at", .instant time)]).fault? = v.fault? := by
      rw [Value.fault?_record (by simp [hname])]
      simp
    rw [Collection.setting, Value.fault?_record (by simp)]
    simp [hfields]
  cases r with
  | save u =>
    have hdocument : (Value.record (document u time)).fault? =
        Tree.itemsFault? [u.password, u.metadata] := by
      rw [Value.fault?_record (by simp [document])]
      simp [document]
    simp [call, Request.given, hdocument]
  | updateUser u => simp [call, Request.given, hquery, hsetting]
  | updatePassword email password => simp [call, Request.given, hquery, hsetting]
  | retrieve email => simp [call, Request.given, hquery]

/-- Data that a document can hold pass the encoding. -/
theorem itemsFault?_call {r : Request Value} (h : r.IsStorable) (time : Int) (left : Option T) :
    Tree.itemsFault? (call r time left).arguments = none := by
  rw [itemsFault?_arguments]
  cases r with
  | save u => simp [Request.given, h.password, h.metadata]
  | updateUser u => simp [Request.given, h.1]
  | updatePassword email password =>
    have hp : password.fault? = none := h
    simp [Request.given, hp]
  | retrieve email => rfl

/-- Such a call enters when no failure is in store. -/
theorem enter_call {c : Collection} (hc : c.armed = []) {r : Request Value} (h : r.IsStorable)
    (time : Int) (left : Option T) :
    c.enter (call r time left).method (call r time left).arguments = (.ok (), c) := by
  have hf : c.fault? (call r time left).method = none := by
    simp [Collection.fault?, hc]
  simp only [Collection.enter, itemsFault?_call h, hf]

variable [Timeline T]

/-- On a date, a request makes its call when its context allows work. -/
theorem run_dated {o : Occasion T} {time : Int} (hw : o.wallTime = .ok time) (c : Collection)
    (r : Request Value) :
    run c o r =
      match o.check with
      | .error f => stop c r [] (raised r.action f)
      | .ok left => perform c r time left := by
  cases hc : o.check with
  | error f => cases r <;> simp only [run, prepare, hw, hc] <;> rfl
  | ok left => cases r <;> simp only [run, prepare, hw, hc] <;> rfl

/-- A request is stopped by a failure that is shown as it is. -/
theorem run_of_refused {o : Occasion T} {time : Int} (hw : o.wallTime = .ok time) {f : Failure}
    (hc : o.check = .error f) (hf : f.overflow? = none) (c : Collection) (r : Request Value) :
    run c o r = { result := .error f, state := c } := by
  rw [run_dated hw, hc]
  simp only [raised, hf]
  rfl

/-- Without failures in store, and on a regular occasion, an archive says what is expected to what it can hold,
and keeps what is expected. -/
theorem run_expected {c : Collection} (hc : c.armed = []) {o : Occasion T} (ho : o.IsRegular)
    {r : Request Value} (hr : r.IsStorable) :
    (run c o r).result.mapError Failure.withoutCause =
        (Repository.expected (contents c.documents) o r).result ∧
      (run c o r).state.armed = [] ∧
      contents (run c o r).state.documents =
        (Repository.expected (contents c.documents) o r).state.entries := by
  obtain ⟨time, hw⟩ := ho.date
  simp only [Repository.expected, Directory.run, Directory.accept]
  rcases o.check_cases ho.left with ⟨left, h⟩ | h | h
  · rw [run_dated hw, h]
    have hx := execute_of_entered left (enter_call hc hr time left)
    rw [Request.readBack_of_isStorable hr] at hx
    simp only [result_perform, state_perform, Directory.failure?, Directory.perform]
    cases hb : Directory.body (contents c.documents) r with
    | ok p =>
      rw [hb] at hx
      obtain ⟨documents, he, hd⟩ := hx
      rw [he]
      exact ⟨rfl, hc, hd⟩
    | error f =>
      rw [hb] at hx
      obtain ⟨e, he, hs⟩ := hx
      rw [he]
      exact ⟨congrArg Except.error hs, hc, rfl⟩
  · rw [run_of_refused hw h rfl, h]
    exact ⟨rfl, hc, rfl⟩
  · rw [run_of_refused hw h rfl, h]
    exact ⟨rfl, hc, rfl⟩

end Archive

namespace Repository

variable [Timeline T]

/-- A directory without a failure to show says what is expected and keeps what is expected. -/
theorem run_directory_expected {s : Repository} {d : Directory Metadata}
    (hs : s.backend = .directory d) (hd : d.failWith = none) (o : Occasion T)
    (r : Request Metadata) :
    (s.run o r).result.map Reply.erase = (expected s.contents o r.erase).result ∧
      (∃ d', (s.run o r).state.backend = .directory d' ∧ d'.failWith = none) ∧
      (s.run o r).state.contents = (expected s.contents o r.erase).state.entries := by
  obtain ⟨backend, supply⟩ := s
  subst hs
  obtain ⟨hr, d', hb, he⟩ := runDirectory_eq d supply o r
  have hq : d.erase = { entries := d.erase.entries } := by
    simp [Directory.erase, hd]
  have hf : d'.failWith = none := by
    have hk : (d.erase.run o r.erase).state.failWith = d.erase.failWith := by
      simp only [Directory.run]
      cases d.erase.accept o with
      | error f => rfl
      | ok _ =>
        simp only [Directory.perform]
        cases Directory.body d.erase.entries r.erase <;> rfl
    have : d'.erase.failWith = d.erase.failWith := by rw [he, hk]
    exact this.trans hd
  have hx : expected d.erase.entries o r.erase = d.erase.run o r.erase := by
    rw [expected, ← hq]
  simp only [run, contents, hb]
  rw [hx]
  exact ⟨hr, ⟨d', rfl, hf⟩, congrArg Directory.entries he⟩

/-- What is expected can be held again. -/
theorem expected_storable {entries : Table (User Value)} (h : Storable entries) (o : Occasion T)
    {r : Request Value} (hr : r.IsStorable) :
    Storable (expected entries o r).state.entries ∧
      ∀ reply, (expected entries o r).result = .ok reply → ∀ u, reply = .user u → u.IsStorable := by
  have he := Directory.run_effect ({ entries := entries } : Directory Value) o r
  change Effect entries r (expected entries o r).result (expected entries o r).state.entries at he
  cases hx : (expected entries o r).result with
  | error f =>
    rw [hx] at he
    refine ⟨?_, ?_⟩
    · have hs : (expected entries o r).state.entries = entries := he
      rw [hs]
      exact h
    · intro reply hreply
      cases hreply
  | ok reply =>
    rw [hx] at he
    have hb := storable_body h hr he
    refine ⟨hb.1, ?_⟩
    intro reply' hreply
    cases hreply
    exact hb.2

/-- Mirroring repositories answer alike and mirror each other again. -/
theorem mirrors_run {s t : Repository} (h : Mirrors s t) {o : Occasion T} (ho : o.IsRegular)
    {r q : Request Metadata} (he : r.erase = q.erase) (hq : q.erase.IsStorable) :
    SameResult Reply.erase (fun reply => ∀ u, reply = .user u → u.IsStorable) (s.run o r).result
        (t.run o q).result ∧
      Mirrors (s.run o r).state (t.run o q).state := by
  obtain ⟨⟨d, hs, hd⟩, ⟨c, ht, hc⟩, hcon, hst⟩ := h
  obtain ⟨hr, hd', hk⟩ := run_directory_expected hs hd o r
  have hct : t.contents = Archive.contents c.documents := by
    rw [contents, ht]
  obtain ⟨hx, ha, hl⟩ := Archive.run_expected hc ho hq
  rw [← hct] at hx hl
  obtain ⟨hy, hb⟩ := runArchive_eq c t.supply o q
  have hrun : t.run o q = runArchive c t.supply o q := by
    rw [run, ht]
  rw [he, hcon] at hr hk
  have hc' : (t.run o q).state.contents = (expected t.contents o q.erase).state.entries := by
    rw [hrun, contents, hb]
    exact hl
  have hgood := expected_storable hst o hq
  refine ⟨?_, ⟨hd', ⟨_, ?_, ha⟩, ?_, ?_⟩⟩
  · apply SameResult.of_expected hr
    · rw [hrun, hy]
      exact hx
    · intro reply hreply
      exact hgood.2 reply hreply
  · rw [hrun]
    exact hb
  · rw [hk, hc']
  · rw [hc']
    exact hgood.1

end Repository

end Accounts
