import Accounts.Proofs.Service.Validity

/-!
The dates in an archive. Requests and tasks of the service arrive with contexts of their own, and the
driver may have errors in store. Every write that succeeds is recorded with its address and the wall
time. A document holds five fields and no others: it was created when its account was opened, which
happened once, and last changed by the latest write about its address. While the wall clock does not
go back, the first date never changes and the second never decreases.
-/
namespace Accounts

variable {M T : Type}

/-! ## Records of writes -/

/-- A write that has succeeded, and whether it opened an account. -/
structure Writing where
  email : String
  time : Int
  opens : Bool
  deriving DecidableEq, Repr

namespace Writing

variable {email : String} {writings : List Writing}

/-- The writes about an address. -/
def about (email : String) (writings : List Writing) : List Writing :=
  writings.filter (·.email = email)

@[simp] theorem about_cons_same (email : String) (time : Int) (opens : Bool)
    (writings : List Writing) : about email (⟨email, time, opens⟩ :: writings) =
      ⟨email, time, opens⟩ :: about email writings :=
  List.filter_cons_of_pos (decide_eq_true rfl)

theorem about_cons_other {w : Writing} (h : w.email ≠ email) :
    about email (w :: writings) = about email writings :=
  List.filter_cons_of_neg (by simpa using h)

theorem about_append (email : String) (new writings : List Writing) :
    about email (new ++ writings) = about email new ++ about email writings :=
  List.filter_append ..

/-- When the latest of several writes happened. The latest comes first. -/
def latest? (writings : List Writing) : Option Int := (writings.head?).map time

/-- No write is older than the ones that it is recorded in front of. -/
def InOrder (writings : List Writing) : Prop := writings.Pairwise fun v w => w.time ≤ v.time

/-- No write about an address is later than the latest. -/
theorem le_latest {w : Writing} {latest : Int} (h : InOrder writings)
    (hw : w ∈ about email writings) (hl : latest? (about email writings) = some latest) :
    w.time ≤ latest := by
  have horder : InOrder (about email writings) := List.Pairwise.filter _ h
  cases ha : about email writings with
  | nil =>
    rw [ha] at hw
    cases hw
  | cons v vs =>
    rw [ha] at hw hl horder
    cases hl
    rcases List.mem_cons.mp hw with rfl | hw
    · exact Int.le_refl w.time
    · exact List.rel_of_pairwise_cons horder hw

end Writing

open Writing (about latest? InOrder)

/-- What a request that succeeds at a time writes. -/
def Request.writing? (time : Int) : Request M → Option Writing
  | .save u => some ⟨u.email, time, true⟩
  | .updateUser u => some ⟨u.email, time, false⟩
  | .updatePassword email _ => some ⟨email, time, false⟩
  | .retrieve _ => none

@[simp] theorem Request.writing?_erase (time : Int) (r : Request Metadata) :
    r.erase.writing? time = r.writing? time := by
  cases r <;> rfl

theorem Request.writing?_of_update {r : Request Value} (h : r.method = .update) (time : Int) :
    r.writing? time = some ⟨r.email, time, false⟩ := by
  cases r with
  | updateUser u | updatePassword email password => rfl
  | save u | retrieve email => cases h

theorem Request.time_of_writing? {r : Request M} {time : Int} {w : Writing}
    (h : r.writing? time = some w) : w.time = time := by
  cases r with
  | save u | updateUser u | updatePassword email password =>
    cases h
    rfl
  | retrieve email => cases h

/-- What a task that succeeds at a time writes. -/
def Service.Task.writing? (time : Int) : Service.Task → Option Writing
  | .register u => some ⟨u.email, time, true⟩
  | .updateUser u => some ⟨u.email, time, false⟩
  | .updatePassword email _ => some ⟨email, time, false⟩
  | .viewUser _ => none

theorem Service.Task.time_of_writing? {t : Service.Task} {time : Int} {w : Writing}
    (h : t.writing? time = some w) : w.time = time := by
  cases t with
  | register u | updateUser u | updatePassword email password =>
    cases h
    rfl
  | viewUser email => cases h

theorem Service.Carries.writing?_eq {h : Hasher} {t : Service.Task} {r : Request Value}
    (hc : Service.Carries h t r) (time : Int) : r.writing? time = t.writing? time := by
  cases hc <;> rfl

/-! ## Dates of a document -/

/-- A document has its five fields. Its dates are the time of the one write that opened the account
and that of the latest write about the address. -/
structure IsDated (writings : List Writing) (email : String) (d : Document)
    (created updated : Int) : Prop where
  names : d.names = ["_id", "password", "metadata", "created_at", "updated_at"]
  id : d.get? "_id" = some (.text email)
  createdAt : d.get? "created_at" = some (.instant created)
  updatedAt : d.get? "updated_at" = some (.instant updated)
  opening : (about email writings).filter Writing.opens = [⟨email, created, true⟩]
  latest : latest? (about email writings) = some updated

namespace IsDated

variable {writings : List Writing} {email : String} {d : Document} {created updated : Int}

theorem opening_mem (h : IsDated writings email d created updated) :
    ⟨email, created, true⟩ ∈ about email writings := by
  have hmem : ⟨email, created, true⟩ ∈ (about email writings).filter Writing.opens :=
    h.opening ▸ List.mem_singleton_self _
  exact (List.mem_filter.mp hmem).1

/-- A document was created before it was last changed. -/
theorem created_le_updated (h : IsDated writings email d created updated) (ho : InOrder writings) :
    created ≤ updated :=
  Writing.le_latest ho h.opening_mem h.latest

/-- When more has been written, the document was created at the same time and last changed at the
same time or later. -/
theorem mono {new : List Writing} {d' : Document} {created' updated' : Int}
    (h : IsDated writings email d created updated)
    (h' : IsDated (new ++ writings) email d' created' updated') (ho : InOrder (new ++ writings)) :
    created' = created ∧ updated ≤ updated' := by
  constructor
  · have hopening := h'.opening
    rw [Writing.about_append, List.filter_append, h.opening] at hopening
    have hlast := congrArg List.getLast? hopening
    rw [List.getLast?_concat] at hlast
    cases hlast
    rfl
  · have hlatest := h.latest
    cases ha : about email writings with
    | nil =>
      rw [ha] at hlatest
      cases hlatest
    | cons w ws =>
      rw [ha] at hlatest
      cases hlatest
      refine Writing.le_latest ho ?_ h'.latest
      rw [Writing.about_append, ha]
      exact List.mem_append_right _ List.mem_cons_self

/-- A write about another address does not matter. -/
theorem cons_other (h : IsDated writings email d created updated) {w : Writing}
    (hw : w.email ≠ email) : IsDated (w :: writings) email d created updated := by
  refine ⟨h.names, h.id, h.createdAt, h.updatedAt, ?_, ?_⟩
  · rw [Writing.about_cons_other hw]
    exact h.opening
  · rw [Writing.about_cons_other hw]
    exact h.latest

/-- A document is dated by the write that added it. -/
theorem document {u : User Value} (h : about u.email writings = []) (time : Int) :
    IsDated (⟨u.email, time, true⟩ :: writings) u.email (Archive.document u time) time time := by
  refine ⟨rfl, rfl, rfl, rfl, ?_, ?_⟩
  · rw [Writing.about_cons_same, h]
    rfl
  · rw [Writing.about_cons_same]
    rfl

/-- A change gives a document its later date and no other. -/
theorem setFields {r : Request Value} (hr : r.method = .update)
    (h : IsDated writings r.email d created updated) (time : Int) :
    IsDated (⟨r.email, time, false⟩ :: writings) r.email
      (Collection.setFields (r.fields time) d) created time := by
  have hfields : ∀ f ∈ r.fields time, f.1 ∈ ["password", "metadata", "updated_at"] :=
    Request.mem_names_fields
  have hother : ∀ name, name ∉ ["password", "metadata", "updated_at"] →
      (Collection.setFields (r.fields time) d).get? name = d.get? name := by
    intro name hname
    apply Collection.get?_setFields_other
    rintro f hf rfl
    exact hname (hfields f hf)
  refine ⟨?_, ?_, ?_, ?_, ?_, ?_⟩
  · rw [Collection.names_setFields, h.names]
    intro f hf
    rw [h.names]
    have hsub : ["password", "metadata", "updated_at"] ⊆
        ["_id", "password", "metadata", "created_at", "updated_at"] := by decide
    exact hsub (hfields f hf)
  · rw [hother "_id" (by decide)]
    exact h.id
  · rw [hother "created_at" (by decide)]
    exact h.createdAt
  · exact Request.get?_updatedAt_setFields hr time d
  · rw [Writing.about_cons_same]
    exact h.opening
  · rw [Writing.about_cons_same]
    rfl

end IsDated

/-- Every document is dated, and there is one for every address that has been written about. -/
structure Dated (writings : List Writing) (documents : Table Document) : Prop where
  nodup : documents.names.Nodup
  unknown : ∀ email, documents.get? email = none → about email writings = []
  known : ∀ email d, documents.get? email = some d →
    ∃ created updated, IsDated writings email d created updated

theorem dated_nil : Dated [] [] :=
  ⟨List.nodup_nil, fun _ _ => rfl, fun _ _ h => by cases h⟩

/-- A document that is put in under an address of which a write is recorded. -/
theorem Dated.put {writings : List Writing} {documents : Table Document}
    (h : Dated writings documents) {w : Writing} {d : Document} {created updated : Int}
    (hd : IsDated (w :: writings) w.email d created updated) :
    Dated (w :: writings) (documents.put w.email d) := by
  refine ⟨Table.nodup_put h.nodup _ _, fun email hnone => ?_, fun email d' hsome => ?_⟩
  · by_cases he : w.email = email
    · rw [← he, Table.get?_put_same] at hnone
      cases hnone
    · rw [Table.get?_put_other (Ne.symm he)] at hnone
      rw [Writing.about_cons_other he]
      exact h.unknown email hnone
  · by_cases he : w.email = email
    · subst he
      rw [Table.get?_put_same] at hsome
      cases hsome
      exact ⟨created, updated, hd⟩
    · rw [Table.get?_put_other (Ne.symm he)] at hsome
      obtain ⟨created', updated', hd'⟩ := h.known email d' hsome
      exact ⟨created', updated', hd'.cons_other he⟩

/-- A request that succeeds leaves dated documents behind, once its write is recorded. -/
theorem dated_puts {writings : List Writing} {before after : Table Document} {r : Request Value}
    {time : Int} (h : Dated writings before) (hp : r.Puts time before after) :
    Dated ((r.writing? time).toList ++ writings) after := by
  cases hp with
  | @opened u _ hnew => exact h.put (w := ⟨u.email, time, true⟩) (.document (h.unknown _ hnew) time)
  | @changed _ d _ hr hold =>
    obtain ⟨created, updated, hd⟩ := h.known _ d hold
    rw [Request.writing?_of_update hr]
    exact h.put (w := ⟨r.email, time, false⟩) (hd.setFields hr time)
  | retrieved email => exact h

/-! ## Matters of an archive -/

/-- What is asked of an archive, directly or through the service. -/
inductive Dealing (T : Type) where
  | ask (o : Occasion T) (r : Request Metadata)
  | serve (h : Hasher) (o : Occasion T) (t : Service.Task)
  | login (h : Hasher) (o : Occasion T) (email : String) (password : Value)

variable [Timeline T]

namespace Dealing

/-- The wall time, if it is a date. -/
def time? : Dealing T → Option Int
  | .ask o _ | .serve _ o _ | .login _ o _ _ => Occasion.wallTime? o.now

/-- What is written in case of success. -/
def writing? (d : Dealing T) : Option Writing :=
  match d with
  | .ask _ r => d.time?.bind fun time => r.writing? time
  | .serve _ _ t => d.time?.bind fun time => t.writing? time
  | .login .. => none

theorem time?_of_writing? {d : Dealing T} {w : Writing} (h : d.writing? = some w) :
    d.time? = some w.time := by
  cases d with
  | ask o r =>
    obtain ⟨time, htime, hw⟩ := Option.bind_eq_some_iff.mp h
    rw [htime, Request.time_of_writing? hw]
  | serve g o t =>
    obtain ⟨time, htime, hw⟩ := Option.bind_eq_some_iff.mp h
    rw [htime, Service.Task.time_of_writing? hw]
  | login g o email password => cases h

def perform (s : Repository) : Dealing T → Outcome T Repository Unit
  | .ask o r => (s.run o r).silent
  | .serve h o t => t.perform h s o
  | .login h o email password => (Service.login h s o email password).silent

theorem isAtomic_perform (s : Repository) (d : Dealing T) : (d.perform s).IsAtomic s := by
  cases d with
  | ask o r => exact (s.isAtomic_run o r).silent
  | serve h o t => exact Service.isAtomic_perform h t s o
  | login h o email password => exact (Service.isAtomic_login h email password).silent

end Dealing

/-- The wall time of a turn, if it has one. -/
def Turn.time? : Turn (Dealing T) → Option Int
  | .deal d => d.time?
  | .failWith _ | .arm .. => none

/-- The writes are recorded that have succeeded. -/
def recording : Office T (Dealing T) Writing where
  deal s d := d.perform s
  record? := Dealing.writing?
  isAtomic := Dealing.isAtomic_perform

theorem Occasion.wallTime?_of_wallTime {o : Occasion T} {time : Int} (h : o.wallTime = .ok time) :
    wallTime? o.now = some time := by
  unfold wallTime at h
  split at h
  · next s hs =>
    cases h
    exact hs
  · cases h

namespace Repository

variable {s : Repository} {o : Occasion T} {documents : Table Document}

theorem exists_archive (h : s.stored = .inr documents) :
    ∃ c, s.backend = .archive c ∧ c.documents = documents := by
  unfold stored at h
  split at h
  · cases h
  · next c hc =>
    cases h
    exact ⟨c, hc, rfl⟩

/-- A request that succeeds does to the documents what it is for, and writes at the wall time. -/
theorem puts_of_run {r : Request Metadata} {reply : Reply Metadata} (h : s.stored = .inr documents)
    (hr : (s.run o r).result = .ok reply) :
    ∃ time after, (s.run o r).state.stored = .inr after ∧ r.erase.Puts time documents after ∧
      r.erase.writing? time = (Occasion.wallTime? o.now).bind fun now => r.writing? now := by
  obtain ⟨c, hb, rfl⟩ := exists_archive h
  obtain ⟨backend, supply⟩ := s
  subst hb
  obtain ⟨hresult, hstate⟩ := runArchive_eq c supply o r
  have hok : (Archive.run c o r.erase).result = .ok reply.erase := by
    rw [← hresult]
    exact congrArg (Except.map Reply.erase) hr
  obtain ⟨time, hw, hputs⟩ := Archive.puts_of_run hok
  refine ⟨time, _, ?_, hputs, ?_⟩
  · simp only [run, stored, hstate]
  · have hnow : r.erase.action ≠ .retrieve → Occasion.wallTime? o.now = some time := fun hwrite =>
      Occasion.wallTime?_of_wallTime (hw hwrite)
    cases r with
    | retrieve email => cases Occasion.wallTime? o.now <;> rfl
    | save u | updateUser u | updatePassword email password =>
      rw [hnow (by rintro ⟨⟩)]
      rfl

/-- A task that succeeds does to the documents what the request is for that it comes to. -/
theorem puts_of_task {h : Hasher} {t : Service.Task} (hs : s.stored = .inr documents)
    (hr : (t.perform h s o).result = .ok ()) :
    ∃ (r : Request Value) (time : Int) (after : Table Document),
      (t.perform h s o).state.stored = .inr after ∧ r.Puts time documents after ∧
        r.writing? time = (Occasion.wallTime? o.now).bind fun now => t.writing? now := by
  obtain ⟨-, supply, r, reply, hc, hx, hstored⟩ := Service.fulfils_perform hr
  have hsame : (⟨s.backend, supply⟩ : Repository).stored = .inr documents := hs
  obtain ⟨time, after, hafter, hputs, hwriting⟩ := puts_of_run hsame hx
  refine ⟨r.erase, time, after, hstored.trans hafter, hputs, ?_⟩
  simp only [hwriting, ← hc.writing?_eq, Request.writing?_erase]

end Repository

/-- Nothing happens to the documents when somebody logs in. Otherwise, what succeeds does to them
what a request is for. -/
theorem Dealing.puts_of_perform {s : Repository} {documents : Table Document} {d : Dealing T}
    (h : s.stored = .inr documents) (hr : (d.perform s).result = .ok ()) :
    ∃ (r : Request Value) (time : Int) (after : Table Document),
      (d.perform s).state.stored = .inr after ∧ r.Puts time documents after ∧
        r.writing? time = d.writing? := by
  cases d with
  | ask o r =>
    obtain ⟨reply, hx⟩ := Outcome.result_of_silent hr
    obtain ⟨time, after, hafter, hputs, hwriting⟩ := Repository.puts_of_run h hx
    exact ⟨r.erase, time, after, hafter, hputs, hwriting⟩
  | serve g o t => exact Repository.puts_of_task h hr
  | login g o email password =>
    have hsame : (Service.login g s o email password).state.stored = .inr documents :=
      (Repository.stored_run_retrieve s o email).trans h
    exact ⟨.retrieve email, 0, documents, hsame, .retrieved email documents, rfl⟩

/-! ## Runs -/

namespace Archive

variable {k : Chronicle Writing} {documents : Table Document}

/-- The documents are dated by what is recorded. -/
theorem dated_invariant :
    recording.Invariant (T := T) (fun _ => True)
      (fun writings s => ∃ documents, s.stored = .inr documents ∧ Dated writings documents) where
  frame hs hk := by
    rw [hs]
    exact hk
  deal _ hr hk := by
    obtain ⟨documents, hstored, hdated⟩ := hk
    obtain ⟨r, time, after, hafter, hputs, hwriting⟩ := Dealing.puts_of_perform hstored hr
    refine ⟨after, hafter, ?_⟩
    have hafterwards := dated_puts hdated hputs
    rw [hwriting] at hafterwards
    exact hafterwards

theorem dated_run (h : k.repository.stored = .inr documents) (hk : Dated k.done documents)
    (turns : List (Turn (Dealing T))) :
    ∃ after, (recording.run k turns).repository.stored = .inr after ∧
      Dated (recording.run k turns).done after :=
  dated_invariant.run ⟨documents, h, hk⟩ fun _ _ => trivial

/-- What a turn records has its wall time. -/
theorem time?_of_turnRecord? {t : Turn (Dealing T)} {w : Writing}
    (h : recording.turnRecord? t = some w) : t.time? = some w.time := by
  cases t with
  | deal d => exact Dealing.time?_of_writing? h
  | failWith message | arm m e => cases h

/-- The times of what is recorded are wall times of the turns, in their order. -/
theorem times_sublist (turns : List (Turn (Dealing T))) :
    ((turns.filterMap recording.turnRecord?).map Writing.time).Sublist
      (turns.filterMap Turn.time?) := by
  induction turns with
  | nil => exact List.Sublist.refl _
  | cons t ts ih =>
    cases he : recording.turnRecord? t with
    | none =>
      rw [List.filterMap_cons_none he]
      exact ih.trans ((List.sublist_cons_self t ts).filterMap Turn.time?)
    | some w =>
      rw [List.filterMap_cons_some he, List.filterMap_cons_some (time?_of_turnRecord? he)]
      exact ih.cons_cons w.time

/-- While the wall clock does not go back, writes are recorded in order. -/
theorem inOrder_run {turns : List (Turn (Dealing T))} (hk : k.done = [])
    (hclock : (turns.filterMap Turn.time?).Pairwise (· ≤ ·)) :
    InOrder (recording.run k turns).done := by
  obtain ⟨new, hnew, hsub⟩ := recording.done_run k turns
  have horder := hclock.sublist ((hsub.map Writing.time).trans (times_sublist turns))
  rw [hnew, hk, List.append_nil]
  rw [List.pairwise_map, List.pairwise_reverse] at horder
  exact horder

/-! ## Documents -/

/-- An archive without documents. -/
def empty (supply : NodeId) : Chronicle Writing := ⟨⟨.archive {}, supply⟩, []⟩

/-- From an empty archive on, whatever is asked for, in whatever contexts and with whatever errors
of the driver, while the wall clock does not go back: every document has its five fields, was
created by the one write that opened its account and last changed by the latest write, not before
it was created. Whatever comes later, it stays, with the date of its creation, and the date of its
last change does not decrease. -/
theorem documents_dated (supply : NodeId) {turns later : List (Turn (Dealing T))}
    (hclock : ((turns ++ later).filterMap Turn.time?).Pairwise (· ≤ ·)) :
    ∃ documents after : Table Document,
      (recording.run (empty supply) turns).repository.stored = .inr documents ∧
      (recording.run (empty supply) (turns ++ later)).repository.stored = .inr after ∧
      documents.names.Nodup ∧ after.names.Nodup ∧
      ∀ email d, (email, d) ∈ documents → ∃ created updated,
        IsDated (recording.run (empty supply) turns).done email d created updated ∧
        created ≤ updated ∧
        ∃ d' updated', (email, d') ∈ after ∧
          IsDated (recording.run (empty supply) (turns ++ later)).done email d' created updated' ∧
          updated ≤ updated' := by
  have hempty : (empty supply).repository.stored = .inr [] := rfl
  obtain ⟨documents, hnow, hdated⟩ := dated_run hempty dated_nil turns
  obtain ⟨after, hafter, hdated'⟩ := dated_run hnow hdated later
  obtain ⟨new, hnew, -⟩ := recording.done_run (recording.run (empty supply) turns) later
  have horder' : InOrder (recording.run (empty supply) (turns ++ later)).done :=
    inOrder_run rfl hclock
  rw [← Office.run_append] at hafter hdated' hnew
  have horder : InOrder (recording.run (empty supply) turns).done := by
    rw [hnew] at horder'
    exact (List.pairwise_append.mp horder').2.1
  refine ⟨documents, after, hnow, hafter, hdated.nodup, hdated'.nodup, fun email d hd => ?_⟩
  obtain ⟨created, updated, hone⟩ := hdated.known email d (Table.get?_of_mem hdated.nodup hd)
  refine ⟨created, updated, hone, hone.created_le_updated horder, ?_⟩
  cases hd' : after.get? email with
  | none =>
    have hnone := hdated'.unknown email hd'
    rw [hnew, Writing.about_append] at hnone
    have hmem := hone.opening_mem
    rw [(List.append_eq_nil_iff.mp hnone).2] at hmem
    cases hmem
  | some d' =>
    obtain ⟨created', updated', hlater⟩ := hdated'.known email d' hd'
    rw [hnew] at hlater horder'
    obtain ⟨rfl, hle⟩ := hone.mono hlater horder'
    rw [hnew]
    exact ⟨d', updated', Table.mem_of_get? hd', hlater, hle⟩

/-- Some seconds after the beginning of the clock. -/
def timely (seconds : Int) : Occasion Moment := { Occasion.anytime with now := .whole seconds }

/-- An account is opened after the driver has failed once, not opened again, and given another
password. A password for another address is no write. -/
def correcting : List (Turn (Dealing Moment)) :=
  [.arm .insert ⟨.other "AutoReconnect", "lost", none⟩,
    .deal (.ask (timely 900) (.save ⟨"ann@site.org", .text "first", .dict 0 []⟩)),
    .deal (.serve .reversing (timely 1000)
      (.register ⟨"ann@site.org", .text "password", .dict 0 []⟩)),
    .deal (.ask (timely 1005) (.save ⟨"ann@site.org", .text "taken", .dict 0 []⟩)),
    .deal (.ask (timely 1005) (.updatePassword "bob@site.org" (.text "lost"))),
    .deal (.serve .reversing (timely 1010)
      (.updatePassword "ann@site.org" (.text "password two")))]

/-- An update is lost, and one is not. -/
def updating : List (Turn (Dealing Moment)) :=
  [.arm .update ⟨.other "AutoReconnect", "lost", none⟩,
    .deal (.ask (timely 1020) (.updateUser ⟨"ann@site.org", .text "", .dict 0 []⟩)),
    .deal (.ask (timely 1030) (.updateUser ⟨"ann@site.org", .text "", .dict 0 []⟩)),
    .deal (.login .reversing (timely 1040) "ann@site.org" (.text "password two"))]

theorem documents_dated_correcting :
    ((correcting ++ updating).filterMap Turn.time?).Pairwise (· ≤ ·) ∧
      ∃ d d', (recording.run (empty 1) correcting).repository.stored = .inr [("ann@site.org", d)] ∧
        IsDated (recording.run (empty 1) correcting).done "ann@site.org" d 1704068200 1704068210 ∧
        (recording.run (empty 1) (correcting ++ updating)).repository.stored =
          .inr [("ann@site.org", d')] ∧
        IsDated (recording.run (empty 1) (correcting ++ updating)).done "ann@site.org" d'
          1704068200 1704068230 := by
  have hclock : ((correcting ++ updating).filterMap Turn.time?).Pairwise (· ≤ ·) := by decide
  obtain ⟨documents, after, hnow, hafter, -, -, hdated⟩ := documents_dated 1 hclock
  refine ⟨hclock, ?_⟩
  cases hnow
  cases hafter
  obtain ⟨created, updated, hone, -, d', updated', hd', hlater, -⟩ :=
    hdated "ann@site.org" _ List.mem_cons_self
  cases List.mem_singleton.mp hd'
  cases hone.createdAt
  cases hone.updatedAt
  cases hlater.updatedAt
  exact ⟨_, _, rfl, hone, rfl, hlater⟩

end Archive

end Accounts
