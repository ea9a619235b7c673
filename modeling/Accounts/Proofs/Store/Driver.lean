import Accounts.Proofs.Store.Mirror

/-!
Calls of the driver. What an operation has called is read off the events that it leaves behind, and
what the driver reports about a call is said from the call alone. An archive makes one call for a
request whose context allows work. What the driver reports becomes a failure that callers can branch
on, with the report as its cause; only a lookup hands on the error for a query that is too large.
-/
namespace Accounts

variable {T σ α : Type}

/-! ## Calls and reports -/

/-- The calls of the driver that an operation has made. -/
def Outcome.calls (out : Outcome T σ α) : List (DriverCall T) :=
  out.events.filterMap fun
    | .called d => some d
    | .logged _ => none

/-- The address that a call is about: the key of its first argument. -/
def DriverCall.address? (d : DriverCall T) : Option String :=
  match d.arguments with
  | first :: _ => (Table.get? "_id" first.fields).bind Value.text?
  | [] => none

namespace Collection

/-- The report about inserting a document under an address that is taken. -/
def taken? (c : Collection) (d : DriverCall T) : Option Cause :=
  match d.method, d.address? with
  | .insert, some email => (c.documents.get? email).map fun _ => .storage StorageError.takenKey
  | _, _ => none

/-- What the driver reports about a call that it refuses. Its arguments cannot be encoded, or an
error is in store for its method, or it inserts a document under an address that is taken. -/
def report? (c : Collection) (d : DriverCall T) : Option Cause :=
  match Tree.itemsFault? d.arguments with
  | some f => some (.encoding f (c.wording d.arguments f))
  | none =>
    match c.fault? d.method with
    | some e => some (.storage e)
    | none => c.taken? d

theorem report?_of_refused {c c' : Collection} {d : DriverCall T} {cause : Cause}
    (h : c.enter d.method d.arguments = (.error cause, c')) : c.report? d = some cause := by
  unfold enter at h
  unfold report?
  cases hf : Tree.itemsFault? d.arguments with
  | some f =>
    rw [hf] at h
    cases h
    rfl
  | none =>
    simp only [hf] at h
    cases he : c.fault? d.method with
    | some e =>
      rw [he] at h
      cases h
      rfl
    | none =>
      rw [he] at h
      cases h

theorem report?_of_entered {c : Collection} {d : DriverCall T}
    (h : c.enter d.method d.arguments = (.ok (), c)) : c.report? d = c.taken? d := by
  unfold enter at h
  unfold report?
  cases hf : Tree.itemsFault? d.arguments with
  | some f =>
    rw [hf] at h
    cases h
  | none =>
    simp only [hf] at h
    cases he : c.fault? d.method with
    | some e =>
      rw [he] at h
      cases h
    | none => rfl

end Collection

namespace Archive

/-- Every call is about the address of its request. -/
@[simp] theorem address?_call (r : Request Value) (time : Int) (left : Option T) :
    (call r time left).address? = some r.email := by
  cases r <;> rfl

@[simp] theorem timeout_call (r : Request Value) (time : Int) (left : Option T) :
    (call r time left).timeout = left := by
  cases r <;> rfl

/-- A request makes one call. -/
@[simp] theorem calls_perform (c : Collection) (r : Request Value) (time : Int) (left : Option T) :
    (perform c r time left).calls = [call r time left] := by
  have hlog : ∀ e : Option Log.Entry, (logged e : List (Event T)).filterMap
      (fun | .called d => some d | .logged _ => none) = [] := by
    intro e
    cases e <;> rfl
  unfold perform Outcome.calls
  split
  · simp [hlog]
  · next e c' h => cases e <;> simp [stop, hlog]

theorem taken?_save (c : Collection) (u : User Value) (time : Int) (left : Option T) :
    c.taken? (call (.save u) time left) =
      (c.documents.get? u.email).map fun _ => .storage StorageError.takenKey := rfl

/-- A call comes to what the driver reports about it. Without a report it is answered, or there is
no document. -/
theorem execute_cases (c : Collection) (r : Request Value) (time : Int) (left : Option T) :
    (∃ cause, c.report? (call r time left) = some cause ∧
        (execute c r time).1 = .error (.inr cause)) ∨
      c.report? (call r time left) = none ∧
        ((∃ reply, (execute c r time).1 = .ok reply) ∨
          (execute c r time).1 = .error (.inl (.unknown r.email))) := by
  rcases enter_cases c (call r time left).method (call r time left).arguments with
    h | ⟨cause, c', h, -⟩
  · rw [Collection.report?_of_entered h]
    cases r with
    | save u =>
      rw [taken?_save]
      simp only [call] at h
      cases hd : c.documents.get? u.email with
      | some d =>
        refine .inl ⟨_, rfl, ?_⟩
        simp [execute, Collection.insert, h, hd]
      | none =>
        refine .inr ⟨rfl, .inl ⟨.done, ?_⟩⟩
        simp [execute, Collection.insert, h, hd]
    | updateUser u =>
      simp only [call] at h
      refine .inr ⟨rfl, ?_⟩
      cases hd : c.documents.get? u.email <;>
        simp [execute, Collection.update, matched, h, hd, Request.email]
    | updatePassword email password =>
      simp only [call] at h
      refine .inr ⟨rfl, ?_⟩
      cases hd : c.documents.get? email <;>
        simp [execute, Collection.update, matched, h, hd, Request.email]
    | retrieve email =>
      simp only [call] at h
      refine .inr ⟨rfl, ?_⟩
      cases hd : c.documents.get? email <;>
        simp [execute, Collection.find, h, hd, Request.email]
  · exact .inl ⟨cause, Collection.report?_of_refused h, by rw [execute_of_refused left h]⟩

end Archive

/-! ## Translation of failures -/

/-- The class is one that a store may show: not found, a conflict, internal, or special cases. -/
def FailureClass.IsOfStore (k : FailureClass) : Prop :=
  .notFound ∈ k.lineage ∨ .conflict ∈ k.lineage ∨ .internal ∈ k.lineage

instance (k : FailureClass) : Decidable k.IsOfStore := inferInstanceAs (Decidable (_ ∨ _ ∨ _))

/-- A result that shows nothing of the driver itself. It is an answer, about which the driver has
reported nothing, or a failure that a store may show, raised from what the driver has reported. -/
def Translated (report : Option Cause) : Except Failure α → Prop
  | .ok _ => report = none
  | .error f => f.cause? = report ∧ ∃ k, f.family? = some k ∧ k.IsOfStore

namespace Archive

/-- The query of a lookup is too large for the driver. -/
def IsTooLarge (action : Action) (cause : Cause) : Prop :=
  action = .retrieve ∧ ∃ e, cause = .storage e ∧ e.kind = .tooLarge

/-- Any other report is translated. -/
theorem failureOf_translated {action : Action} {cause : Cause} (email : String)
    (h : ¬IsTooLarge action cause) :
    Translated (some cause) (.error (failureOf action email cause).1 : Except Failure α) := by
  cases cause with
  | encoding _ _ | overflow _ => exact ⟨rfl, .internal, rfl, by decide⟩
  | storage e =>
    simp only [failureOf]
    by_cases hk : action = .save ∧ e.kind = .duplicateKey
    · rw [if_pos hk]
      exact ⟨rfl, .conflict, rfl, by decide⟩
    · rw [if_neg hk]
      by_cases hl : e.kind = .tooLarge
      · have hr : action ≠ .retrieve := fun hr => h ⟨hr, e, rfl, hl⟩
        rw [if_pos hl, if_neg hr]
        exact ⟨rfl, .internal, rfl, by decide⟩
      · rw [if_neg hl]
        by_cases ht : e.isTimeout = true
        · rw [if_pos ht]
          exact ⟨rfl, .deadlineExceeded, rfl, by decide⟩
        · rw [if_neg ht]
          exact ⟨rfl, .internal, rfl, by decide⟩

/-- A query that is too large leads to a failure outside the family. -/
theorem failureOf_tooLarge {action : Action} {cause : Cause} (email : String)
    (h : IsTooLarge action cause) : (failureOf action email cause).1.family? = none := by
  obtain ⟨rfl, e, rfl, hl⟩ := h
  simp [failureOf, hl, Failure.family?]

/-- What a call comes to is translated unless its query is too large. -/
theorem perform_translated_iff (c : Collection) (r : Request Value) (time : Int)
    (left : Option T) :
    Translated (c.report? (call r time left)) (perform c r time left).result ↔
      ¬∃ cause, c.report? (call r time left) = some cause ∧ IsTooLarge r.action cause := by
  rw [result_perform]
  rcases execute_cases c r time left with ⟨cause, hr, h⟩ | ⟨hr, h⟩
  · rw [hr, h]
    constructor
    · rintro ⟨-, k, hk, -⟩ ⟨cause', hcause, hlarge⟩
      cases hcause
      have hnone : (shown r (.inr cause)).family? = none := failureOf_tooLarge r.email hlarge
      rw [hnone] at hk
      cases hk
    · intro hno
      exact failureOf_translated r.email fun hlarge => hno ⟨cause, rfl, hlarge⟩
  · rw [hr]
    refine iff_of_true ?_ (fun ⟨_, hcause, _⟩ => by cases hcause)
    rcases h with ⟨reply, h⟩ | h
    · rw [h]
      rfl
    · rw [h]
      exact ⟨rfl, .notFound, rfl, by decide⟩

/-- All that the driver can report about a lookup is the error in store for it. -/
theorem report?_retrieve (c : Collection) (email : String) (time : Int) (left : Option T) :
    c.report? (call (.retrieve email) time left) = (c.fault? .find).map .storage := by
  have hf : Tree.itemsFault? (call (.retrieve email) time left).arguments = none :=
    itemsFault?_call (r := .retrieve email) trivial time left
  have hm : (call (.retrieve email) time left).method = .find := rfl
  unfold Collection.report?
  rw [hf, hm]
  cases c.fault? .find <;> rfl

/-- A query is too large when that error is in store for a lookup. -/
theorem tooLarge_reported_iff (c : Collection) (r : Request Value) (time : Int)
    (left : Option T) :
    (∃ cause, c.report? (call r time left) = some cause ∧ IsTooLarge r.action cause) ↔
      r.action = .retrieve ∧ ∃ e, c.fault? .find = some e ∧ e.kind = .tooLarge := by
  cases r with
  | retrieve email =>
    rw [report?_retrieve]
    constructor
    · rintro ⟨cause, hcause, -, e, rfl, hl⟩
      obtain ⟨e', he, heq⟩ := Option.map_eq_some_iff.mp hcause
      cases heq
      exact ⟨rfl, e, he, hl⟩
    · rintro ⟨-, e, he, hl⟩
      exact ⟨.storage e, by rw [he]; rfl, rfl, e, rfl, hl⟩
  | save u =>
    exact iff_of_false (fun ⟨_, _, h, _⟩ => by cases h) (fun ⟨h, _⟩ => by cases h)
  | updateUser u =>
    exact iff_of_false (fun ⟨_, _, h, _⟩ => by cases h) (fun ⟨h, _⟩ => by cases h)
  | updatePassword email password =>
    exact iff_of_false (fun ⟨_, _, h, _⟩ => by cases h) (fun ⟨h, _⟩ => by cases h)

variable [Timeline T]

/-- On a date, and unless the time left cannot be told, every request to an archive is answered or
fails with a failure that a store may show, raised from what the driver reports about the call that
was made. There is one exception: a lookup whose context allows work, while the error for too large
a document is in store for it. -/
theorem run_translated_iff {c : Collection} {o : Occasion T} {time : Int}
    (hw : o.wallTime = .ok time) (hc : o.check ≠ .error (.context .overflow))
    (r : Request Value) :
    Translated ((run c o r).calls.findSome? c.report?) (run c o r).result ↔
      ¬(r.action = .retrieve ∧ (∃ left, o.check = .ok left) ∧
        ∃ e, c.fault? .find = some e ∧ e.kind = .tooLarge) := by
  rcases o.check_cases hc with ⟨left, ho⟩ | ho | ho
  · have hreport : (perform c r time left).calls.findSome? c.report? =
        c.report? (call r time left) := by
      rw [calls_perform, List.findSome?_singleton]
    rw [run_dated hw, ho, hreport, perform_translated_iff, tooLarge_reported_iff]
    refine not_congr ?_
    constructor
    · rintro ⟨hr, e, he, hl⟩
      exact ⟨hr, ⟨left, rfl⟩, e, he, hl⟩
    · rintro ⟨hr, -, e, he, hl⟩
      exact ⟨hr, e, he, hl⟩
  · rw [run_of_refused hw ho rfl, ho]
    exact iff_of_true ⟨rfl, .cancelled, rfl, by decide⟩
      (fun ⟨_, ⟨left, hleft⟩, _⟩ => by cases hleft)
  · rw [run_of_refused hw ho rfl, ho]
    exact iff_of_true ⟨rfl, .deadlineExceeded, rfl, by decide⟩
      (fun ⟨_, ⟨left, hleft⟩, _⟩ => by cases hleft)

/-- The next update runs into a time limit of the server. -/
def limited : Collection := { armed := [(.update, ⟨.command "WriteError", "limit", some 50⟩)] }

/-- The archive shows it as an exceeded deadline with the error of the driver behind it. -/
theorem run_translated_iff_limited :
    Occasion.anytime.wallTime = .ok 1704068200 ∧
      Occasion.anytime.check ≠ .error (.context .overflow) ∧
      Translated (some (.storage ⟨.command "WriteError", "limit", some 50⟩))
        (run limited .anytime (.updatePassword "ann@site.org" (.text "password"))).result := by
  have hw : Occasion.anytime.wallTime = .ok 1704068200 := rfl
  have hc : Occasion.anytime.check ≠ .error (.context .overflow) := by
    have ho : Occasion.anytime.check = .ok none := rfl
    rw [ho]
    exact fun h => by cases h
  refine ⟨hw, hc, ?_⟩
  apply (run_translated_iff (c := limited) hw hc
    (.updatePassword "ann@site.org" (.text "password"))).mpr
  rintro ⟨h, -⟩
  cases h

/-- The error for too large a document is in store for the next lookup. -/
def oversized : Collection := { armed := [(.find, ⟨.tooLarge, "too large", none⟩)] }

/-- It comes out of the lookup as it is. -/
theorem run_untranslated_oversized :
    (run oversized .anytime (.retrieve "ann@site.org")).result =
        .error (.driver ⟨.tooLarge, "too large", none⟩) ∧
      ¬Translated (some (.storage ⟨.tooLarge, "too large", none⟩))
        (run oversized .anytime (.retrieve "ann@site.org")).result := by
  refine ⟨rfl, ?_⟩
  rintro ⟨-, k, hk, -⟩
  cases hk

end Archive

end Accounts
