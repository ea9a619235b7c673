import Accounts.Proofs.Store.Contents

/-!
What requests do to the documents of an archive. One that succeeds adds a document whose two dates
are the time of the call, or sets fields of a document that is there, the later date among them, or
looks a document up. No document loses a field or gets one that it did not have.
-/
namespace Accounts

variable {α T : Type}

namespace Table

variable {t : Table α}

theorem exists_get?_of_mem_names {name : String} (h : name ∈ t.names) :
    ∃ value, t.get? name = some value := by
  induction t with
  | nil => cases h
  | cons e rest ih =>
    obtain ⟨n, value⟩ := e
    by_cases hn : n = name
    · exact ⟨value, if_pos hn⟩
    · rw [get?, if_neg hn]
      rcases List.mem_cons.mp h with hname | hrest
      · exact absurd hname.symm hn
      · exact ih hrest

/-- Putting in a name that is there leaves the names as they are. -/
theorem names_put_of_mem {name : String} (h : name ∈ t.names) (value : α) :
    (t.put name value).names = t.names := by
  obtain ⟨old, hold⟩ := exists_get?_of_mem_names h
  obtain ⟨before, later, ht, hput⟩ := put_of_get?_some hold value
  rw [hput, ht]
  simp [names]

end Table

namespace Collection

/-- Setting other fields leaves a field as it is. -/
theorem get?_setFields_other {name : String} {fields : Document}
    (h : ∀ f ∈ fields, name ≠ f.1) (d : Document) :
    (setFields fields d).get? name = d.get? name := by
  induction fields generalizing d with
  | nil => rfl
  | cons f fields ih =>
    have hrest : (setFields fields (d.put f.1 f.2)).get? name = (d.put f.1 f.2).get? name :=
      ih (fun g hg => h g (List.mem_cons_of_mem f hg)) _
    exact hrest.trans (Table.get?_put_other (h f List.mem_cons_self) f.2 d)

/-- Setting fields that are there leaves the names as they are. -/
theorem names_setFields {fields d : Document} (h : ∀ f ∈ fields, f.1 ∈ d.names) :
    (setFields fields d).names = d.names := by
  induction fields generalizing d with
  | nil => rfl
  | cons f fields ih =>
    have hfirst : (d.put f.1 f.2).names = d.names :=
      Table.names_put_of_mem (h f List.mem_cons_self) f.2
    have hrest : ∀ g ∈ fields, g.1 ∈ (d.put f.1 f.2).names := fun g hg =>
      hfirst ▸ h g (List.mem_cons_of_mem f hg)
    exact (ih hrest).trans hfirst

end Collection

namespace Request

def method : Request Value → Method
  | .save _ => .insert
  | .updateUser _ | .updatePassword .. => .update
  | .retrieve _ => .find

/-- What an update sets. -/
def fields (time : Int) : Request Value → Document
  | .updateUser u => [("metadata", u.metadata), ("updated_at", .instant time)]
  | .updatePassword _ password => [("password", password), ("updated_at", .instant time)]
  | .save _ | .retrieve _ => []

/-- What a request that succeeds at a time does to the documents. -/
inductive Puts (time : Int) : Request Value → Table Document → Table Document → Prop where
  | opened {u : User Value} {documents : Table Document}
    (hnew : documents.get? u.email = none) :
    Puts time (.save u) documents (documents.put u.email (Archive.document u time))
  | changed {r : Request Value} {d : Document} {documents : Table Document}
    (hr : r.method = .update) (hold : documents.get? r.email = some d) :
    Puts time r documents (documents.put r.email (Collection.setFields (r.fields time) d))
  | retrieved (email : String) (documents : Table Document) :
    Puts time (.retrieve email) documents documents

/-- An update sets the later date, and no other fields than the password and the metadata. -/
theorem get?_updatedAt_setFields {r : Request Value} (hr : r.method = .update) (time : Int)
    (d : Document) :
    (Collection.setFields (r.fields time) d).get? "updated_at" = some (.instant time) := by
  cases r with
  | updateUser u | updatePassword email password => exact Table.get?_put_same _ _ _
  | save u | retrieve email => cases hr

theorem mem_names_fields {r : Request Value} {time : Int} :
    ∀ f ∈ r.fields time, f.1 ∈ ["password", "metadata", "updated_at"] := by
  cases r with
  | updateUser u | updatePassword email password => simp [fields]
  | save u | retrieve email => simp [fields]

end Request

namespace Archive

/-- A call that is answered has done to the documents what its request is for. -/
theorem puts_of_execute {c : Collection} {r : Request Value} {time : Int} {reply : Reply Value}
    (hx : (execute c r time).1 = .ok reply) :
    r.Puts time c.documents (execute c r time).2.documents := by
  have left : Option Unit := none
  rcases enter_cases c (call r time left).method (call r time left).arguments with
    h | ⟨cause, c', h, -⟩
  · cases r with
    | save u =>
      simp only [call] at h
      simp only [execute, Collection.insert, h] at hx ⊢
      cases hg : c.documents.get? u.email with
      | some d =>
        rw [hg] at hx
        cases hx
      | none => exact .opened hg
    | updateUser u =>
      simp only [call] at h
      simp only [execute, Collection.update, h] at hx ⊢
      cases hg : c.documents.get? u.email with
      | none =>
        rw [hg] at hx
        cases hx
      | some d => exact .changed (r := .updateUser u) rfl hg
    | updatePassword email password =>
      simp only [call] at h
      simp only [execute, Collection.update, h] at hx ⊢
      cases hg : c.documents.get? email with
      | none =>
        rw [hg] at hx
        cases hx
      | some d => exact .changed (r := .updatePassword email password) rfl hg
    | retrieve email =>
      simp only [call] at h
      simp only [execute, Collection.find, h]
      exact .retrieved email _
  · rw [execute_of_refused left h] at hx
    cases hx

variable {c : Collection} {r : Request Value} {reply : Reply Value}

theorem puts_of_perform {time : Int} {left : Option T}
    (h : (perform c r time left).result = .ok reply) :
    r.Puts time c.documents (perform c r time left).state.documents := by
  rw [result_perform] at h
  rw [state_perform]
  cases hx : (execute c r time).1 with
  | ok reply => exact puts_of_execute hx
  | error e =>
    rw [hx] at h
    cases h

/-- A request that succeeds does what it is for, at the wall time if it writes. -/
theorem puts_of_run [Timeline T] {o : Occasion T} (h : (run c o r).result = .ok reply) :
    ∃ time, (r.action ≠ .retrieve → o.wallTime = .ok time) ∧
      r.Puts time c.documents (run c o r).state.documents := by
  rcases run_cases c o r with ⟨e, hr⟩ | ⟨time, left, -, hw, hr⟩
  · rw [hr, result_stop] at h
    cases h
  · rw [hr] at h ⊢
    exact ⟨time, hw, puts_of_perform h⟩

end Archive

end Accounts
