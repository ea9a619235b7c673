import Accounts.Proofs.Store.Contents
import Mathlib.Data.List.Basic

/-!
Passwords behind a veil. A veiled value shows that it is a text, but not which; users, documents and
what is handed to the driver of an archive are veiled where their passwords stand. No repository
looks behind the veil: what it answers, what it writes to the log and what it hands to the driver
are the same, up to passwords, whichever texts the passwords are.
-/
namespace Accounts

variable {M T α β : Type}

/-! ## Veils -/

namespace Value

/-- The value without its text, if it is one. -/
def veiled : Value → Value
  | .atom _ (.text _) => .text ""
  | v => v

@[simp] theorem fault?_veiled (v : Value) : v.veiled.fault? = v.fault? := by
  unfold veiled
  split <;> rfl

/-- The entries of a dictionary, veiled where a password stands. -/
def veiledEntries (entries : List (Atom × Value)) : List (Atom × Value) :=
  entries.map fun e => (e.1, if e.1 = .text "password" then e.2.veiled else e.2)

def veiledFields : Value → Value
  | .dict _ entries => .dict () (veiledEntries entries)
  | v => v

/-- What is handed to the driver: a document, a selection, or fields to be set. -/
def veiledArgument : Value → Value
  | .dict _ [(.text "$set", v)] => .dict () [(.text "$set", veiledFields v)]
  | v => veiledFields v

theorem entriesFault?_veiledEntries (entries : List (Atom × Value)) :
    Tree.entriesFault? (veiledEntries entries) = Tree.entriesFault? entries := by
  induction entries with
  | nil => rfl
  | cons e entries ih =>
    obtain ⟨k, v⟩ := e
    have hv : (if k = .text "password" then v.veiled else v).fault? = v.fault? := by
      split
      · exact fault?_veiled v
      · rfl
    simp only [veiledEntries, List.map_cons, Tree.entriesFault?, hv]
    rw [← veiledEntries, ih]

/-- A password is no reason why something cannot be encoded. -/
@[simp] theorem fault?_veiledFields (v : Value) : v.veiledFields.fault? = v.fault? := by
  cases v with
  | atom tag a => rfl
  | list tag items => rfl
  | dict tag entries => simp only [veiledFields, Tree.fault?, entriesFault?_veiledEntries]

@[simp] theorem fault?_veiledArgument (v : Value) : v.veiledArgument.fault? = v.fault? := by
  unfold veiledArgument
  split
  · simp only [Tree.fault?, Tree.entriesFault?, fault?_veiledFields]
  · exact fault?_veiledFields v

theorem itemsFault?_veiledArgument (arguments : List Value) :
    Tree.itemsFault? (arguments.map veiledArgument) = Tree.itemsFault? arguments := by
  induction arguments with
  | nil => rfl
  | cons v arguments ih => simp only [List.map_cons, Tree.itemsFault?, fault?_veiledArgument, ih]

end Value

/-- A document has the same veil when it is handed to the driver, or none is needed. -/
theorem Value.veiledFields_eq (v : Value) : v.veiledFields = v ∨ v.veiledFields = v.veiledArgument := by
  unfold veiledArgument
  split
  · exact .inl (by simp [veiledFields, veiledEntries])
  · exact .inr rfl

/-- What a driver says about arguments that it cannot encode shows no password in them. -/
def IsDiscreet (wording : List Value → EncodingFault → String) : Prop :=
  ∀ arguments f, wording (arguments.map Value.veiledArgument) f = wording arguments f

/-- It does not show the password of a document either. -/
theorem IsDiscreet.document {wording : List Value → EncodingFault → String}
    (h : IsDiscreet wording) (v : Value) (f : EncodingFault) :
    wording [v.veiledFields] f = wording [v] f := by
  rcases v.veiledFields_eq with hv | hv
  · rw [hv]
  · rw [hv]
    exact h [v] f

/-- The user with a veil over its password. -/
def User.veiled (u : User M) : User M := u.map Value.veiled id

/-- The fields of a document with a veil over the password. -/
def Document.veiled (d : Document) : Document :=
  d.mapNamed fun name v => if name = "password" then v.veiled else v

def Request.veiled (r : Request M) : Request M := r.map Value.veiled id

def Reply.veiled (r : Reply M) : Reply M := r.map Value.veiled id

def Directory.veiled (d : Directory M) : Directory M :=
  { d with entries := d.entries.mapValues User.veiled }

def Collection.veiled (c : Collection) : Collection :=
  { c with documents := c.documents.mapValues Document.veiled }

def Repository.veiled (s : Repository) : Repository :=
  { s with
    backend :=
      match s.backend with
      | .directory d => .directory d.veiled
      | .archive c => .archive c.veiled }

def DriverCall.veiled (c : DriverCall T) : DriverCall T :=
  { c with arguments := c.arguments.map Value.veiledArgument }

/-- A log entry shows as it is. -/
def Event.veiled : Event T → Event T
  | .logged e => .logged e
  | .called c => .called c.veiled

/-- The outcome with a veil over its passwords. -/
def Outcome.veiled {σ : Type} (f : α → β) (g : σ → σ) (out : Outcome T σ α) : Outcome T σ β :=
  ⟨out.result.map f, g out.state, out.events.map Event.veiled⟩

/-- Outcomes that show the same. -/
theorem Outcome.veiled_eq_cases {σ : Type} {f : α → β} {g : σ → σ} {out out' : Outcome T σ α}
    (h : out.veiled f g = out'.veiled f g) :
    g out.state = g out'.state ∧ out.events.map Event.veiled = out'.events.map Event.veiled ∧
      ((∃ a b, out.result = .ok a ∧ out'.result = .ok b ∧ f a = f b) ∨
        ∃ e, out.result = .error e ∧ out'.result = .error e) := by
  obtain ⟨result, state, events⟩ := out
  obtain ⟨result', state', events'⟩ := out'
  simp only [veiled, mk.injEq] at h
  obtain ⟨hresult, hstate, hevents⟩ := h
  refine ⟨hstate, hevents, ?_⟩
  cases result with
  | ok a =>
    cases result' with
    | ok b => exact .inl ⟨a, b, rfl, rfl, Except.ok.inj hresult⟩
    | error e => cases hresult
  | error e =>
    cases result' with
    | ok b => cases hresult
    | error e' => exact .inr ⟨e, rfl, by rw [Except.error.inj hresult]⟩

/-! ## Users -/

namespace User

@[simp] theorem email_veiled (u : User M) : u.veiled.email = u.email := rfl
@[simp] theorem password_veiled (u : User M) : u.veiled.password = u.password.veiled := rfl
@[simp] theorem metadata_veiled (u : User M) : u.veiled.metadata = u.metadata := rfl

theorem veiled_eq_iff {u v : User M} :
    u.veiled = v.veiled ↔
      u.email = v.email ∧ u.password.veiled = v.password.veiled ∧ u.metadata = v.metadata := by
  simp [veiled, map]

@[simp] theorem erase_veiled (u : User Metadata) : u.veiled.erase = u.erase.veiled := rfl

theorem copy_veiled (supply : NodeId) (u : User Metadata) :
    u.veiled.copy supply = ((u.copy supply).1.veiled, (u.copy supply).2) := rfl

theorem build_veiled (supply : NodeId) (u : User Value) :
    u.veiled.build supply = ((u.build supply).1.veiled, (u.build supply).2) := rfl

end User

namespace Request

theorem copy_veiled (supply : NodeId) (r : Request Metadata) :
    r.veiled.copy supply = ((r.copy supply).1.veiled, (r.copy supply).2) := by
  cases r <;> rfl

@[simp] theorem erase_veiled (r : Request Metadata) : r.veiled.erase = r.erase.veiled := by
  cases r <;> rfl

@[simp] theorem action_veiled (r : Request M) : r.veiled.action = r.action := by
  cases r <;> rfl

@[simp] theorem email_veiled (r : Request M) : r.veiled.email = r.email := by
  cases r <;> rfl

end Request

namespace Reply

theorem copy_veiled (supply : NodeId) (r : Reply Metadata) :
    r.veiled.copy supply = ((r.copy supply).1.veiled, (r.copy supply).2) := by
  cases r <;> rfl

theorem build_veiled (supply : NodeId) (r : Reply Value) :
    r.veiled.build supply = ((r.build supply).1.veiled, (r.build supply).2) := by
  cases r <;> rfl

end Reply

/-! ## Directories -/

namespace Directory

theorem perform_veiled (d : Directory M) (r : Request M) :
    d.veiled.perform r.veiled = ((d.perform r).1.map Reply.veiled, (d.perform r).2.veiled) := by
  have h : body d.veiled.entries r.veiled = _ := body_map Value.veiled id d.entries r
  simp only [perform, h]
  cases body d.entries r <;> rfl

theorem run_veiled [Timeline T] (d : Directory M) (o : Occasion T) (r : Request M) :
    d.veiled.run o r.veiled = (d.run o r).veiled Reply.veiled Directory.veiled := by
  have haccept : d.veiled.accept o = d.accept o := rfl
  simp only [run, haccept]
  cases d.accept o with
  | error e => rfl
  | ok _ =>
    simp only [perform_veiled]
    rfl

end Directory

/-! ## Documents -/

namespace Document

theorem get?_veiled_password (d : Document) :
    d.veiled.get? "password" = (d.get? "password").map Value.veiled :=
  Table.get?_mapNamed _ "password" d

theorem get?_veiled_other {name : String} (h : name ≠ "password") (d : Document) :
    d.veiled.get? name = d.get? name := by
  rw [veiled, Table.get?_mapNamed]
  simp [h]

theorem put_veiled (name : String) (v : Value) (d : Document) :
    veiled (d.put name v) = d.veiled.put name (if name = "password" then v.veiled else v) :=
  Table.mapNamed_put _ name v d

theorem setFields_veiled (fields d : Document) :
    Collection.setFields fields.veiled d.veiled = (Collection.setFields fields d).veiled := by
  induction fields generalizing d with
  | nil => rfl
  | cons f fields ih =>
    have hput := put_veiled f.1 f.2 d
    have hrest := ih (d.put f.1 f.2)
    rw [hput] at hrest
    exact hrest

/-- A document is veiled as a value, and a value as a document. -/
theorem record_veiled (d : Document) : Value.record d.veiled = (Value.record d).veiledFields := by
  simp [Value.record, Value.veiledFields, Value.veiledEntries, Document.veiled, Table.mapNamed]

theorem fields_veiledFields (v : Value) :
    v.veiledFields.fields = Document.veiled v.fields := by
  cases v with
  | atom tag a => rfl
  | list tag items => rfl
  | dict tag entries =>
    simp only [Value.veiledFields, Value.fields, Value.veiledEntries, Document.veiled,
      Table.mapNamed, List.filterMap_map, List.map_filterMap]
    apply List.filterMap_congr
    rintro ⟨k, w⟩ -
    cases k <;> simp

end Document

/-! ## Collections -/

namespace Collection

variable {c : Collection}

theorem enter_veiled {m : Method} {arguments arguments' : List Value}
    (h : Tree.itemsFault? arguments' = Tree.itemsFault? arguments)
    (hw : ∀ f, c.wording arguments' f = c.wording arguments f) :
    c.veiled.enter m arguments' = ((c.enter m arguments).1, (c.enter m arguments).2.veiled) := by
  have hfault : c.veiled.fault? m = c.fault? m := rfl
  have hwording : c.veiled.wording = c.wording := rfl
  simp only [enter, h, hfault, hwording, hw]
  cases Tree.itemsFault? arguments with
  | some f => rfl
  | none => cases c.fault? m <;> rfl

theorem get?_documents_veiled (c : Collection) (email : String) :
    c.veiled.documents.get? email = (c.documents.get? email).map Document.veiled :=
  Table.get?_mapValues _ email c.documents

theorem insert_veiled (hc : IsDiscreet c.wording) (email : String) (d : Document) :
    c.veiled.insert email d.veiled = ((c.insert email d).1, (c.insert email d).2.veiled) := by
  have hfault : Tree.itemsFault? [Value.record d.veiled] = Tree.itemsFault? [Value.record d] := by
    simp only [Tree.itemsFault?, Document.record_veiled, Value.fault?_veiledFields]
  have hwording : ∀ f, c.wording [.record d.veiled] f = c.wording [.record d] f := by
    rw [Document.record_veiled]
    exact hc.document (.record d)
  simp only [insert, enter_veiled hfault hwording]
  rcases c.enter .insert [.record d] with ⟨e | _, c'⟩
  · rfl
  · simp only [get?_documents_veiled]
    cases c'.documents.get? email with
    | some _ => rfl
    | none => simp only [Option.map_none, veiled, Table.mapValues_put]

theorem setting_veiled (fields : Document) :
    setting fields.veiled = (setting fields).veiledArgument := by
  rw [setting, Document.record_veiled]
  rfl

theorem update_veiled (hc : IsDiscreet c.wording) (email : String) (fields : Document) :
    c.veiled.update email fields.veiled =
      ((c.update email fields).1, (c.update email fields).2.veiled) := by
  have hfault : Tree.itemsFault? [query email, setting fields.veiled] =
      Tree.itemsFault? [query email, setting fields] := by
    rw [setting_veiled]
    exact Value.itemsFault?_veiledArgument [query email, setting fields]
  have hwording : ∀ f, c.wording [query email, setting fields.veiled] f =
      c.wording [query email, setting fields] f := by
    rw [setting_veiled]
    exact hc [query email, setting fields]
  simp only [update, enter_veiled hfault hwording]
  rcases c.enter .update [query email, setting fields] with ⟨e | _, c'⟩
  · rfl
  · simp only [get?_documents_veiled]
    cases c'.documents.get? email with
    | none => rfl
    | some d =>
      simp only [Option.map_some, veiled, Table.mapValues_put, Document.setFields_veiled]

theorem find_veiled (c : Collection) (email : String) :
    c.veiled.find email =
      ((c.find email).1.map (Option.map Document.veiled), (c.find email).2.veiled) := by
  simp only [find, enter_veiled rfl fun _ => rfl]
  rcases c.enter .find [query email] with ⟨e | _, c'⟩
  · rfl
  · simp only [get?_documents_veiled]
    rfl

end Collection

/-! ## Archives -/

namespace Archive

theorem document_veiled (u : User Value) (time : Int) :
    document u.veiled time = (document u time).veiled := by
  simp [document, Document.veiled, Table.mapNamed]

theorem user_veiled (email : String) (d : Document) :
    user email d.veiled = (user email d).veiled := by
  simp only [user, Document.get?_veiled_password,
    Document.get?_veiled_other (show "metadata" ≠ "password" by decide)]
  cases d.get? "password" <;> rfl

theorem setting_metadata_veiled (m : Value) (time : Int) :
    Document.veiled [("metadata", m), ("updated_at", .instant time)] =
      [("metadata", m), ("updated_at", .instant time)] := by
  simp [Document.veiled, Table.mapNamed]

theorem setting_password_veiled (p : Value) (time : Int) :
    Document.veiled [("password", p), ("updated_at", .instant time)] =
      [("password", p.veiled), ("updated_at", .instant time)] := by
  simp [Document.veiled, Table.mapNamed]

theorem call_veiled (r : Request Value) (time : Int) (timeout : Option T) :
    call r.veiled time timeout = (call r time timeout).veiled := by
  cases r with
  | save u =>
    have hrecord := Document.record_veiled (document u time)
    rw [← document_veiled] at hrecord
    simp only [Request.veiled, Request.map, call, DriverCall.veiled]
    exact congrArg (fun v => DriverCall.mk .insert [v] timeout) hrecord
  | updateUser u =>
    have hsetting := Collection.setting_veiled
      [("metadata", u.metadata), ("updated_at", .instant time)]
    rw [setting_metadata_veiled] at hsetting
    exact congrArg (fun v => DriverCall.mk .update [Collection.query u.email, v] timeout) hsetting
  | updatePassword email password =>
    have hsetting := Collection.setting_veiled
      [("password", password), ("updated_at", .instant time)]
    rw [setting_password_veiled] at hsetting
    exact congrArg (fun v => DriverCall.mk .update [Collection.query email, v] timeout) hsetting
  | retrieve email => rfl

variable {c : Collection}

theorem execute_veiled (hc : IsDiscreet c.wording) (r : Request Value) (time : Int) :
    execute c.veiled r.veiled time =
      ((execute c r time).1.map Reply.veiled, (execute c r time).2.veiled) := by
  cases r with
  | save u =>
    have hinsert := Collection.insert_veiled hc u.email (document u time)
    rw [← document_veiled] at hinsert
    change execute c.veiled (.save u.veiled) time = _
    simp only [execute, User.email_veiled, hinsert]
    cases (c.insert u.email (document u time)).1 <;> rfl
  | updateUser u =>
    have hupdate := Collection.update_veiled hc u.email
      [("metadata", u.metadata), ("updated_at", .instant time)]
    rw [setting_metadata_veiled] at hupdate
    change execute c.veiled (.updateUser u.veiled) time = _
    simp only [execute, User.email_veiled, User.metadata_veiled, hupdate]
    rcases (c.update u.email _).1 with e | ⟨_ | _⟩ <;> rfl
  | updatePassword email password =>
    have hupdate := Collection.update_veiled hc email
      [("password", password), ("updated_at", .instant time)]
    rw [setting_password_veiled] at hupdate
    change execute c.veiled (.updatePassword email password.veiled) time = _
    simp only [execute, hupdate]
    rcases (c.update email _).1 with e | ⟨_ | _⟩ <;> rfl
  | retrieve email =>
    change execute c.veiled (.retrieve email) time = _
    simp only [execute, Collection.find_veiled]
    rcases (c.find email).1 with e | ⟨_ | d⟩
    · rfl
    · rfl
    · simp only [Except.map, Option.map_some, user_veiled]
      rfl

theorem logged_veiled (e : Option Log.Entry) :
    (logged e : List (Event T)).map Event.veiled = logged e := by
  cases e <;> rfl

@[simp] theorem wording_execute (c : Collection) (r : Request Value) (time : Int) :
    (execute c r time).2.wording = c.wording := by
  have left : Option Unit := none
  rcases enter_cases c (call r time left).method (call r time left).arguments with
    h | ⟨cause, c', h, -, hw⟩
  · have hx := execute_of_entered left h
    cases hb : Directory.body (contents c.documents) r.readBack with
    | ok p =>
      rw [hb] at hx
      obtain ⟨documents, he, -⟩ := hx
      rw [he]
    | error f =>
      rw [hb] at hx
      obtain ⟨e, he, -⟩ := hx
      rw [he]
  · rw [execute_of_refused left h, hw]

theorem stop_veiled (c : Collection) (r : Request Value) (events : List (Event T))
    (e : Failure ⊕ Cause) :
    stop c.veiled r.veiled (events.map Event.veiled) e =
      (stop c r events e).veiled Reply.veiled Collection.veiled := by
  cases e with
  | inl f => rfl
  | inr cause =>
    simp only [stop, Request.action_veiled, Request.email_veiled, Outcome.veiled, List.map_append,
      logged_veiled]
    rfl

theorem perform_veiled (hc : IsDiscreet c.wording) (r : Request Value) (time : Int)
    (timeout : Option T) :
    perform c.veiled r.veiled time timeout =
      (perform c r time timeout).veiled Reply.veiled Collection.veiled := by
  simp only [perform, call_veiled, execute_veiled hc, Request.action_veiled, Request.email_veiled]
  rcases execute c r time with ⟨e | reply, c'⟩
  · exact stop_veiled c' r [.called (call r time timeout)] e
  · simp only [Except.map, Outcome.veiled, List.map_cons, logged_veiled]
    rfl

variable [Timeline T]

/-- The driver keeps its words. -/
@[simp] theorem wording_run (c : Collection) (o : Occasion T) (r : Request Value) :
    (run c o r).state.wording = c.wording := by
  rcases run_cases c o r with ⟨e, h⟩ | ⟨time, left, -, -, h⟩
  · rw [h, state_stop]
  · rw [h, state_perform, wording_execute]

theorem prepare_veiled (o : Occasion T) (r : Request Value) :
    prepare o r.veiled = prepare o r := by
  cases r <;> rfl

theorem run_veiled (hc : IsDiscreet c.wording) (o : Occasion T) (r : Request Value) :
    run c.veiled o r.veiled = (run c o r).veiled Reply.veiled Collection.veiled := by
  simp only [run, prepare_veiled]
  cases prepare o r with
  | error e => exact stop_veiled c r [] e
  | ok p => exact perform_veiled hc r p.1 p.2

end Archive

/-! ## Repositories -/

namespace Repository

variable [Timeline T]

/-- What the driver of an archive says about arguments that it cannot encode. -/
def wording? (s : Repository) : Option (List Value → EncodingFault → String) :=
  match s.backend with
  | .directory _ => none
  | .archive c => some c.wording

/-- The driver, if there is one, shows no password. -/
def IsDiscreet (s : Repository) : Prop := ∀ wording ∈ s.wording?, Accounts.IsDiscreet wording

theorem wording?_of_backend {s t : Repository} (h : s.backend = t.backend) :
    s.wording? = t.wording? := by
  unfold wording?
  rw [h]

theorem wording?_mapMetadata (f : Metadata → Metadata) (s : Repository) :
    (s.mapMetadata f).wording? = s.wording? := by
  obtain ⟨backend, supply⟩ := s
  cases backend <;> rfl

theorem wording?_failWith (message : Option String) (s : Repository) :
    (s.failWith message).wording? = s.wording? := by
  obtain ⟨backend, supply⟩ := s
  cases backend <;> rfl

theorem wording?_arm (m : Method) (e : StorageError) (s : Repository) :
    (s.arm m e).wording? = s.wording? := by
  obtain ⟨backend, supply⟩ := s
  cases backend <;> rfl

@[simp] theorem wording?_veiled (s : Repository) : s.veiled.wording? = s.wording? := by
  obtain ⟨backend, supply⟩ := s
  cases backend <;> rfl

/-- Repositories that show the same have drivers with the same words. -/
theorem IsDiscreet.of_veiled_eq {s t : Repository} (hs : s.IsDiscreet) (h : s.veiled = t.veiled) :
    t.IsDiscreet := by
  rw [IsDiscreet, ← wording?_veiled, ← h, wording?_veiled]
  exact hs

/-- The words of the driver stay the same. -/
@[simp] theorem wording?_run (s : Repository) (o : Occasion T) (r : Request Metadata) :
    (s.run o r).state.wording? = s.wording? := by
  obtain ⟨backend, supply⟩ := s
  cases backend with
  | directory d =>
    obtain ⟨-, d', hd, -⟩ := runDirectory_eq d supply o r
    simp only [run, wording?, hd]
  | archive c =>
    simp only [run, wording?, (runArchive_eq c supply o r).2, Archive.wording_run]

theorem IsDiscreet.run {s : Repository} (hs : s.IsDiscreet) (o : Occasion T)
    (r : Request Metadata) : (s.run o r).state.IsDiscreet := by
  rw [IsDiscreet, wording?_run]
  exact hs

/-- A repository does not look at passwords. -/
theorem run_veiled {s : Repository} (hs : s.IsDiscreet) (o : Occasion T) (r : Request Metadata) :
    s.veiled.run o r.veiled = (s.run o r).veiled Reply.veiled Repository.veiled := by
  obtain ⟨backend, supply⟩ := s
  cases backend with
  | directory d =>
    change runDirectory d.veiled supply o r.veiled = (runDirectory d supply o r).veiled _ _
    simp only [runDirectory, Request.copy_veiled, Directory.run_veiled]
    obtain ⟨result, state, events⟩ := d.run o (r.copy supply).1
    cases result with
    | error e => rfl
    | ok reply =>
      simp only [Outcome.veiled, Except.map, Reply.copy_veiled]
      rfl
  | archive c =>
    change runArchive c.veiled supply o r.veiled = (runArchive c supply o r).veiled _ _
    simp only [runArchive, Request.erase_veiled, Archive.run_veiled (hs c.wording rfl)]
    obtain ⟨result, state, events⟩ := Archive.run c o r.erase
    cases result with
    | error e => rfl
    | ok reply =>
      simp only [Outcome.veiled, Except.map, Reply.build_veiled]
      rfl

end Repository

end Accounts
