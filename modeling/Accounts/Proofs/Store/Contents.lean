import Accounts.Store.Repository

/-!
What a repository keeps, read as a table of users without nodes, and what a request does to it. A
directory and an archive keep users in different forms. On the table both do what the body of a
request does to the entries of a directory, and a request that fails leaves the table as it is.
-/
namespace Accounts

variable {M N T : Type}

/-- What a request comes to. One that succeeds does what its body says, one that fails nothing. -/
def Effect (before : Table (User M)) (r : Request M) :
    Except Failure (Reply M) → Table (User M) → Prop
  | .ok reply, after => Directory.body before r = .ok (reply, after)
  | .error _, after => after = before

/-! ## Directories -/

namespace User

/-- The user with another password and other metadata. -/
def map (f : Value → Value) (g : M → N) (u : User M) : User N :=
  ⟨u.email, f u.password, g u.metadata⟩

@[simp] theorem email_map (f : Value → Value) (g : M → N) (u : User M) :
    (u.map f g).email = u.email := rfl

end User

def Request.map (f : Value → Value) (g : M → N) : Request M → Request N
  | .save u => .save (u.map f g)
  | .updateUser u => .updateUser (u.map f g)
  | .updatePassword email password => .updatePassword email (f password)
  | .retrieve email => .retrieve email

def Reply.map (f : Value → Value) (g : M → N) : Reply M → Reply N
  | .done => .done
  | .user u => .user (u.map f g)

namespace Request

/-- Forgetting the nodes changes the metadata only. -/
theorem map_erase (r : Request Metadata) : r.map id Tree.erase = r.erase := by
  cases r <;> rfl

@[simp] theorem erase_copy (supply : NodeId) (r : Request Metadata) :
    (r.copy supply).1.erase = r.erase := by
  cases r <;> simp [copy, erase]

end Request

namespace Reply

/-- Forgetting the nodes changes the metadata only. -/
theorem map_erase (r : Reply Metadata) : r.map id Tree.erase = r.erase := by
  cases r <;> rfl

@[simp] theorem erase_copy (supply : NodeId) (r : Reply Metadata) :
    (r.copy supply).1.erase = r.erase := by
  cases r <;> simp [copy, erase]

end Reply

namespace Directory

def erase (d : Directory Metadata) : Directory Value :=
  { entries := d.entries.mapValues User.erase, failWith := d.failWith }

/-- The body of a request commutes with a change of every password and all metadata. -/
theorem body_map (f : Value → Value) (g : M → N) (entries : Table (User M)) (r : Request M) :
    body (entries.mapValues (User.map f g)) (r.map f g) =
      (body entries r).map fun p => (p.1.map f g, p.2.mapValues (User.map f g)) := by
  cases r with
  | save u =>
    simp only [Request.map, body, User.email_map, Table.get?_mapValues]
    cases entries.get? u.email with
    | some v => rfl
    | none =>
      simp only [Option.map_none, Except.map]
      rw [Table.mapValues_put]
      rfl
  | updateUser u =>
    simp only [Request.map, body, modify, User.email_map, Table.get?_mapValues]
    cases entries.get? u.email with
    | none => rfl
    | some v =>
      simp only [Option.map_some, Except.map]
      rw [Table.mapValues_put]
      rfl
  | updatePassword email password =>
    simp only [Request.map, body, modify, Table.get?_mapValues]
    cases entries.get? email with
    | none => rfl
    | some v =>
      simp only [Option.map_some, Except.map]
      rw [Table.mapValues_put]
      rfl
  | retrieve email =>
    simp only [Request.map, body, Table.get?_mapValues]
    cases entries.get? email <;> rfl

/-- The body of a request commutes with forgetting the nodes. -/
theorem body_erase (entries : Table (User Metadata)) (r : Request Metadata) :
    body (entries.mapValues User.erase) r.erase =
      (body entries r).map fun p => (p.1.erase, p.2.mapValues User.erase) := by
  have h := body_map id Tree.erase entries r
  rw [r.map_erase, funext Reply.map_erase] at h
  exact h

@[simp] theorem accept_erase [Timeline T] (d : Directory Metadata) (o : Occasion T) :
    d.erase.accept o = d.accept o := rfl

/-- A whole request commutes with forgetting the nodes. -/
theorem run_erase [Timeline T] (d : Directory Metadata) (o : Occasion T) (r : Request Metadata) :
    (d.erase.run o r.erase).result = (d.run o r).result.map Reply.erase ∧
      (d.erase.run o r.erase).state = (d.run o r).state.erase := by
  simp only [run, accept_erase]
  cases d.accept o with
  | error e => exact ⟨rfl, rfl⟩
  | ok _ =>
    have h : body d.erase.entries r.erase = _ := body_erase d.entries r
    simp only [perform]
    rw [h]
    cases body d.entries r <;> exact ⟨rfl, rfl⟩

/-- A request has the effect of its body or none. -/
theorem run_effect [Timeline T] (d : Directory M) (o : Occasion T) (r : Request M) :
    Effect d.entries r (d.run o r).result (d.run o r).state.entries := by
  simp only [run]
  cases d.accept o with
  | error e => rfl
  | ok _ =>
    simp only [perform]
    cases h : body d.entries r with
    | error e => rfl
    | ok p => exact h

end Directory

/-! ## Archives -/

namespace Archive

/-- Metadata as they are read back from a document: what counts as nothing is empty. -/
def readBack (m : Value) : Value := if m.isNothing then .empty else m

/-- The users of documents. -/
def contents (documents : Table Document) : Table (User Value) :=
  documents.map fun e => (e.1, user e.1 e.2)

@[simp] theorem get?_contents (documents : Table Document) (email : String) :
    (contents documents).get? email = (documents.get? email).map (user email) :=
  Table.get?_mapNamed user email documents

theorem contents_put (documents : Table Document) (email : String) (d : Document) :
    contents (documents.put email d) = (contents documents).put email (user email d) :=
  Table.mapNamed_put user email d documents

/-- A new document holds the user it is made from. -/
theorem user_document (u : User Value) (time : Int) :
    user u.email (document u time) = u.withMetadata (readBack u.metadata) := by
  simp [user, document, Table.get?, readBack, User.withMetadata]

theorem user_setFields_metadata (email : String) (d : Document) (m : Value) (time : Int) :
    user email (Collection.setFields [("metadata", m), ("updated_at", .instant time)] d) =
      (user email d).withMetadata (readBack m) := by
  have hm : ((d.put "metadata" m).put "updated_at" (.instant time)).get? "metadata" = some m := by
    rw [Table.get?_put_other (by decide), Table.get?_put_same]
  have hp : ((d.put "metadata" m).put "updated_at" (.instant time)).get? "password" =
      d.get? "password" := by
    rw [Table.get?_put_other (by decide), Table.get?_put_other (by decide)]
  simp only [Collection.setFields, List.foldl_cons, List.foldl_nil, user, hm, hp]
  rfl

theorem user_setFields_password (email : String) (d : Document) (p : Value) (time : Int) :
    user email (Collection.setFields [("password", p), ("updated_at", .instant time)] d) =
      { user email d with password := p } := by
  have hp : ((d.put "password" p).put "updated_at" (.instant time)).get? "password" = some p := by
    rw [Table.get?_put_other (by decide), Table.get?_put_same]
  have hm : ((d.put "password" p).put "updated_at" (.instant time)).get? "metadata" =
      d.get? "metadata" := by
    rw [Table.get?_put_other (by decide), Table.get?_put_other (by decide)]
  simp only [Collection.setFields, List.foldl_cons, List.foldl_nil, user, hm, hp]
  rfl

end Archive

/-- The request whose effect shows when an archive is read. -/
def Request.readBack : Request Value → Request Value
  | .save u => .save (u.withMetadata (Archive.readBack u.metadata))
  | .updateUser u => .updateUser (u.withMetadata (Archive.readBack u.metadata))
  | .updatePassword email password => .updatePassword email password
  | .retrieve email => .retrieve email

/-- The failure without what it was raised from. -/
def Failure.withoutCause : Failure → Failure
  | .taken email _ => .taken email none
  | f => f

theorem Failure.eq_unknown_of_withoutCause {f : Failure} {email : String}
    (h : f.withoutCause = .unknown email) : f = .unknown email := by
  cases f with
  | taken => cases h
  | _ => exact h

namespace Archive

/-- The failure that is shown for what the call of a request came to. -/
def shown (r : Request Value) : Failure ⊕ Cause → Failure
  | .inl f => f
  | .inr cause => (failureOf r.action r.email cause).1

@[simp] theorem result_stop (c : Collection) (r : Request Value) (events : List (Event T))
    (e : Failure ⊕ Cause) : (stop c r events e).result = .error (shown r e) := by
  cases e <;> rfl

@[simp] theorem state_stop (c : Collection) (r : Request Value) (events : List (Event T))
    (e : Failure ⊕ Cause) : (stop c r events e).state = c := by
  cases e <;> rfl

theorem result_perform (c : Collection) (r : Request Value) (time : Int) (timeout : Option T) :
    (perform c r time timeout).result = (execute c r time).1.mapError (shown r) := by
  unfold perform
  split
  · next h => rw [h]; rfl
  · next h => rw [h, result_stop]; rfl

theorem state_perform (c : Collection) (r : Request Value) (time : Int) (timeout : Option T) :
    (perform c r time timeout).state = (execute c r time).2 := by
  unfold perform
  split
  · next h => rw [h]
  · next h => rw [h, state_stop]

/-- A call enters or is refused before it takes effect. -/
theorem enter_cases (c : Collection) (m : Method) (arguments : List Value) :
    (c.enter m arguments = (.ok (), c)) ∨
      ∃ e c', c.enter m arguments = (.error e, c') ∧ c'.documents = c.documents ∧
        c'.wording = c.wording := by
  unfold Collection.enter
  split
  · next f hf => exact .inr ⟨_, _, rfl, rfl, rfl⟩
  · next hf =>
    split
    · next e he => exact .inr ⟨_, _, rfl, rfl, rfl⟩
    · next he => exact .inl rfl

variable (timeout : Option T)

/-- A call that is refused leads nowhere. -/
theorem execute_of_refused {c c' : Collection} {r : Request Value} {time : Int} {e : Cause}
    (h : c.enter (call r time timeout).method (call r time timeout).arguments = (.error e, c')) :
    execute c r time = (.error (.inr e), c') := by
  cases r <;>
    simp only [call] at h <;>
    simp [execute, Collection.insert, Collection.update, Collection.find, matched, h]

/-- A call that enters does what the body of its request does to the users of the documents, and
fails when that fails. -/
theorem execute_of_entered {c : Collection} {r : Request Value} {time : Int}
    (h : c.enter (call r time timeout).method (call r time timeout).arguments = (.ok (), c)) :
    match Directory.body (contents c.documents) r.readBack with
    | .ok (reply, entries) => ∃ documents,
        execute c r time = (.ok reply, { c with documents := documents }) ∧
          contents documents = entries
    | .error f => ∃ e, execute c r time = (.error e, c) ∧ (shown r e).withoutCause = f := by
  cases r with
  | save u =>
    simp only [call] at h
    simp only [Request.readBack, Directory.body, User.email_withMetadata, get?_contents]
    cases hd : c.documents.get? u.email with
    | some d =>
      refine ⟨.inr (.storage StorageError.takenKey), ?_, rfl⟩
      simp [execute, Collection.insert, h, hd]
    | none =>
      refine ⟨c.documents.put u.email (document u time), ?_, ?_⟩
      · simp [execute, Collection.insert, h, hd]
      · rw [contents_put, user_document]
  | updateUser u =>
    simp only [call] at h
    simp only [Request.readBack, Directory.body, Directory.modify, User.email_withMetadata,
      get?_contents, User.metadata_withMetadata]
    cases hd : c.documents.get? u.email with
    | none =>
      refine ⟨.inl (.unknown u.email), ?_, rfl⟩
      simp [execute, Collection.update, matched, h, hd]
    | some d =>
      refine ⟨c.documents.put u.email (Collection.setFields
        [("metadata", u.metadata), ("updated_at", .instant time)] d), ?_, ?_⟩
      · simp [execute, Collection.update, matched, h, hd]
      · rw [contents_put, user_setFields_metadata]
  | updatePassword email password =>
    simp only [call] at h
    simp only [Request.readBack, Directory.body, Directory.modify, get?_contents]
    cases hd : c.documents.get? email with
    | none =>
      refine ⟨.inl (.unknown email), ?_, rfl⟩
      simp [execute, Collection.update, matched, h, hd]
    | some d =>
      refine ⟨c.documents.put email (Collection.setFields
        [("password", password), ("updated_at", .instant time)] d), ?_, ?_⟩
      · simp [execute, Collection.update, matched, h, hd]
      · rw [contents_put, user_setFields_password]
  | retrieve email =>
    simp only [call] at h
    simp only [Request.readBack, Directory.body, get?_contents]
    cases hd : c.documents.get? email with
    | none =>
      refine ⟨.inl (.unknown email), ?_, rfl⟩
      simp [execute, Collection.find, h, hd]
    | some d =>
      refine ⟨c.documents, ?_, rfl⟩
      simp [execute, Collection.find, h, hd]

/-- A call has the effect of its request or none. -/
theorem perform_effect (c : Collection) (r : Request Value) (time : Int) :
    Effect (contents c.documents) r.readBack (perform c r time timeout).result
      (contents (perform c r time timeout).state.documents) := by
  rw [result_perform, state_perform]
  rcases enter_cases c (call r time timeout).method (call r time timeout).arguments with
    h | ⟨e, c', h, hd, -⟩
  · have hx := execute_of_entered timeout h
    cases hb : Directory.body (contents c.documents) r.readBack with
    | ok p =>
      rw [hb] at hx
      obtain ⟨documents, he, hc⟩ := hx
      rw [he]
      have hp : Directory.body (contents c.documents) r.readBack =
          .ok (p.1, contents documents) := by
        rw [hb, hc]
      exact hp
    | error f =>
      rw [hb] at hx
      obtain ⟨e, he, -⟩ := hx
      rw [he]
      rfl
  · rw [execute_of_refused timeout h]
    exact congrArg contents hd

variable [Timeline T]

/-- What comes of the circumstances of a request. The clock or the context stops it, or it has a wall
time, if it writes, and the time that the context leaves. -/
theorem prepare_cases (o : Occasion T) (r : Request Value) :
    (∃ f, o.wallTime = .error f ∧ prepare o r = .error (.inl f)) ∨
      (∃ f, (o.check = .error f ∨ o.wallTime = .error f) ∧
        prepare o r = .error (raised r.action f)) ∨
      ∃ time left, o.check = .ok left ∧ (r.action ≠ .retrieve → o.wallTime = .ok time) ∧
        prepare o r = .ok (time, left) := by
  cases r with
  | save u =>
    cases hw : o.wallTime with
    | error f => exact .inl ⟨f, rfl, by rw [prepare, hw]; rfl⟩
    | ok time =>
      cases hc : o.check with
      | error f => exact .inr (.inl ⟨f, .inl rfl, by rw [prepare, hw, hc]; rfl⟩)
      | ok left => exact .inr (.inr ⟨time, left, rfl, fun _ => rfl, by rw [prepare, hw, hc]; rfl⟩)
  | retrieve email =>
    cases hc : o.check with
    | error f => exact .inr (.inl ⟨f, .inl rfl, by rw [prepare, hc]; rfl⟩)
    | ok left => exact .inr (.inr ⟨0, left, rfl, fun hr => absurd rfl hr, by rw [prepare, hc]; rfl⟩)
  | updateUser _ | updatePassword _ _ =>
    cases hc : o.check with
    | error f => exact .inr (.inl ⟨f, .inl rfl, by simp only [prepare, hc]; rfl⟩)
    | ok left =>
      cases hw : o.wallTime with
      | error f => exact .inr (.inl ⟨f, .inr rfl, by simp only [prepare, hc, hw]; rfl⟩)
      | ok time =>
        exact .inr (.inr ⟨time, left, rfl, fun _ => rfl, by simp only [prepare, hc, hw]; rfl⟩)

/-- A request is stopped by its circumstances, or makes its call within the time that is left. A
write makes it at the wall time. -/
theorem run_cases (c : Collection) (o : Occasion T) (r : Request Value) :
    (∃ e, run c o r = stop c r [] e) ∨
      ∃ time left, o.check = .ok left ∧ (r.action ≠ .retrieve → o.wallTime = .ok time) ∧
        run c o r = perform c r time left := by
  rcases prepare_cases o r with ⟨f, -, h⟩ | ⟨f, -, h⟩ | ⟨time, left, hc, hw, h⟩
  · exact .inl ⟨_, by rw [run, h]⟩
  · exact .inl ⟨_, by rw [run, h]⟩
  · exact .inr ⟨time, left, hc, hw, by rw [run, h]⟩

theorem run_effect (c : Collection) (o : Occasion T) (r : Request Value) :
    Effect (contents c.documents) r.readBack (run c o r).result
      (contents (run c o r).state.documents) := by
  rcases run_cases c o r with ⟨e, h⟩ | ⟨time, left, -, -, h⟩
  · rw [h, result_stop, state_stop]
    rfl
  · rw [h]
    exact perform_effect left c r time

end Archive

/-! ## Repositories -/

namespace Tree

mutual

/-- A plain value has no tags to forget. -/
@[simp] theorem erase_value (v : Value) : v.erase = v :=
  match v with
  | .atom .. => rfl
  | .list _ items => by simp [erase, eraseItems_value]
  | .dict _ entries => by simp [erase, eraseEntries_value]

theorem eraseItems_value (items : List Value) : eraseItems items = items :=
  match items with
  | [] => rfl
  | t :: ts => by simp [eraseItems, erase_value, eraseItems_value]

theorem eraseEntries_value (entries : List (Atom × Value)) : eraseEntries entries = entries :=
  match entries with
  | [] => rfl
  | (k, t) :: es => by simp [eraseEntries, erase_value, eraseEntries_value]

end

end Tree

@[simp] theorem User.erase_build (supply : NodeId) (u : User Value) :
    (u.build supply).1.erase = u := by
  simp [User.build, User.erase, User.withMetadata]

@[simp] theorem Reply.erase_build (supply : NodeId) (r : Reply Value) :
    (r.build supply).1.erase = r := by
  cases r <;> simp [Reply.build, Reply.erase]

namespace Repository

/-- The users that are kept, by address. -/
def contents (s : Repository) : Table (User Value) :=
  match s.backend with
  | .directory d => d.erase.entries
  | .archive c => Archive.contents c.documents

/-- The request whose effect shows in the contents. -/
def received (s : Repository) (r : Request Metadata) : Request Value :=
  match s.backend with
  | .directory _ => r.erase
  | .archive _ => r.erase.readBack

def isArchive (s : Repository) : Bool :=
  match s.backend with
  | .directory _ => false
  | .archive _ => true

theorem users_eq (s : Repository) : s.users = s.contents.map Prod.snd := by
  unfold users contents
  cases s.backend with
  | directory d => simp [storedUsers, Directory.erase, Table.mapValues]
  | archive c => simp [storedDocuments, Archive.contents]

variable [Timeline T]

/-- A directory of nodes answers as one of plain users does. -/
theorem runDirectory_eq (d : Directory Metadata) (supply : NodeId) (o : Occasion T)
    (r : Request Metadata) :
    (runDirectory d supply o r).result.map Reply.erase = (d.erase.run o r.erase).result ∧
      ∃ d', (runDirectory d supply o r).state.backend = .directory d' ∧
        d'.erase = (d.erase.run o r.erase).state := by
  have h := Directory.run_erase d o (r.copy supply).1
  rw [Request.erase_copy] at h
  rw [h.1, h.2]
  unfold runDirectory
  dsimp only
  cases hr : (d.run o (r.copy supply).1).result with
  | error f => exact ⟨rfl, _, rfl, rfl⟩
  | ok reply => exact ⟨by simp [Except.map], _, rfl, rfl⟩

/-- An archive answers with fresh nodes. -/
theorem runArchive_eq (c : Collection) (supply : NodeId) (o : Occasion T) (r : Request Metadata) :
    (runArchive c supply o r).result.map Reply.erase = (Archive.run c o r.erase).result ∧
      (runArchive c supply o r).state.backend = .archive (Archive.run c o r.erase).state := by
  unfold runArchive
  dsimp only
  cases hr : (Archive.run c o r.erase).result with
  | error f => exact ⟨rfl, rfl⟩
  | ok reply => exact ⟨by simp [Except.map], rfl⟩

@[simp] theorem isArchive_run (s : Repository) (o : Occasion T) (r : Request Metadata) :
    (s.run o r).state.isArchive = s.isArchive := by
  unfold run isArchive
  cases s.backend with
  | directory d =>
    obtain ⟨-, d', hd, -⟩ := runDirectory_eq d s.supply o r
    simp only [hd]
  | archive c => simp only [(runArchive_eq c s.supply o r).2]

/-- A request to a repository has the effect of its body on the contents, or none. -/
theorem run_effect (s : Repository) (o : Occasion T) (r : Request Metadata) :
    Effect s.contents (s.received r) ((s.run o r).result.map Reply.erase)
      (s.run o r).state.contents := by
  unfold run contents received
  cases s.backend with
  | directory d =>
    obtain ⟨hr, d', hd, he⟩ := runDirectory_eq d s.supply o r
    simp only [hd, hr, he]
    exact Directory.run_effect d.erase o r.erase
  | archive c =>
    obtain ⟨hr, hd⟩ := runArchive_eq c s.supply o r
    simp only [hd, hr]
    exact Archive.run_effect c o r.erase

/-- A request fails and changes nothing, or succeeds and does what its body says. -/
theorem run_cases (s : Repository) (o : Occasion T) (r : Request Metadata) :
    (∃ f, (s.run o r).result = .error f ∧ (s.run o r).state.contents = s.contents) ∨
      ∃ reply, (s.run o r).result = .ok reply ∧
        Directory.body s.contents (s.received r) =
          .ok (reply.erase, (s.run o r).state.contents) := by
  have he := run_effect s o r
  cases hr : (s.run o r).result with
  | error f =>
    rw [hr] at he
    exact .inl ⟨f, rfl, he⟩
  | ok reply =>
    rw [hr] at he
    exact .inr ⟨reply, rfl, he⟩

end Repository

end Accounts
