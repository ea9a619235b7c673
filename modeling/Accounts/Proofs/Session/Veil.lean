import Accounts.Proofs.Session.Course
import Accounts.Proofs.Store.Secrecy

/-!
The veil over a session. It lies over the passwords of the users that are held and of those that are
stored, over the passwords in steps, answers and calls of the driver, and over every answer that
compares passwords. What a session does with users, documents and contexts it does in the same way
before the veil and behind it.
-/
namespace Accounts.Session

variable {T α β : Type}

/-! ## What is behind the veil -/

/-- The session with a veil over the users that are held and those that are stored. -/
def veiled (s : Session T) : Session T :=
  { s with held := s.held.mapValues User.veiled, repository := s.repository.veiled }

def Answer.veiled : Answer T → Answer T
  | .user u => .user u.veiled
  | .users us => .users (us.map User.veiled)
  | .documents ds => .documents (ds.map Document.veiled)
  | a => a

def Result.veiled (r : Result T) : Result T :=
  { answer := r.answer.map Answer.veiled, events := r.events.map Event.veiled }

def Change.veiled : Change → Change
  | .password v => .password v.veiled
  | c => c

def Ask.veiled : Ask → Ask
  | .updatePassword email password => .updatePassword email password.veiled
  | .serviceUpdatePassword email password => .serviceUpdatePassword email password.veiled
  | .login email password => .login email password.veiled
  | a => a

def Step.veiled : Step T → Step T
  | .hold name u => .hold name u.veiled
  | .change user c => .change user c.veiled
  | .ask context a => .ask context a.veiled
  | .seed document => .seed document.veiledFields
  | step => step

/-- The answer compares passwords. -/
def Step.compares : Step T → Bool
  | .equal .. | .ask _ (.login ..) => true
  | _ => false

/-- A session and a result behind the veil. -/
def behindVeil (x : Session T × Result T) : Session T × Result T := (x.1.veiled, x.2.veiled)

/-- A session and a result of which only success or failure is seen. -/
def hidden (x : Session T × Result T) : Session T × Result T :=
  (x.1.veiled, ⟨x.2.answer.map fun _ => .done, x.2.events.map Event.veiled⟩)

/-- What is seen of a session and the result of a step. -/
def Step.seen (step : Step T) (x : Session T × Result T) : Session T × Result T :=
  if step.compares then hidden x else behindVeil x

theorem session_seen (step : Step T) (x : Session T × Result T) :
    (step.seen x).1 = x.1.veiled := by
  unfold Step.seen
  split <;> rfl

theorem veiled_of_seen {p q : Step T} {x y : Session T × Result T} (h : p.seen x = q.seen y) :
    x.1.veiled = y.1.veiled :=
  (session_seen p x).symm.trans ((congrArg Prod.fst h).trans (session_seen q y))

theorem events_seen (step : Step T) (x : Session T × Result T) :
    (step.seen x).2.events = x.2.events.map Event.veiled := by
  unfold Step.seen
  split <;> rfl

/-- A log entry is the same before and behind the veil. -/
theorem entries_seen (step : Step T) (x : Session T × Result T) :
    (step.seen x).2.entries = x.2.entries := by
  simp only [Result.entries, events_seen, List.filterMap_map]
  congr 1
  funext e
  cases e <;> rfl

/-! ## What passwords do not change -/

variable {s : Session T}

theorem draw_veiled (s : Session T) (salt : Option String) :
    s.veiled.draw salt = (s.draw salt).veiled := by
  cases salt <;> rfl

theorem keep_veiled (s : Session T) (name : Option String) (u : User Metadata) :
    s.veiled.keep name u.veiled = (s.keep name u).veiled := by
  cases name with
  | none => rfl
  | some n => simp only [keep, veiled, Table.mapValues_put]

theorem keepAnswered_veiled (s : Session T) (name : String) (u : User Metadata) :
    s.veiled.keepAnswered name u.veiled = behindVeil (s.keepAnswered name u) := by
  simp only [keepAnswered, keep_veiled, User.erase_veiled]
  rfl

theorem withUser_veiled {name : String} {f g : User Metadata → Session T × Result T}
    (h : ∀ u, f u.veiled = behindVeil (g u)) :
    s.veiled.withUser name f = behindVeil (s.withUser name g) := by
  have hget : s.veiled.held.get? name = (s.held.get? name).map User.veiled :=
    Table.get?_mapValues _ name s.held
  simp only [withUser, hget]
  cases s.held.get? name with
  | none => rfl
  | some u => exact h u

theorem conclude_veiled {f : α → β} {rest : Session T → α → Session T × Answer T}
    {rest' : Session T → β → Session T × Answer T} (out : Outcome T Repository α)
    (h : ∀ t a, rest' t.veiled (f a) = ((rest t a).1.veiled, (rest t a).2.veiled)) :
    s.veiled.conclude (out.veiled f Repository.veiled) rest' =
      behindVeil (s.conclude out rest) := by
  obtain ⟨result, state, events⟩ := out
  cases result with
  | error e => rfl
  | ok a =>
    have hrest := h { s with repository := state } a
    change ((rest' (veiled { s with repository := state }) (f a)).1,
      Result.mk (.ok (rest' (veiled { s with repository := state }) (f a)).2)
        (events.map Event.veiled)) = _
    rw [hrest]
    rfl

theorem concludeDone_veiled {f : α → β} (s : Session T) (out : Outcome T Repository α) :
    s.veiled.concludeDone (out.veiled f Repository.veiled) = behindVeil (s.concludeDone out) :=
  conclude_veiled out fun _ _ => rfl

theorem concludeUser_veiled (s : Session T) (name : Option String)
    (out : Outcome T Repository (User Metadata)) :
    s.veiled.concludeUser name (out.veiled User.veiled Repository.veiled) =
      behindVeil (s.concludeUser name out) :=
  conclude_veiled out fun t u => by rw [keep_veiled, User.erase_veiled]; rfl

/-- A new form of the nodes has nothing to do with passwords. -/
theorem mapMetadata_veiled (f : Metadata → Metadata) (r : Repository) :
    r.veiled.mapMetadata f = (r.mapMetadata f).veiled := by
  obtain ⟨backend, supply⟩ := r
  cases backend with
  | directory d =>
    simp only [Repository.veiled, Repository.mapMetadata, Directory.veiled, Table.mapValues,
      List.map_map]
    rfl
  | archive c => rfl

theorem updateNode_veiled (s : Session T) (name : String) (u : User Metadata) (node : Metadata) :
    s.veiled.updateNode name u.veiled node = behindVeil (s.updateNode name u node) := by
  have hheld : (s.held.mapValues User.veiled).mapValues
      (fun v => v.withMetadata (Tree.update node v.metadata)) =
      (s.held.mapValues fun v => v.withMetadata (Tree.update node v.metadata)).mapValues
        User.veiled := by
    simp only [Table.mapValues, List.map_map]
    rfl
  have hkeep := keepAnswered_veiled
    { s with
      held := s.held.mapValues fun v => v.withMetadata (Tree.update node v.metadata)
      repository := s.repository.mapMetadata (Tree.update node) }
    name (u.withMetadata (Tree.update node u.metadata))
  simp only [veiled, ← mapMetadata_veiled, ← hheld] at hkeep
  exact hkeep

theorem assignHeld_veiled (s : Session T) (name : String) (u : User Metadata) (node : Metadata)
    (path : List Value) :
    s.veiled.assignHeld name u.veiled node path = behindVeil (s.assignHeld name u node path) := by
  cases path with
  | nil => exact keepAnswered_veiled s name (u.withMetadata node)
  | cons step path =>
    simp only [assignHeld, User.metadata_veiled]
    cases Tree.assigned (step :: path) node u.metadata with
    | error e => rfl
    | ok changed =>
      simp only
      split
      · rfl
      · exact updateNode_veiled s name u changed

theorem changeUser_veiled (s : Session T) (name : String) (u : User Metadata) (c : Change) :
    s.veiled.changeUser name u.veiled c.veiled = behindVeil (s.changeUser name u c) := by
  cases c with
  | email e => exact keepAnswered_veiled s name { u with email := e }
  | password v => exact keepAnswered_veiled s name { u with password := v }
  | metadata v =>
    exact keepAnswered_veiled (s.withSupply (v.build s.repository.supply).2) name
      (u.withMetadata (v.build s.repository.supply).1)
  | part path v =>
    change s.veiled.changeUser name u.veiled (.part path v) = _
    have hsupply : s.veiled.repository.supply = s.repository.supply := rfl
    simp only [changeUser, hsupply, User.metadata_veiled]
    cases Tree.assigned path (v.build s.repository.supply).1 u.metadata with
    | error e => rfl
    | ok node => exact updateNode_veiled (s.withSupply (v.build s.repository.supply).2) name u node
  | share path source place =>
    refine withUser_veiled fun v => ?_
    simp only [User.metadata_veiled]
    cases Tree.descend place v.metadata with
    | error e => rfl
    | ok node => exact assignHeld_veiled s name u node path

theorem failWith_veiled (r : Repository) (message : Option String) :
    r.veiled.failWith message = (r.failWith message).veiled := by
  obtain ⟨backend, supply⟩ := r
  cases backend <;> rfl

theorem arm_veiled (r : Repository) (m : Method) (e : StorageError) :
    r.veiled.arm m e = (r.arm m e).veiled := by
  obtain ⟨backend, supply⟩ := r
  cases backend <;> rfl

/-- The place of a document is not its password. -/
theorem seed_veiled {s : Session T} (hs : s.repository.IsDiscreet) (document : Value) :
    s.veiled.seed document.veiledFields = behindVeil (s.seed document) := by
  obtain ⟨now, contexts, named, held, ⟨backend, supply⟩, hasher⟩ := s
  cases backend with
  | directory d => rfl
  | archive c =>
    have hid : Table.get? "_id" document.veiledFields.fields =
        Table.get? "_id" document.fields := by
      rw [Document.fields_veiledFields, Document.get?_veiled_other (by decide)]
    have hwording : ∀ f, c.veiled.wording [document.veiledFields] f = c.wording [document] f :=
      (hs c.wording rfl).document document
    simp only [seed, veiled, Repository.veiled, Value.fault?_veiledFields, hid, hwording]
    cases document.fault? with
    | some f => rfl
    | none =>
      cases Table.get? "_id" document.fields with
      | none => rfl
      | some id =>
        simp only [Document.fields_veiledFields, Collection.veiled, withBackend, answer, behindVeil,
          veiled, Repository.veiled, Table.mapValues_put]
        rfl

theorem dump_veiled (s : Session T) : s.veiled.dump = Answer.veiled s.dump := by
  obtain ⟨now, contexts, named, held, ⟨backend, supply⟩, hasher⟩ := s
  cases backend with
  | directory d =>
    simp only [dump, veiled, Repository.veiled, Directory.veiled, Answer.veiled,
      Table.sorted_mapValues]
    simp only [Table.mapValues, List.map_map]
    rfl
  | archive c =>
    simp only [dump, veiled, Repository.veiled, Collection.veiled, Answer.veiled,
      Table.sorted_mapValues]
    simp only [Table.mapValues, List.map_map]
    rfl

end Accounts.Session
