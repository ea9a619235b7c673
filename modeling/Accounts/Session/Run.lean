import Accounts.Session.State

/-!
Running a session. A step acts on the state that the step before it left, whether that one was
answered or refused.
-/
namespace Accounts.Session

variable {T : Type} [Timeline T]

/-! ## Contexts -/

/-- The number of a parent; no name stands for no parent. -/
def parent (s : Session T) : Option String → Except Refusal (Option Nat)
  | none => .ok none
  | some name =>
    match s.named.get? name with
    | some id => .ok (some id)
    | none => .error (.unnamed name)

def addContext (s : Session T) (name : String) (requested : Option T) (parent : Option Nat) :
    Session T :=
  { s with
    contexts := s.contexts.create requested parent
    named := s.named.put name s.contexts.length }

/-- Add a context and answer with its deadline. -/
def addDeadline (s : Session T) (name : String) (requested : Option T) (parent : Option Nat) :
    Session T × Result T :=
  let t := s.addContext name requested parent
  t.answer (.moment (t.contexts.deadline? s.contexts.length))

def create (s : Session T) (name : String) : Origin T → Session T × Result T
  | .background => (s.addContext name none none).answer .done
  | .timeout seconds parent =>
    match s.parent parent with
    | .error r => s.refuse r
    | .ok p =>
      match Timeline.add? s.now seconds with
      | some d => s.addDeadline name (some d) p
      | none => s.fail .clockRange
  | .deadline d parent =>
    match s.parent parent with
    | .error r => s.refuse r
    | .ok p => s.addDeadline name d p

def answerMoment (s : Session T) : Except ContextError (Option T) → Session T × Result T
  | .ok t => s.answer (.moment t)
  | .error e => s.fail (.context e)

def inquire (s : Session T) (id : Nat) : Inquiry → Session T × Result T
  | .cancel => { s with contexts := s.contexts.cancel id }.answer .done
  | .isCancelled => s.answer (.truth (s.contexts.isCancelled id))
  | .deadline => s.answer (.moment (s.contexts.deadline? id))
  | .remaining => s.answerMoment (s.contexts.remaining s.now id)
  | .check => s.answerMoment (s.contexts.check s.now id)

/-! ## Repository and service -/

def occasion (s : Session T) (context : Nat) : Occasion T :=
  { contexts := s.contexts, now := s.now, context := context }

/-- Save one user several times over. The savers come one after another: which of them is first
makes no difference to what they report together. -/
def race (o : Occasion T) (u : User Metadata) :
    Nat → Repository → List String × Repository × List (Event T)
  | 0, r => ([], r, [])
  | n + 1, r =>
    let out := r.run o (.save u)
    let name := match out.result with
      | .ok _ => "saved"
      | .error f => f.name
    let (names, r, events) := race o u n out.state
    (name :: names, r, out.events ++ events)

def perform (s : Session T) (o : Occasion T) : Ask → Session T × Result T
  | .save user => s.withUser user fun u => s.concludeDone (s.repository.run o (.save u))
  | .updateUser user => s.withUser user fun u => s.concludeDone (s.repository.run o (.updateUser u))
  | .updatePassword email password =>
    s.concludeDone (s.repository.run o (.updatePassword email password))
  | .retrieve email result | .view email result =>
    s.concludeUser result (Service.viewUser s.repository o email)
  | .race user count => s.withUser user fun u =>
    let (names, repository, events) := race o u count s.repository
    ({ s with repository := repository },
      { answer := .ok (.names (names.mergeSort fun a b => a ≤ b)), events := events })
  | .register user result => s.withUser user fun u =>
    s.concludeUser result (Service.register s.hasher s.repository o u)
  | .serviceUpdateUser user => s.withUser user fun u =>
    s.concludeDone (Service.updateUser s.repository o u)
  | .serviceUpdatePassword email password =>
    s.concludeDone (Service.updatePassword s.hasher s.repository o email password)
  | .login email password =>
    s.conclude (Service.login s.hasher s.repository o email password) fun t b => (t, .truth b)

/-! ## Steps -/

/-- One step. A user equals itself whatever it holds. -/
def step (s : Session T) : Step T → Session T × Result T
  | .advance time =>
    match Timeline.add? s.now time with
    | some now => { s with now := now }.answer (.moment (some now))
    | none => s.fail .clockRange
  | .create name origin => s.create name origin
  | .inquire context inquiry =>
    match s.named.get? context with
    | some id => s.inquire id inquiry
    | none => s.refuse (.unnamed context)
  | .hold name user =>
    let (u, next) := user.build s.repository.supply
    (s.withSupply next).keepAnswered name u
  | .change user change => s.withUser user fun u => s.changeUser user u change
  | .look user => s.withUser user fun u => s.answer (.user u.erase)
  | .equal first second => s.withUser first fun u => s.withUser second fun v =>
    s.answer (.truth (first == second || u.same v))
  | .validate user => s.withUser user fun u =>
    match u.validate with
    | .ok () => s.answer .done
    | .error f => s.fail f
  | .ask context ask =>
    match s.named.get? context with
    | some id => s.perform (s.occasion id) ask
    | none => s.refuse (.unnamed context)
  | .failWith message => { s with repository := s.repository.failWith message }.answer .done
  | .arm method error => { s with repository := s.repository.arm method error }.answer .done
  | .seed document => s.seed document
  | .dump => s.answer s.dump

/-- All steps. Each result comes with the state after it. -/
def run (s : Session T) : List (Step T) → List (Session T × Result T)
  | [] => []
  | step :: steps => s.step step :: run (s.step step).1 steps

/-- Everything is logged from this level on. -/
def logLevel : Log.Level := Log.Level.debug

/-- The log lines of a step, all written at the wall time of the state. -/
def lines (s : Session T) (r : Result T) : List (List Char) :=
  match Occasion.wallTime? s.now with
  | some time => Log.lines logLevel (.whole time) r.entries
  | none => []

end Accounts.Session
