import Accounts.Proofs.Store.History
import Mathlib.Data.List.Perm.Basic
import Mathlib.Logic.Function.Basic

/-!
Clients that share a directory. A request takes two steps: it is accepted, and later its body runs.
In between anything may happen: other clients take their steps, contexts are opened and cancelled,
the clock moves on, the directory is told to fail or to stop failing. What comes of the requests is
still what comes of their bodies, run one after another in the order in which they ran. So of the
clients that want to open one account the first whose body runs has it.
-/
namespace Accounts

variable {M T : Type}

/-- Only saving a user opens an account. -/
theorem Request.eq_save_of_saves {r : Request M} {email : String} (h : r.saves email = true) :
    ∃ u, r = .save u ∧ u.email = email := by
  cases r with
  | save u => exact ⟨u, rfl, by simpa [saves] using h⟩
  | updateUser u => cases h
  | updatePassword e p => cases h
  | retrieve e => cases h

/-! ## Bodies one after another -/

namespace Directory

/-- The bodies of requests, each on what the one before it left, with their results. -/
def inTurn (d : Directory M) :
    List (Request M) → List (Request M × Except Failure (Reply M)) × Directory M
  | [] => ([], d)
  | r :: rs =>
    let (answers, after) := inTurn (d.perform r).2 rs
    ((r, (d.perform r).1) :: answers, after)

/-- The failure to show does not matter to a body. -/
theorem perform_congr {d e : Directory M} (h : d.entries = e.entries) (r : Request M) :
    (d.perform r).1 = (e.perform r).1 ∧ (d.perform r).2.entries = (e.perform r).2.entries := by
  unfold perform
  rw [h]
  cases body e.entries r with
  | error f => exact ⟨rfl, h⟩
  | ok p => exact ⟨rfl, rfl⟩

theorem inTurn_congr {d e : Directory M} (h : d.entries = e.entries) (rs : List (Request M)) :
    (d.inTurn rs).1 = (e.inTurn rs).1 ∧ (d.inTurn rs).2.entries = (e.inTurn rs).2.entries := by
  induction rs generalizing d e with
  | nil => exact ⟨rfl, h⟩
  | cons r rs ih =>
    obtain ⟨hresult, hentries⟩ := perform_congr h r
    obtain ⟨hanswers, hafter⟩ := ih hentries
    exact ⟨by simp only [inTurn, hresult, hanswers], hafter⟩

@[simp] theorem map_fst_inTurn (d : Directory M) (rs : List (Request M)) :
    (d.inTurn rs).1.map Prod.fst = rs := by
  induction rs generalizing d with
  | nil => rfl
  | cons r rs ih => exact congrArg (List.cons r) (ih (d.perform r).2)

/-! ### Opening one account -/

/-- Opening an account succeeds when there is none, and then the account is there. -/
theorem perform_save (d : Directory M) (u : User M) :
    (d.entries.get? u.email = none ∧ (d.perform (.save u)).1 = .ok .done ∧
        (d.perform (.save u)).2.entries.get? u.email = some u) ∨
      ∃ v, d.entries.get? u.email = some v ∧
        d.perform (.save u) = (.error (.taken u.email none), d) := by
  cases hg : d.entries.get? u.email with
  | none =>
    refine .inl ⟨rfl, ?_, ?_⟩
    · simp only [perform, body, hg]
    · simp only [perform, body, hg]
      exact Table.get?_put_same ..
  | some v => exact .inr ⟨v, rfl, by simp only [perform, body, hg]⟩

/-- Nothing but opening an account changes whether there is one. -/
theorem isSome_perform {d : Directory M} {r : Request M} {email : String}
    (h : r.saves email = false) :
    ((d.perform r).2.entries.get? email).isSome = (d.entries.get? email).isSome := by
  unfold perform
  cases hb : body d.entries r with
  | error f => rfl
  | ok p =>
    obtain ⟨reply, after⟩ := p
    dsimp only
    by_cases he : r.email = email
    · subst he
      rcases body_cases hb with ⟨u, rfl, -, -⟩ | ⟨u, v, rfl, hg, rfl⟩ | ⟨e, p, v, rfl, hg, rfl⟩ |
        ⟨e, v, rfl, -, rfl⟩
      · simp [Request.saves, Request.email] at h
      · simp [Request.email, hg]
      · simp [Request.email, hg]
      · rfl
    · rw [body_other hb he]

/-- What becomes of so many attempts to open one account, when there is one already or not. -/
def attempts (email : String) : Bool → Nat → List (Except Failure (Reply M))
  | _, 0 => []
  | false, n + 1 => .ok .done :: .replicate n (.error (.taken email none))
  | true, n + 1 => .replicate (n + 1) (.error (.taken email none))

/-- The results of the requests that open the account of an address. -/
def openings (email : String) (answers : List (Request M × Except Failure (Reply M))) :
    List (Except Failure (Reply M)) :=
  (answers.filter fun a => a.1.saves email).map Prod.snd

theorem attempts_true (email : String) (n : Nat) :
    (attempts email true n : List (Except Failure (Reply M))) =
      .replicate n (.error (.taken email none)) := by
  cases n <;> rfl

/-- The first of those that want to open an account has it, if it is still to be had. -/
theorem openings_inTurn (d : Directory M) (email : String) (rs : List (Request M)) :
    openings email (d.inTurn rs).1 =
      attempts email (d.entries.get? email).isSome (rs.countP (Request.saves email)) := by
  induction rs generalizing d with
  | nil => rfl
  | cons r rs ih =>
    have hrest := ih (d.perform r).2
    cases hs : r.saves email with
    | false =>
      rw [isSome_perform hs] at hrest
      rw [List.countP_cons_of_neg (by simp [hs]), ← hrest]
      simp [openings, inTurn, hs]
    | true =>
      -- whichever way it ends, the account is there afterwards, and all the others are too late
      obtain ⟨u, rfl, rfl⟩ := Request.eq_save_of_saves hs
      have hcons : openings u.email (d.inTurn (.save u :: rs)).1 =
          (d.perform (.save u)).1 :: openings u.email ((d.perform (.save u)).2.inTurn rs).1 := by
        simp [openings, inTurn, hs]
      rw [List.countP_cons_of_pos hs, hcons, hrest]
      rcases d.perform_save u with ⟨hg, hok, hin⟩ | ⟨v, hg, htaken⟩
      · rw [hok, hin, hg, Option.isSome_some, attempts_true]
        rfl
      · rw [htaken, hg, Option.isSome_some, attempts_true]
        rfl

/-- Whoever has opened an account has found none, and has left the own user there. -/
theorem entry_of_inTurn {d : Directory M} {rs : List (Request M)} {u : User M} {reply : Reply M}
    {before later : List (Request M × Except Failure (Reply M))}
    (h : (d.inTurn rs).1 = before ++ (.save u, .ok reply) :: later) :
    (d.inTurn (before.map Prod.fst)).2.entries.get? u.email = none ∧
      (d.inTurn (before.map Prod.fst ++ [.save u])).2.entries.get? u.email = some u := by
  induction before generalizing d rs with
  | nil =>
    cases rs with
    | nil => cases h
    | cons r rs =>
      simp only [inTurn, List.nil_append, List.cons.injEq, Prod.mk.injEq] at h
      obtain ⟨⟨rfl, hok⟩, -⟩ := h
      rcases d.perform_save u with ⟨hg, -, hin⟩ | ⟨v, -, htaken⟩
      · exact ⟨hg, hin⟩
      · rw [htaken] at hok
        cases hok
  | cons b before ih =>
    cases rs with
    | nil => cases h
    | cons r rs =>
      simp only [inTurn, List.cons_append, List.cons.injEq] at h
      obtain ⟨rfl, hrest⟩ := h
      exact ih hrest

end Directory

/-! ## Clients and their moves -/

/-- Clients of one directory. Those inside have been accepted, and their bodies are still to run. -/
structure Crowd (T M : Type) where
  directory : Directory M
  contexts : Contexts T
  now : T
  inside : Nat → Option (Request M) := fun _ => none

/-- What a client does, or what happens around the clients. -/
inductive Move (T M : Type) where
  | enter (client context : Nat) (request : Request M)
  | finish (client : Nat)
  | create (requested : Option T) (parent : Option Nat)
  | cancel (context : Nat)
  | advance (time : T)
  | failWith (message : Option String)

/-- What a client is told. -/
inductive Notice (M : Type) where
  | accepted (client : Nat) (request : Request M)
  | refused (client : Nat) (request : Request M) (failure : Failure)
  | served (client : Nat) (request : Request M) (result : Except Failure (Reply M))

namespace Notice

def isRefused : Notice M → Bool
  | .refused .. => true
  | _ => false

end Notice

namespace Crowd

/-! ### What the clients have been told -/

/-- The requests that have been accepted, with their clients. -/
def accepted : List (Notice M) → List (Nat × Request M)
  | [] => []
  | .accepted client request :: notices => (client, request) :: accepted notices
  | _ :: notices => accepted notices

theorem accepted_append (first rest : List (Notice M)) :
    accepted (first ++ rest) = accepted first ++ accepted rest := by
  induction first with
  | nil => rfl
  | cons n first ih => cases n <;> simp [accepted, ih]

/-- The requests that have been served, with their clients. -/
def served : List (Notice M) → List (Nat × Request M)
  | [] => []
  | .served client request _ :: notices => (client, request) :: served notices
  | _ :: notices => served notices

/-- The requests that have been served, with their results. -/
def answers : List (Notice M) → List (Request M × Except Failure (Reply M))
  | [] => []
  | .served _ request result :: notices => (request, result) :: answers notices
  | _ :: notices => answers notices

def ofClient (client : Nat) (calls : List (Nat × Request M)) : List (Request M) :=
  (calls.filter fun c => c.1 == client).map Prod.snd

/-! ### Moves -/

variable [Timeline T]

def occasion (k : Crowd T M) (context : Nat) : Occasion T := ⟨k.contexts, k.now, context⟩

/-- One move, if it can be made: a client enters when it is outside, and only a client inside has
something to finish. A body runs as one move, because it holds the lock of the directory. -/
def move (k : Crowd T M) : Move T M → Option (Crowd T M × List (Notice M))
  | .enter client context request =>
    match k.inside client with
    | some _ => none
    | none =>
      match k.directory.accept (k.occasion context) with
      | .error f => some (k, [.refused client request f])
      | .ok () =>
        some ({ k with inside := Function.update k.inside client (some request) },
          [.accepted client request])
  | .finish client =>
    match k.inside client with
    | none => none
    | some request =>
      let (result, directory) := k.directory.perform request
      some ({ k with directory := directory, inside := Function.update k.inside client none },
        [.served client request result])
  | .create requested parent =>
    some ({ k with contexts := k.contexts.create requested parent }, [])
  | .cancel context => some ({ k with contexts := k.contexts.cancel context }, [])
  | .advance time => (Timeline.add? k.now time).map fun now => ({ k with now := now }, [])
  | .failWith message =>
    some ({ k with directory := { k.directory with failWith := message } }, [])

/-- All moves, if they can be made one after another, and what the clients are told on the way. -/
def run (k : Crowd T M) : List (Move T M) → Option (Crowd T M × List (Notice M))
  | [] => some (k, [])
  | m :: ms =>
    match k.move m with
    | none => none
    | some (next, notices) => (run next ms).map fun out => (out.1, notices ++ out.2)

/-- What a move can change. -/
inductive Change (k : Crowd T M) : Crowd T M → List (Notice M) → Prop where
  | refused (client : Nat) (request : Request M) (f : Failure) :
    Change k k [.refused client request f]
  | accepted {client : Nat} (request : Request M) (houtside : k.inside client = none) :
    Change k { k with inside := Function.update k.inside client (some request) }
      [.accepted client request]
  | served {client : Nat} {request : Request M} (hinside : k.inside client = some request) :
    Change k
      { k with
        directory := (k.directory.perform request).2
        inside := Function.update k.inside client none }
      [.served client request (k.directory.perform request).1]
  | aside {next : Crowd T M} (hentries : next.directory.entries = k.directory.entries)
    (hinside : next.inside = k.inside) : Change k next []

theorem change_of_move {k next : Crowd T M} {m : Move T M} {notices : List (Notice M)}
    (h : k.move m = some (next, notices)) : Change k next notices := by
  cases m with
  | enter client context request =>
    simp only [move] at h
    cases hin : k.inside client with
    | some r =>
      rw [hin] at h
      cases h
    | none =>
      cases ha : k.directory.accept (k.occasion context) with
      | error f =>
        simp only [hin, ha] at h
        cases h
        exact .refused client request f
      | ok _ =>
        simp only [hin, ha] at h
        cases h
        exact .accepted request hin
  | finish client =>
    simp only [move] at h
    cases hin : k.inside client with
    | none =>
      rw [hin] at h
      cases h
    | some request =>
      simp only [hin] at h
      cases h
      exact .served hin
  | create requested parent =>
    cases h
    exact .aside rfl rfl
  | cancel context =>
    cases h
    exact .aside rfl rfl
  | advance time =>
    simp only [move] at h
    cases hn : Timeline.add? k.now time with
    | none =>
      rw [hn] at h
      cases h
    | some now =>
      rw [hn] at h
      cases h
      exact .aside rfl rfl
  | failWith message =>
    cases h
    exact .aside rfl rfl

theorem run_cons {k after : Crowd T M} {m : Move T M} {ms : List (Move T M)}
    {notices : List (Notice M)} (h : k.run (m :: ms) = some (after, notices)) :
    ∃ next first rest, k.move m = some (next, first) ∧ next.run ms = some (after, rest) ∧
      notices = first ++ rest := by
  simp only [run] at h
  cases hm : k.move m with
  | none =>
    rw [hm] at h
    cases h
  | some p =>
    obtain ⟨next, first⟩ := p
    simp only [hm] at h
    cases hr : next.run ms with
    | none =>
      rw [hr] at h
      cases h
    | some q =>
      rw [hr] at h
      cases h
      exact ⟨next, first, q.2, rfl, hr, rfl⟩

/-- The steps of a client that nobody disturbs make a whole request. -/
theorem run_alone {k : Crowd T M} {client context : Nat} (hout : k.inside client = none)
    (haccept : k.directory.accept (k.occasion context) = .ok ()) (r : Request M) :
    k.run [.enter client context r, .finish client] =
      some ({ k with directory := (k.directory.run (k.occasion context) r).state },
        [.accepted client r,
          .served client r (k.directory.run (k.occasion context) r).result]) := by
  have hback : Function.update (Function.update k.inside client (some r)) client none =
      k.inside := by
    rw [Function.update_idem, ← hout, Function.update_eq_self]
  simp [run, move, hout, haccept, hback, Directory.run]

/-! ## Requests that are refused -/

/-- The moves without those by which a request is refused. -/
def heard (k : Crowd T M) : List (Move T M) → List (Move T M)
  | [] => []
  | m :: ms =>
    match k.move m with
    | none => m :: ms
    | some (next, notices) =>
      if notices.any Notice.isRefused then heard next ms else m :: heard next ms

/-- A request that is refused might as well not have been made. -/
theorem run_heard {k after : Crowd T M} {ms : List (Move T M)} {notices : List (Notice M)}
    (h : k.run ms = some (after, notices)) :
    k.run (k.heard ms) = some (after, notices.filter (! ·.isRefused)) := by
  induction ms generalizing k notices with
  | nil =>
    cases h
    rfl
  | cons m ms ih =>
    obtain ⟨next, first, rest, hm, hr, rfl⟩ := run_cons h
    have hrest := ih hr
    simp only [heard, hm]
    cases change_of_move hm with
    | refused client request f => simpa [Notice.isRefused] using hrest
    | accepted request houtside => simp [Notice.isRefused, run, hm, hrest]
    | served hinside => simp [Notice.isRefused, run, hm, hrest]
    | aside hentries hinside => simp [run, hm, hrest]

/-! ## Requests that are served -/

/-- What comes of a run is what comes of the bodies one after another. -/
theorem inTurn_of_run {k after : Crowd T M} {ms : List (Move T M)} {notices : List (Notice M)}
    (h : k.run ms = some (after, notices)) :
    (k.directory.inTurn ((served notices).map Prod.snd)).1 = answers notices ∧
      (k.directory.inTurn ((served notices).map Prod.snd)).2.entries =
        after.directory.entries := by
  induction ms generalizing k notices with
  | nil =>
    cases h
    exact ⟨rfl, rfl⟩
  | cons m ms ih =>
    obtain ⟨next, first, rest, hm, hr, rfl⟩ := run_cons h
    obtain ⟨hanswers, hentries⟩ := ih hr
    cases change_of_move hm with
    | refused client request f => exact ⟨hanswers, hentries⟩
    | accepted request houtside => exact ⟨hanswers, hentries⟩
    | served hinside =>
      exact ⟨congrArg (List.cons _) hanswers, hentries⟩
    | aside hsame hinside =>
      obtain ⟨h1, h2⟩ := Directory.inTurn_congr hsame ((served rest).map Prod.snd)
      exact ⟨h1.symm.trans hanswers, h2.symm.trans hentries⟩

/-- Each client is served what it was accepted with, in the order in which it came. -/
theorem clients_of_run {k after : Crowd T M} {ms : List (Move T M)} {notices : List (Notice M)}
    (h : k.run ms = some (after, notices)) (client : Nat) :
    (k.inside client).toList ++ ofClient client (accepted notices) =
      ofClient client (served notices) ++ (after.inside client).toList := by
  induction ms generalizing k notices with
  | nil =>
    cases h
    simp [accepted, served, ofClient]
  | cons m ms ih =>
    obtain ⟨next, first, rest, hm, hr, rfl⟩ := run_cons h
    have hrest := ih hr
    cases change_of_move hm with
    | refused c request f => exact hrest
    | @accepted c request houtside =>
      by_cases hc : c = client
      · subst hc
        simpa [accepted, served, ofClient, houtside] using hrest
      · simpa [accepted, served, ofClient, hc,
          Function.update_of_ne (Ne.symm hc)] using hrest
    | @served c request hinside =>
      by_cases hc : c = client
      · subst hc
        simpa [accepted, served, ofClient, hinside] using hrest
      · simpa [accepted, served, ofClient, hc,
          Function.update_of_ne (Ne.symm hc)] using hrest
    | aside hentries hinside =>
      rw [hinside] at hrest
      exact hrest

def Idle (k : Crowd T M) : Prop := ∀ client, k.inside client = none

omit [Timeline T] in
theorem count_ofClient [DecidableEq (Request M)] (client : Nat) (r : Request M)
    (calls : List (Nat × Request M)) :
    (ofClient client calls).count r = calls.count (client, r) := by
  induction calls with
  | nil => rfl
  | cons c calls ih =>
    obtain ⟨other, q⟩ := c
    by_cases hc : other = client
    · subst hc
      by_cases hq : q = r
      · subst hq
        simpa [ofClient] using ih
      · simpa [ofClient, List.count_cons, hq] using ih
    · simpa [ofClient, List.count_cons, hc] using ih

/-- When nobody is left inside, everything that has been accepted has been served. -/
theorem served_of_idle {k after : Crowd T M} {ms : List (Move T M)} {notices : List (Notice M)}
    (h : k.run ms = some (after, notices)) (hk : k.Idle) (hafter : after.Idle) :
    (accepted notices).Perm (served notices) := by
  classical
  -- how often a client makes a request can be counted among its own requests
  refine List.perm_iff_count.mpr fun (client, r) => ?_
  have hclient := clients_of_run h client
  rw [hk client, hafter client, Option.toList_none, List.nil_append, List.append_nil] at hclient
  rw [← count_ofClient, ← count_ofClient, hclient]

/-- What becomes of a run: what becomes of the bodies in the order in which they ran, each client
being served what it was accepted with. -/
structure InTurn (k after : Crowd T M) (notices : List (Notice M)) : Prop where
  answers : (k.directory.inTurn ((served notices).map Prod.snd)).1 = answers notices
  entries : (k.directory.inTurn ((served notices).map Prod.snd)).2.entries =
    after.directory.entries
  clients : ∀ client, (k.inside client).toList ++ ofClient client (accepted notices) =
    ofClient client (served notices) ++ (after.inside client).toList
  complete : k.Idle → after.Idle → (accepted notices).Perm (served notices)

/-- What becomes of the attempts to open one account: the first one succeeds if there is none, and
leaves its user there. -/
structure Contest (email : String) (k after : Crowd T M) (notices : List (Notice M)) : Prop where
  results : Directory.openings email (Crowd.answers notices) =
    Directory.attempts email (k.directory.entries.get? email).isSome
      ((served notices).countP fun call => call.2.saves email)
  complete : k.Idle → after.Idle → Directory.openings email (Crowd.answers notices) =
    Directory.attempts email (k.directory.entries.get? email).isSome
      ((accepted notices).countP fun call => call.2.saves email)
  entry : ∀ before u reply later, u.email = email →
    Crowd.answers notices = before ++ (.save u, .ok reply) :: later →
    (k.directory.inTurn (before.map Prod.fst)).2.entries.get? email = none ∧
      (k.directory.inTurn (before.map Prod.fst ++ [.save u])).2.entries.get? email = some u

theorem inTurn_run {k after : Crowd T M} {ms : List (Move T M)} {notices : List (Notice M)}
    (h : k.run ms = some (after, notices)) : InTurn k after notices where
  answers := (inTurn_of_run h).1
  entries := (inTurn_of_run h).2
  clients := clients_of_run h
  complete := served_of_idle h

theorem openings_of_run {k after : Crowd T M} {ms : List (Move T M)} {notices : List (Notice M)}
    (h : k.run ms = some (after, notices)) (email : String) :
    Directory.openings email (answers notices) =
      Directory.attempts email (k.directory.entries.get? email).isSome
        ((served notices).countP fun call => call.2.saves email) := by
  rw [← (inTurn_of_run h).1, Directory.openings_inTurn, List.countP_map]
  rfl

theorem contest_run {k after : Crowd T M} {ms : List (Move T M)} {notices : List (Notice M)}
    (h : k.run ms = some (after, notices)) (email : String) : Contest email k after notices where
  results := openings_of_run h email
  complete hk hafter := by
    rw [(served_of_idle h hk hafter).countP_eq]
    exact openings_of_run h email
  entry := by
    rintro before u reply later rfl hsplit
    exact Directory.entry_of_inTurn ((inTurn_of_run h).1.trans hsplit)

end Crowd

end Accounts
