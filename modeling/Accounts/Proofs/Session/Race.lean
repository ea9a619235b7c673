import Accounts.Proofs.Service.Atomicity
import Accounts.Proofs.Store.Crowd
import Accounts.Session.Run

/-!
Races for one account. Clients that do nothing but open the same account, under a live context and
while nothing fails, are told the same however their steps interleave, and the same as those that
come one after another.
-/
namespace Accounts

variable {M T : Type}

/-! ## What is reported -/

/-- How the result of an attempt to open an account is reported. -/
def Session.reported {α : Type} : Except Failure α → String
  | .ok _ => "saved"
  | .error f => f.name

/-- What so many attempts report, when there is an account already or not. -/
def Session.reports : Bool → Nat → List String
  | _, 0 => []
  | false, n + 1 => "saved" :: .replicate n "ConflictError"
  | true, n + 1 => .replicate (n + 1) "ConflictError"

theorem Session.map_reported_attempts (email : String) (present : Bool) (n : Nat) :
    (Directory.attempts email present n : List (Except Failure (Reply M))).map reported =
      reports present n := by
  cases n with
  | zero => rfl
  | succ n =>
    cases present with
    | false => exact congrArg (List.cons _) (List.map_replicate ..)
    | true => exact List.map_replicate ..

/-! ## Races among clients -/

namespace Move

/-- The move belongs to an attempt to open one account under one context. -/
def Races (context : Nat) (email : String) : Move T M → Prop
  | .enter _ c request => c = context ∧ request.saves email = true
  | .finish _ => True
  | _ => False

/-- An attempt begins. -/
def begins : Move T M → Bool
  | .enter .. => true
  | _ => false

end Move

/-- A body does not change what the directory says of itself. -/
@[simp] theorem Directory.accept_perform [Timeline T] (d : Directory M) (r : Request M)
    (o : Occasion T) : (d.perform r).2.accept o = d.accept o := by
  unfold perform
  cases body d.entries r <;> rfl

namespace Crowd

variable [Timeline T] {context : Nat} {email : String}

/-- An attempt that begins while nothing fails is accepted, and nothing fails afterwards. -/
theorem accepted_of_race {k next : Crowd T M} {m : Move T M} {notices : List (Notice M)}
    (hlive : k.directory.accept (k.occasion context) = .ok ()) (hm : m.Races context email)
    (h : k.move m = some (next, notices)) :
    next.directory.accept (next.occasion context) = .ok () ∧
      (accepted notices).length = (if m.begins then 1 else 0) ∧
      ∀ call ∈ accepted notices, call.2.saves email = true := by
  cases m with
  | enter client c request =>
    obtain ⟨rfl, hs⟩ := hm
    simp only [move] at h
    cases hin : k.inside client with
    | some r =>
      rw [hin] at h
      cases h
    | none =>
      simp only [hin, hlive] at h
      cases h
      exact ⟨hlive, rfl, by simpa [accepted] using hs⟩
  | finish client =>
    simp only [move] at h
    cases hin : k.inside client with
    | none =>
      rw [hin] at h
      cases h
    | some request =>
      simp only [hin] at h
      cases h
      exact ⟨by simpa [occasion] using hlive, rfl, by simp [accepted]⟩
  | create requested parent => exact hm.elim
  | cancel c => exact hm.elim
  | advance time => exact hm.elim
  | failWith message => exact hm.elim

/-- While nothing fails, every attempt is accepted. -/
theorem accepted_of_races {k after : Crowd T M} {ms : List (Move T M)} {notices : List (Notice M)}
    (hlive : k.directory.accept (k.occasion context) = .ok ())
    (hms : ∀ m ∈ ms, m.Races context email) (h : k.run ms = some (after, notices)) :
    (accepted notices).length = ms.countP Move.begins ∧
      ∀ call ∈ accepted notices, call.2.saves email = true := by
  induction ms generalizing k notices with
  | nil =>
    cases h
    exact ⟨rfl, by simp [accepted]⟩
  | cons m ms ih =>
    obtain ⟨next, first, rest, hm, hr, rfl⟩ := run_cons h
    obtain ⟨hlive', hone, hsaves⟩ := accepted_of_race hlive (hms m List.mem_cons_self) hm
    obtain ⟨hlength, hrest⟩ := ih hlive' (fun m' hm' => hms m' (List.mem_cons_of_mem m hm')) hr
    rw [accepted_append]
    refine ⟨?_, ?_⟩
    · rw [List.length_append, hone, hlength, List.countP_cons, Nat.add_comm]
    · intro call hcall
      rcases List.mem_append.mp hcall with hcall | hcall
      · exact hsaves call hcall
      · exact hrest call hcall

/-- Racing clients are told the same however their steps interleave. -/
theorem reports_of_races {k after : Crowd T M} {ms : List (Move T M)} {notices : List (Notice M)}
    (hlive : k.directory.accept (k.occasion context) = .ok ()) (hk : k.Idle) (hafter : after.Idle)
    (hms : ∀ m ∈ ms, m.Races context email) (h : k.run ms = some (after, notices)) :
    (answers notices).map (fun a => Session.reported a.2) =
      Session.reports (k.directory.entries.get? email).isSome (ms.countP Move.begins) := by
  obtain ⟨hlen, hsaves⟩ := accepted_of_races hlive hms h
  have hanswers : ∀ a ∈ answers notices, a.1.saves email = true := by
    intro a ha
    have hmem : a.1 ∈ (served notices).map Prod.snd := by
      rw [← k.directory.map_fst_inTurn ((served notices).map Prod.snd), (inTurn_of_run h).1]
      exact List.mem_map_of_mem ha
    obtain ⟨call, hcall, hrequest⟩ := List.mem_map.mp hmem
    rw [← hrequest]
    exact hsaves call ((served_of_idle h hk hafter).mem_iff.mpr hcall)
  have hcount : (accepted notices).countP (fun call => call.2.saves email) =
      ms.countP Move.begins := by
    rw [List.countP_eq_length.mpr hsaves, hlen]
  have hresults := (contest_run h email).complete hk hafter
  rw [hcount, Directory.openings, List.filter_eq_self.mpr hanswers] at hresults
  rw [← Session.map_reported_attempts (M := M), ← hresults, List.map_map]
  rfl

end Crowd

/-! ## Races one after another -/

namespace Session

variable [Timeline T]

/-- What comes of saving a user in a directory that accepts it. -/
theorem runDirectory_save {d : Directory Metadata} {o : Occasion T} (h : d.accept o = .ok ())
    (supply : NodeId) (u : User Metadata) :
    ∃ e, (Repository.runDirectory d supply o (.save u)).state.backend = .directory e ∧
      e.accept o = .ok () ∧ (e.entries.get? u.email).isSome = true ∧
      reported (Repository.runDirectory d supply o (.save u)).result =
        if (d.entries.get? u.email).isSome then "ConflictError" else "saved" := by
  have hrun : d.run o (.save (u.copy supply).1) =
      ⟨(d.perform (.save (u.copy supply).1)).1, (d.perform (.save (u.copy supply).1)).2, []⟩ := by
    simp only [Directory.run, h]
  have hemail : (u.copy supply).1.email = u.email := rfl
  refine ⟨(d.perform (.save (u.copy supply).1)).2, ?_, ?_, ?_⟩
  · rw [(Repository.runDirectory_copied d supply o (.save u)).1]
    simp only [Request.copy, hrun]
  · rw [Directory.accept_perform, h]
  · simp only [Repository.runDirectory, Request.copy, hrun]
    rcases d.perform_save (u.copy supply).1 with ⟨hg, hok, hin⟩ | ⟨v, hg, htaken⟩
    · rw [hemail] at hg hin
      simp only [hok, hin, hg]
      exact ⟨rfl, rfl⟩
    · rw [hemail] at hg
      simp only [htaken, hg]
      exact ⟨rfl, rfl⟩

/-- Those who save one user one after another report the same. -/
theorem race_directory {o : Occasion T} (u : User Metadata) (n : Nat) {s : Repository}
    {d : Directory Metadata} (hs : s.backend = .directory d) (h : d.accept o = .ok ()) :
    (race o u n s).1 = reports (d.entries.get? u.email).isSome n := by
  induction n generalizing s d with
  | zero => rfl
  | succ n ih =>
    have hrun : s.run o (.save u) = Repository.runDirectory d s.supply o (.save u) := by
      simp only [Repository.run, hs]
    obtain ⟨e, hbackend, haccept, hthere, hword⟩ := runDirectory_save h s.supply u
    have hrest := ih hbackend haccept
    have hcons : (race o u (n + 1) s).1 =
        reported (s.run o (.save u)).result :: (race o u n (s.run o (.save u)).state).1 := by
      simp only [race]
      cases (s.run o (.save u)).result <;> rfl
    rw [hcons, hrun, hrest, hthere, hword]
    cases (d.entries.get? u.email).isSome <;> cases n <;> rfl

end Session

/-! ## Concurrent requests -/

namespace Crowd

variable [Timeline T]

/-- However the steps of clients interleave with each other and with what happens around them: those
who are refused leave no trace, the others get what the bodies give one after another, and of those
who open one account the first has it. Racing clients report what those report who come one after
another. -/
theorem requests_interleaved {k after : Crowd T M} {ms : List (Move T M)}
    {notices : List (Notice M)} (h : k.run ms = some (after, notices)) :
    k.run (k.heard ms) = some (after, notices.filter (! ·.isRefused)) ∧
      InTurn k after notices ∧
      (∀ email, Contest email k after notices) ∧
      (∀ context email, k.directory.accept (k.occasion context) = .ok () → k.Idle → after.Idle →
        (∀ m ∈ ms, m.Races context email) →
        (answers notices).map (fun a => Session.reported a.2) =
          Session.reports (k.directory.entries.get? email).isSome (ms.countP Move.begins)) ∧
      ∀ (o : Occasion T) (d : Directory Metadata) (supply : NodeId) (u : User Metadata) (n : Nat),
        d.accept o = .ok () → (Session.race o u n ⟨.directory d, supply⟩).1 =
          Session.reports (d.entries.get? u.email).isSome n :=
  ⟨run_heard h, inTurn_run h, contest_run h,
    fun _ _ hlive hk hafter hms => reports_of_races hlive hk hafter hms h,
    fun _ _ _ u n hlive => Session.race_directory u n rfl hlive⟩

/-- Two clients race for an account; a third looks it up in between, a fourth comes after its
context has been cancelled, and a failure that is shown too late stops nobody. -/
def racing : List (Move Moment Value) :=
  [.create none none,
    .enter 1 0 (.save ⟨"ann@site.org", .text "first", .dict () []⟩),
    .enter 2 0 (.save ⟨"ann@site.org", .text "second", .dict () []⟩),
    .enter 3 0 (.retrieve "ann@site.org"),
    .cancel 0,
    .failWith (some "disk full"),
    .finish 3,
    .enter 4 0 (.save ⟨"ann@site.org", .text "third", .dict () []⟩),
    .finish 2,
    .finish 1]

/-- An empty directory, and nobody inside. -/
def deserted : Crowd Moment Value := { directory := {}, contexts := [], now := .whole 0 }

theorem requests_interleaved_racing :
    ∃ after notices, deserted.run racing = some (after, notices) ∧ InTurn deserted after notices ∧
      Contest "ann@site.org" deserted after notices ∧
      after.directory.entries =
        [("ann@site.org", ⟨"ann@site.org", .text "second", .dict () []⟩)] := by
  obtain ⟨⟨after, notices⟩, hrun⟩ : ∃ out, deserted.run racing = some out :=
    Option.isSome_iff_exists.mp rfl
  have hentries : (deserted.run racing).map (fun out => out.1.directory.entries) =
      some [("ann@site.org", ⟨"ann@site.org", .text "second", .dict () []⟩)] := rfl
  rw [hrun] at hentries
  obtain ⟨-, hturn, hcontest, -⟩ := requests_interleaved hrun
  exact ⟨after, notices, hrun, hturn, hcontest "ann@site.org", Option.some.inj hentries⟩

end Crowd

end Accounts
