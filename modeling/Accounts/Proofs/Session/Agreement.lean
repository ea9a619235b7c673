import Mathlib.Data.List.Forall2
import Accounts.Proofs.Service.Mirror
import Accounts.Proofs.Time.Place
import Accounts.Session.Run

/-!
Two sessions, one with a directory and one with an archive, that take the same steps. Beginning
empty, they answer every step alike and keep the same users after it, as long as the clock shows a
date, no deadline is too large for a double, no failure is put in store and everything they are
given can be put into a document. The archive does what the directory does, and nobody can tell
which of them a session is using.
-/
namespace Accounts

/-! ## Clocks and deadlines -/

/-- A day of a year with four digits is not far from 1970. -/
theorem Date.natAbs_le_of_inRange {days : Int} (h : (ofDays days).inRange = true) :
    days.natAbs ≤ 4000000 := by
  obtain ⟨hlow, hhigh⟩ : 1 ≤ (ofDays days).year ∧ (ofDays days).year ≤ 9999 := by
    simpa [inRange] using h
  simp only [ofDays] at hlow hhigh
  have hera : Int.fdiv (days + 719468) 146097 = (days + 719468) / 146097 :=
    Int.fdiv_eq_ediv_of_nonneg _ (by decide)
  rw [hera] at hlow hhigh
  generalize hz : days + 719468 = z at hlow hhigh
  have hlt := Int.emod_lt_of_pos z (show (0 : Int) < 146097 by decide)
  split at hlow <;> split at hhigh <;> omega

@[simp] theorem Moment.floor?_whole (n : Int) : Timeline.floor? (whole n) = some n := by
  change some (Magnitude.signed (n < 0) (n.natAbs * twoPow 0)) = some n
  by_cases hn : n < 0
  · simp [Magnitude.signed, twoPow, hn, abs_of_neg]
  · simp [Magnitude.signed, twoPow, hn, abs_of_nonneg (not_lt.mp hn)]

/-- A deadline in effect is that of one of the contexts. -/
theorem Contexts.exists_mem_of_deadline? {T : Type} {cs : Contexts T} {id : Nat} {d : T}
    (h : cs.deadline? id = some d) : ∃ c ∈ cs, c.deadline = some d := by
  induction cs with
  | nil => cases h
  | cons c older ih =>
    by_cases hid : id = older.length
    · rw [deadline?, get?, if_pos hid] at h
      exact ⟨c, List.mem_cons_self, h⟩
    · rw [deadline?, get?, if_neg hid] at h
      obtain ⟨c', hc, hd⟩ := ih h
      exact ⟨c', List.mem_cons_of_mem c hc, hd⟩

namespace Occasion

/-- A clock that shows a date can be read as a double. -/
theorem double?_ne_none_of_wallTime? {now : Moment} (h : (wallTime? now).isSome = true) :
    now.double? ≠ none := by
  cases now with
  | real x => exact nofun
  | whole n =>
    have hdays : (Int.fdiv (epoch + n) Date.secondsPerDay).natAbs ≤ 4000000 := by
      apply Date.natAbs_le_of_inRange
      by_contra hrange
      simp [wallTime?, DateTime.ofSeconds, hrange] at h
    have hsmall : n.natAbs < Moment.wholeLimit := by
      have hlimit : 1000000000000 < Moment.wholeLimit := by decide +kernel
      have hdiv : Int.fdiv (epoch + n) Date.secondsPerDay = (epoch + n) / 86400 :=
        Int.fdiv_eq_ediv_of_nonneg _ (by decide)
      rw [hdiv] at hdays
      simp only [epoch] at hdays
      omega
    have hsome := (Moment.double?_whole_isSome_iff n).mpr hsmall
    exact Option.isSome_iff_ne_none.mp hsome

end Occasion

namespace Session

variable {T : Type}

/-! ## Steps that both repositories understand -/

/-- A change that leaves behind a user that a document can hold. -/
def Change.IsStorable : Change → Prop
  | .email _ => True
  | .password v => v.fault? = none
  | .metadata v => v.fault? = none ∧ v.IsDict
  | .part .. | .share .. => False

/-- A password that is not hashed goes into the document as it is. -/
def Ask.IsStorable : Ask → Prop
  | .updatePassword _ password => password.fault? = none
  | _ => True

/-- A step whose data a document can hold, and which neither prepares a failure nor looks behind
the repository. -/
def Step.IsStorable : Step T → Prop
  | .hold _ u => u.IsStorable
  | .change _ c => c.IsStorable
  | .ask _ a => a.IsStorable
  | .advance _ | .create .. | .inquire .. | .look _ | .validate _ => True
  | .equal .. | .failWith _ | .arm .. | .seed _ | .dump => False

/-! ## Sessions that agree -/

/-- Sessions that differ in nothing but the kind of their repository and in the nodes they use. -/
structure Agree (s t : Session T) : Prop where
  now : s.now = t.now
  contexts : s.contexts = t.contexts
  named : s.named = t.named
  hasher : s.hasher = t.hasher
  held : s.held.mapValues User.erase = t.held.mapValues User.erase
  storable : Storable (t.held.mapValues User.erase)
  mirrors : s.repository.Mirrors t.repository

/-- The same value, or errors of the same class, kind and message. -/
def LookAlike : Except Refusal (Answer T) → Except Refusal (Answer T) → Prop
  | .ok a, .ok b => a = b
  | .error r, .error q => r.name = q.name ∧ r.kind? = q.kind? ∧ r.message = q.message
  | _, _ => False

/-- Steps that end in agreement and are answered alike. -/
def Alike (x y : Session T × Result T) : Prop := Agree x.1 y.1 ∧ LookAlike x.2.answer y.2.answer

variable {s t : Session T}

/-- A directory and an archive that are both empty agree. -/
theorem agree_start (now : T) (hasher : Hasher) (wording : List Value → EncodingFault → String) :
    Agree (start now (.directory {}) hasher) (start now (.archive { wording := wording }) hasher) where
  now := rfl
  contexts := rfl
  named := rfl
  hasher := rfl
  held := rfl
  storable := by
    intro email u hu
    cases hu
  mirrors := by
    refine ⟨⟨{}, rfl, rfl⟩, ⟨{ wording := wording }, rfl, rfl⟩, rfl, ?_⟩
    intro email u hu
    cases hu

theorem alike_answer (h : Agree s t) (a : Answer T) : Alike (s.answer a) (t.answer a) := ⟨h, rfl⟩

theorem alike_refuse (h : Agree s t) (r : Refusal) : Alike (s.refuse r) (t.refuse r) :=
  ⟨h, rfl, rfl, rfl⟩

/-- The session after its hasher has drawn a salt, if it draws one. -/
def draw (s : Session T) : Option String → Session T
  | some salt => { s with hasher := s.hasher.withSalt salt }
  | none => s

@[simp] theorem now_draw (s : Session T) (salt : Option String) : (s.draw salt).now = s.now := by
  cases salt <;> rfl

/-- Hashers that draw the same salt go on agreeing. -/
theorem agree_draw (h : Agree s t) (salt : Option String) : Agree (s.draw salt) (t.draw salt) := by
  cases salt with
  | none => exact h
  | some salt => exact { h with hasher := congrArg (Hasher.withSalt salt) h.hasher }

theorem agree_withSupply (h : Agree s t) (i j : NodeId) :
    Agree (s.withSupply i) (t.withSupply j) :=
  { h with mirrors := h.mirrors.withSupply i j }

theorem agree_withRepository (h : Agree s t) {a b : Repository} (hm : a.Mirrors b) :
    Agree { s with repository := a } { t with repository := b } :=
  { h with mirrors := hm }

/-- Users that stand for the same can be held under a name. -/
theorem agree_keep (h : Agree s t) (name : Option String) {u v : User Metadata}
    (he : u.erase = v.erase) (hv : v.erase.IsStorable) : Agree (s.keep name u) (t.keep name v) := by
  cases name with
  | none => exact h
  | some n =>
    refine { h with held := ?_, storable := ?_ }
    · simp only [keep]
      rw [Table.mapValues_put, Table.mapValues_put, h.held, he]
    · simp only [keep]
      rw [Table.mapValues_put]
      exact storable_put h.storable n hv

theorem alike_keepAnswered (h : Agree s t) (name : String) {u v : User Metadata}
    (he : u.erase = v.erase) (hv : v.erase.IsStorable) :
    Alike (s.keepAnswered name u) (t.keepAnswered name v) := by
  unfold keepAnswered
  rw [he]
  exact alike_answer (agree_keep h (some name) he hv) _

/-- What needs a user finds the same user, or none, on both sides. -/
theorem alike_withUser (h : Agree s t) (name : String)
    {f g : User Metadata → Session T × Result T}
    (hfg : ∀ u v, u.erase = v.erase → v.erase.IsStorable → Alike (f u) (g v)) :
    Alike (s.withUser name f) (t.withUser name g) := by
  have hget := congrArg (fun held => held.get? name) h.held
  simp only [Table.get?_mapValues] at hget
  unfold withUser
  cases hs : s.held.get? name with
  | none =>
    cases ht : t.held.get? name with
    | none => exact alike_refuse h _
    | some v =>
      rw [hs, ht] at hget
      cases hget
  | some u =>
    cases ht : t.held.get? name with
    | none =>
      rw [hs, ht] at hget
      cases hget
    | some v =>
      rw [hs, ht] at hget
      have hv := h.storable name v.erase (by rw [Table.get?_mapValues, ht]; rfl)
      exact hfg u v (Option.some.inj hget) hv

/-- Outcomes that are alike are concluded alike. -/
theorem alike_conclude {α γ : Type} {view : α → γ} {Good : γ → Prop} (h : Agree s t)
    {o p : Outcome T Repository α} (hr : SameResult view Good o.result p.result)
    (hm : o.state.Mirrors p.state) {rest rest' : Session T → α → Session T × Answer T}
    (hk : ∀ s' t', Agree s' t' → ∀ a b, view a = view b → Good (view b) →
      Agree (rest s' a).1 (rest' t' b).1 ∧ (rest s' a).2 = (rest' t' b).2) :
    Alike (s.conclude o rest) (t.conclude p rest') := by
  obtain ⟨ro, so, eo⟩ := o
  obtain ⟨rp, sp, ep⟩ := p
  have hst := agree_withRepository h hm
  cases hr with
  | ok hab good => exact hk _ _ hst _ _ hab good
  | error hf =>
    exact ⟨hst, Failure.name_eq_of_withoutCause hf, Failure.kind?_eq_of_withoutCause hf,
      Failure.message_eq_of_withoutCause hf⟩

theorem alike_concludeDone {α γ : Type} {view : α → γ} {Good : γ → Prop} (h : Agree s t)
    {o p : Outcome T Repository α} (hr : SameResult view Good o.result p.result)
    (hm : o.state.Mirrors p.state) : Alike (s.concludeDone o) (t.concludeDone p) :=
  alike_conclude h hr hm fun _ _ hst _ _ _ _ => ⟨hst, rfl⟩

theorem alike_concludeUser (h : Agree s t) (name : Option String)
    {o p : Outcome T Repository (User Metadata)}
    (hr : SameResult User.erase User.IsStorable o.result p.result) (hm : o.state.Mirrors p.state) :
    Alike (s.concludeUser name o) (t.concludeUser name p) := by
  apply alike_conclude h hr hm
  intro s' t' hst u v huv good
  exact ⟨agree_keep hst name huv good, congrArg Answer.user huv⟩

/-! ## Steps -/

/-- A change makes the same of users that stand for the same. -/
theorem alike_changeUser (h : Agree s t) (name : String) {u v : User Metadata}
    (he : u.erase = v.erase) (hv : v.erase.IsStorable) {c : Change} (hc : c.IsStorable) :
    Alike (s.changeUser name u c) (t.changeUser name v c) := by
  obtain ⟨hemail, hp, hm⟩ := User.erase_eq_iff.mp he
  cases c with
  | email e =>
    refine alike_keepAnswered h name ?_ ⟨hv.password, hv.metadata, hv.dict⟩
    exact User.erase_eq_iff.mpr ⟨rfl, hp, hm⟩
  | password p =>
    refine alike_keepAnswered h name ?_ ⟨hc, hv.metadata, hv.dict⟩
    exact User.erase_eq_iff.mpr ⟨hemail, rfl, hm⟩
  | metadata m =>
    refine alike_keepAnswered (agree_withSupply h _ _) name ?_ ?_
    · refine User.erase_eq_iff.mpr ⟨hemail, hp, ?_⟩
      simp only [User.metadata_withMetadata, Tree.erase_build]
    · refine ⟨hv.password, ?_, ?_⟩
      · simpa only [User.erase, User.metadata_withMetadata, Tree.erase_build, Tree.erase_value]
          using hc.1
      · simpa only [User.erase, User.metadata_withMetadata, Tree.erase_build, Tree.erase_value]
          using hc.2
  | part path w | share path source place => exact hc.elim

variable [Timeline T]

/-- Savers of the same user come to the same. -/
theorem race_same {o : Occasion T} (ho : o.IsRegular) {u v : User Metadata}
    (he : u.erase = v.erase) (hv : v.erase.IsStorable) (count : Nat) {r q : Repository}
    (h : r.Mirrors q) :
    (race o u count r).1 = (race o v count q).1 ∧
      (race o u count r).2.1.Mirrors (race o v count q).2.1 := by
  induction count generalizing r q with
  | zero => exact ⟨rfl, h⟩
  | succ n ih =>
    have hsave : (Request.save u).erase = (Request.save v).erase := congrArg Request.save he
    obtain ⟨hr, hm⟩ := Repository.mirrors_run h ho hsave hv
    obtain ⟨hnames, hm'⟩ := ih hm
    refine ⟨?_, hm'⟩
    simp only [race]
    rw [hnames]
    rcases hr.cases with ⟨a, b, ha, hb, -, -⟩ | ⟨f, g, hf, hg, hfg⟩
    · simp only [ha, hb]
    · simp only [hf, hg, Failure.name_eq_of_withoutCause hfg]

/-- A request is answered alike on a date. -/
theorem alike_perform (h : Agree s t) {o : Occasion T} (ho : o.IsRegular)
    {a : Ask} (ha : a.IsStorable) : Alike (s.perform o a) (t.perform o a) := by
  have hasher := h.hasher
  cases a with
  | save user =>
    apply alike_withUser h
    intro u v he hv
    obtain ⟨hr, hm⟩ := Repository.mirrors_run h.mirrors ho
      (r := .save u) (q := .save v) (congrArg Request.save he) hv
    exact alike_concludeDone h hr hm
  | updateUser user =>
    apply alike_withUser h
    intro u v he hv
    obtain ⟨hr, hm⟩ := Repository.mirrors_run h.mirrors ho
      (r := .updateUser u) (q := .updateUser v) (congrArg Request.updateUser he)
      ⟨hv.metadata, hv.dict⟩
    exact alike_concludeDone h hr hm
  | updatePassword email password =>
    obtain ⟨hr, hm⟩ := Repository.mirrors_run h.mirrors ho
      (r := .updatePassword email password) rfl ha
    exact alike_concludeDone h hr hm
  | retrieve email result =>
    obtain ⟨hr, hm⟩ := Service.viewUser_same h.mirrors ho email
    exact alike_concludeUser h result hr hm
  | view email result =>
    obtain ⟨hr, hm⟩ := Service.viewUser_same h.mirrors ho email
    exact alike_concludeUser h result hr hm
  | race user count =>
    apply alike_withUser h
    intro u v he hv
    obtain ⟨hnames, hm⟩ := race_same ho he hv count h.mirrors
    refine ⟨agree_withRepository h hm, ?_⟩
    change Answer.names _ = Answer.names _
    rw [hnames]
  | register user result =>
    apply alike_withUser h
    intro u v he hv
    obtain ⟨hr, hm⟩ := Service.register_same h.mirrors ho s.hasher he hv
    rw [← hasher]
    exact alike_concludeUser h result hr hm
  | serviceUpdateUser user =>
    apply alike_withUser h
    intro u v he hv
    obtain ⟨hr, hm⟩ := Service.updateUser_same h.mirrors ho he hv
    exact alike_concludeDone h hr hm
  | serviceUpdatePassword email password =>
    obtain ⟨hr, hm⟩ := Service.updatePassword_same h.mirrors ho s.hasher email password
    simp only [perform, ← hasher]
    exact alike_concludeDone h hr hm
  | login email password =>
    obtain ⟨hr, hm⟩ := Service.login_same h.mirrors ho s.hasher email password
    simp only [perform, ← hasher]
    apply alike_conclude h hr hm
    intro s' t' hst a b hab _
    exact ⟨hst, congrArg Answer.truth hab⟩

theorem alike_create (h : Agree s t) (name : String) (origin : Origin T) :
    Alike (s.create name origin) (t.create name origin) := by
  have hadd : ∀ (requested : Option T) (parent : Option Nat),
      Agree (s.addContext name requested parent) (t.addContext name requested parent) := by
    intro requested parent
    refine { h with contexts := ?_, named := ?_ }
    · simp only [addContext, h.contexts]
    · simp only [addContext, h.contexts, h.named]
  have hdeadline : ∀ (requested : Option T) (parent : Option Nat),
      Alike (s.addDeadline name requested parent) (t.addDeadline name requested parent) := by
    intro requested parent
    have hst := hadd requested parent
    simp only [addDeadline]
    rw [hst.contexts, h.contexts]
    exact alike_answer hst _
  have hparent : ∀ p, s.parent p = t.parent p := by
    intro p
    cases p with
    | none => rfl
    | some n => simp only [parent, h.named]
  cases origin with
  | background => exact alike_answer (hadd none none) _
  | timeout seconds p =>
    simp only [create, hparent, h.now]
    cases t.parent p with
    | error r => exact alike_refuse h r
    | ok id =>
      simp only
      cases Timeline.add? t.now seconds with
      | none => exact alike_refuse h _
      | some d => exact hdeadline _ _
  | deadline d p =>
    simp only [create, hparent]
    cases t.parent p with
    | error r => exact alike_refuse h r
    | ok id => exact hdeadline _ _

theorem alike_inquire (h : Agree s t) (id : Nat) (inquiry : Inquiry) :
    Alike (s.inquire id inquiry) (t.inquire id inquiry) := by
  have hmoment : ∀ m : Except ContextError (Option T),
      Alike (s.answerMoment m) (t.answerMoment m) := by
    intro m
    cases m with
    | ok a => exact alike_answer h _
    | error e => exact alike_refuse h _
  cases inquiry with
  | cancel =>
    have hst : Agree { s with contexts := s.contexts.cancel id }
        { t with contexts := t.contexts.cancel id } :=
      { h with contexts := congrArg (Contexts.cancel id) h.contexts }
    exact alike_answer hst _
  | isCancelled =>
    simp only [inquire, h.contexts]
    exact alike_answer h _
  | deadline =>
    simp only [inquire, h.contexts]
    exact alike_answer h _
  | remaining =>
    simp only [inquire, h.contexts, h.now]
    exact hmoment _
  | check =>
    simp only [inquire, h.contexts, h.now]
    exact hmoment _

/-- The clock shows a date. -/
def Dated (s : Session T) : Prop := (Occasion.wallTime? s.now).isSome = true

/-- Whatever is asked is asked on a regular occasion. -/
def IsRegular (s : Session T) : Prop := ∀ id, (s.occasion id).IsRegular

/-- One step keeps sessions in agreement and is answered alike. -/
theorem alike_step (h : Agree s t) (hd : s.IsRegular) {step : Step T} (hs : step.IsStorable) :
    Alike (s.step step) (t.step step) := by
  cases step with
  | advance time =>
    simp only [Session.step, h.now]
    cases Timeline.add? t.now time with
    | none => exact alike_refuse h _
    | some now =>
      have hst : Agree { s with now := now } { t with now := now } := { h with now := rfl }
      exact alike_answer hst _
  | create name origin => exact alike_create h name origin
  | inquire context inquiry =>
    simp only [Session.step, h.named]
    cases t.named.get? context with
    | none => exact alike_refuse h _
    | some id => exact alike_inquire h id inquiry
  | hold name u =>
    have hb : ∀ supply, (u.build supply).1.erase = u := fun supply => User.erase_build supply u
    refine alike_keepAnswered (agree_withSupply h _ _) name ?_ ?_
    · exact (hb _).trans (hb _).symm
    · exact (hb _).symm ▸ hs
  | change user c =>
    apply alike_withUser h
    intro u v he hv
    exact alike_changeUser h user he hv hs
  | look user =>
    apply alike_withUser h
    intro u v he hv
    rw [he]
    exact alike_answer h _
  | validate user =>
    apply alike_withUser h
    intro u v he hv
    obtain ⟨hemail, hp, -⟩ := User.erase_eq_iff.mp he
    have hval : u.validate = v.validate := by
      simp only [User.validate, hemail, hp]
    rw [hval]
    cases v.validate with
    | error f => exact alike_refuse h _
    | ok _ => exact alike_answer h _
  | ask context a =>
    simp only [Session.step, h.named]
    cases t.named.get? context with
    | none => exact alike_refuse h _
    | some id =>
      have ho : s.occasion id = t.occasion id := by
        simp only [occasion, h.now, h.contexts]
      have hregular := hd id
      rw [ho] at hregular
      simp only [ho]
      exact alike_perform h hregular hs
  | equal first second => exact hs.elim
  | failWith message => exact hs.elim
  | arm m e => exact hs.elim
  | seed document => exact hs.elim
  | dump => exact hs.elim

/-! ## Runs -/

/-- All steps, each with the salt that is drawn for it. -/
def runDrawing (s : Session T) : List (Option String × Step T) → List (Session T × Result T)
  | [] => []
  | (salt, step) :: steps => (s.draw salt).step step :: runDrawing ((s.draw salt).step step).1 steps

/-- Without new salts this is a plain run. -/
theorem runDrawing_none (s : Session T) (steps : List (Step T)) :
    s.runDrawing (steps.map fun step => (none, step)) = s.run steps := by
  induction steps generalizing s with
  | nil => rfl
  | cons step steps ih =>
    simp only [List.map_cons, runDrawing, run, draw]
    rw [ih]

/-- Sessions in agreement are answered alike throughout, and keep the same users after every step.
-/
theorem alike_run (h : Agree s t) (hd : s.IsRegular) {steps : List (Option String × Step T)}
    (hs : ∀ p ∈ steps, p.2.IsStorable) (hds : ∀ x ∈ s.runDrawing steps, x.1.IsRegular) :
    List.Forall₂ Alike (s.runDrawing steps) (t.runDrawing steps) := by
  induction steps generalizing s t with
  | nil => exact .nil
  | cons p ps ih =>
    obtain ⟨salt, step⟩ := p
    have hd' : (s.draw salt).IsRegular := by
      cases salt <;> exact hd
    have hstep := alike_step (agree_draw h salt) hd' (hs (salt, step) List.mem_cons_self)
    refine .cons hstep ?_
    apply ih hstep.1 (hds _ List.mem_cons_self)
    · intro q hq
      exact hs q (List.mem_cons_of_mem _ hq)
    · intro x hx
      exact hds x (List.mem_cons_of_mem _ hx)

/-- The clock shows a date, and every deadline is a double or a whole number that is not too large
for one. -/
structure IsTimed (s : Session Moment) : Prop where
  dated : s.Dated
  deadlines : ∀ c ∈ s.contexts, ∀ d, c.deadline = some d → d.double? ≠ none

theorem IsTimed.isRegular {s : Session Moment} (h : s.IsTimed) : s.IsRegular := by
  intro id
  obtain ⟨time, htime⟩ := Option.isSome_iff_exists.mp h.dated
  refine ⟨⟨time, by simp only [Occasion.wallTime, occasion, htime]⟩, ?_⟩
  refine Occasion.check_ne_overflow (Occasion.double?_ne_none_of_wallTime? h.dated) ?_
  intro d hd
  obtain ⟨c, hc, hdeadline⟩ := Contexts.exists_mem_of_deadline? hd
  exact h.deadlines c hc d hdeadline

/-- Whatever the steps, a session with an empty directory and one with an empty archive give the
same values and the same errors, and keep the same users after each of them, as long as the clock
shows a date and no deadline is too large for a double. -/
theorem directory_archive_alike (now : Moment) (hasher : Hasher)
    (wording : List Value → EncodingFault → String) {steps : List (Option String × Step Moment)}
    (hs : ∀ p ∈ steps, p.2.IsStorable) (hnow : (start now (.directory {}) hasher).Dated)
    (hd : ∀ x ∈ (start now (.directory {}) hasher).runDrawing steps, x.1.IsTimed) :
    List.Forall₂
      (fun x y => LookAlike x.2.answer y.2.answer ∧
        x.1.repository.users = y.1.repository.users)
      ((start now (.directory {}) hasher).runDrawing steps)
      ((start now (.archive { wording := wording }) hasher).runDrawing steps) := by
  have hstart : (start now (.directory {}) hasher).IsTimed := by
    refine ⟨hnow, fun c hc d hd => ?_⟩
    cases List.mem_singleton.mp hc
    cases hd
  have h := alike_run (agree_start now hasher wording) hstart.isRegular hs
    fun x hx => (hd x hx).isRegular
  refine h.imp ?_
  intro x y hxy
  refine ⟨hxy.2, ?_⟩
  rw [Repository.users_eq, Repository.users_eq, hxy.1.mirrors.contents]

/-- An account is opened, opened again in time, opened again under a cancelled context, and used. -/
def openingTwice : List (Option String × Step Moment) :=
  [(none, .hold "u" { email := "a@b.c", password := .text "password", metadata := .empty }),
    (none, .ask "bg" (.register "u" (some "v"))),
    (none, .advance (.whole 60)),
    (none, .create "c" (.timeout (.whole 30) none)),
    (none, .ask "c" (.save "u")),
    (none, .inquire "c" .cancel),
    (none, .ask "c" (.save "u")),
    (none, .ask "bg" (.login "a@b.c" (.text "password")))]

theorem directory_archive_alike_openingTwice :
    (start (.whole 0) (.directory {}) .reversing : Session Moment).Dated ∧
    List.Forall₂
      (fun x y => LookAlike x.2.answer y.2.answer ∧
        x.1.repository.users = y.1.repository.users)
      ((start (.whole 0) (.directory {}) .reversing).runDrawing openingTwice)
      ((start (.whole 0) (.archive {}) .reversing).runDrawing openingTwice) := by
  have hnow : (start (.whole 0) (.directory {}) .reversing : Session Moment).Dated := rfl
  have hd : ∀ x ∈ (start (.whole 0) (.directory {}) .reversing).runDrawing openingTwice,
      (Occasion.wallTime? x.1.now).isSome = true ∧
        ∀ c ∈ x.1.contexts, ∀ d ∈ c.deadline, d.double? ≠ none := by decide +kernel
  refine ⟨hnow, directory_archive_alike (Moment.whole 0) .reversing _ ?_ hnow ?_⟩
  · intro p hp
    simp only [openingTwice, List.mem_cons, List.not_mem_nil, or_false] at hp
    rcases hp with rfl | rfl | rfl | rfl | rfl | rfl | rfl | rfl
    · exact ⟨rfl, rfl, trivial⟩
    all_goals trivial
  · intro x hx
    exact ⟨(hd x hx).1, (hd x hx).2⟩

end Session

end Accounts
