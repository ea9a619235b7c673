import Accounts.Proofs.Store.History
import Accounts.Proofs.Store.Office

/-!
Runs of a store. Requests arrive, each under circumstances of its own, and the store may be told to
fail. Each field of an account is what the latest successful request for it has written; nothing
else in the run shows, neither requests that failed nor those about other addresses.
-/
namespace Accounts

variable {T : Type} [Timeline T]

/-- Requests are made of a store, and recorded as they are. -/
def asking : Office T (Occasion T × Request Metadata) (Request Value) where
  deal s matter := (s.run matter.1 matter.2).silent
  record? matter := some matter.2.erase
  isAtomic s matter := (s.isAtomic_run matter.1 matter.2).silent

namespace Chronicle

open History (password? metadata? saved Records)

/-- The store holds what the record says, provided that the metadata that an archive is given are
dictionaries. -/
theorem records_invariant (archive : Bool) :
    asking.Invariant (T := T) (fun matter => archive = true → matter.2.HasDict)
      (fun done s => s.isArchive = archive ∧ Records done s.contents) where
  frame hs h := by
    rw [Repository.isArchive_eq_of_stored hs, Repository.contents_eq_of_stored hs]
    exact h
  deal {done s matter} hdict hr h := by
    obtain ⟨rfl, hrecords⟩ := h
    obtain ⟨reply, hx⟩ := Outcome.result_of_silent hr
    refine ⟨s.isArchive_run matter.1 matter.2, ?_⟩
    rcases s.run_cases matter.1 matter.2 with ⟨f, hf, -⟩ | ⟨reply, -, hb⟩
    · rw [hx] at hf
      cases hf
    · rw [Repository.received_of_hasDict hdict] at hb
      exact History.records_body hrecords hb

/-- Looking an address up gives the password and the metadata that were last written for it, each
by the latest request that wrote it and succeeded; an address is unknown as long as no account has
been opened for it. The store is empty at first. What an archive is given as metadata has to be a
dictionary, since other empty values are read back as one. -/
theorem retrieve_last_written {s : Repository} (hs : s.contents = [])
    {turns : List (Turn (Occasion T × Request Metadata))}
    (ht : ∀ matter, .deal matter ∈ turns → s.isArchive = true → matter.2.HasDict)
    {o : Occasion T} {left : Option T} (hc : o.check = .ok left)
    (hq : (asking.run ⟨s, []⟩ turns).repository.Quiet .find) (email : String) :
    (saved email (asking.run ⟨s, []⟩ turns).done = false →
      ((asking.run ⟨s, []⟩ turns).repository.run o (.retrieve email)).result =
        .error (.unknown email)) ∧
    (saved email (asking.run ⟨s, []⟩ turns).done = true →
      ∃ u, ((asking.run ⟨s, []⟩ turns).repository.run o (.retrieve email)).result =
          .ok (.user u) ∧
        u.email = email ∧
        password? email (asking.run ⟨s, []⟩ turns).done = some u.password ∧
        metadata? email (asking.run ⟨s, []⟩ turns).done = some u.metadata.erase) := by
  have h0 : Records [] s.contents := by
    rw [hs]
    exact History.records_nil
  have hk := ((records_invariant s.isArchive).run (k := ⟨s, []⟩) ⟨rfl, h0⟩ ht).2 email
  rcases Repository.run_retrieve_cases hc hq email with ⟨hg, hr⟩ | ⟨u, hg, hr⟩
  · rw [hg] at hk
    refine ⟨fun _ => hr, ?_⟩
    intro hsaved
    rw [hk.1] at hsaved
    cases hsaved
  · rw [hg] at hk
    refine ⟨?_, fun _ => ⟨u, hr, hk.2⟩⟩
    intro hsaved
    rw [hk.1] at hsaved
    cases hsaved

/-- An account is opened, not opened again, given a password that is lost, then one that is kept,
and other metadata beside a password that does not count. -/
def rewriting : List (Turn (Occasion Moment × Request Metadata)) :=
  [.deal (.anytime, .save ⟨"ann@site.org", .text "first", .dict 0 []⟩),
    .deal (.anytime, .save ⟨"ann@site.org", .text "taken", .dict 0 []⟩),
    .arm .update ⟨.other "AutoReconnect", "lost", none⟩,
    .deal (.anytime, .updatePassword "ann@site.org" (.text "lost")),
    .deal (.anytime, .updatePassword "ann@site.org" (.text "second")),
    .deal (.anytime,
      .updateUser ⟨"ann@site.org", .text "other", .dict 0 [(.text "plan", .atom 1 (.int 2))]⟩)]

theorem retrieve_last_written_rewriting :
    ∃ u, ((asking.run ⟨⟨.archive {}, 0⟩, []⟩ rewriting).repository.run .anytime
          (.retrieve "ann@site.org")).result = .ok (.user u) ∧
      u.password = .text "second" ∧ u.metadata.erase = .dict () [(.text "plan", .atom () (.int 2))]
      := by
  have ht : ∀ matter, .deal matter ∈ rewriting →
      Repository.isArchive ⟨.archive {}, 0⟩ = true → matter.2.HasDict := by
    intro matter hm _
    simp only [rewriting, List.mem_cons, List.not_mem_nil, or_false, reduceCtorEq, false_or,
      Turn.deal.injEq] at hm
    rcases hm with rfl | rfl | rfl | rfl | rfl <;> trivial
  have hc : Occasion.anytime.check = .ok none := rfl
  have hq : (asking.run ⟨⟨.archive {}, 0⟩, []⟩ rewriting).repository.Quiet .find := rfl
  obtain ⟨-, h⟩ := retrieve_last_written (s := ⟨.archive {}, 0⟩) rfl ht hc hq "ann@site.org"
  obtain ⟨u, hr, -, hp, hm⟩ := h rfl
  exact ⟨u, hr, (Option.some.inj hp).symm, (Option.some.inj hm).symm⟩

end Chronicle

end Accounts
