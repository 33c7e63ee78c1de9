import BoxOffice.Proofs.Desk.Deaf
import BoxOffice.Proofs.Desk.Operation

/-! A request takes effect as a whole or not at all. -/
namespace BoxOffice

theorem Tables.answerView {t u : Tables} (same : t.view = u.view) (c : StoreCall) :
    (t.plan c).1.map c.shown = (u.plan c).1.map c.shown :=
  (planView same c).1

/-- A request that fails has changed nothing that shows, in the records, their orders and the next numbers,
and nobody has been told. Where only a receiver fails, the store and the funds are those of the same
request without broken receivers. -/
theorem requestAllOrNothing {desk : Desk Journal} (reached : desk.store.Reached) (tame : desk.Tame)
    (request : Operation) :
    (∀ failure, (request.run.perform desk).1 = .error failure → failure ≠ .receiverFailed →
      (∀ c : StoreCall, (RecordStore.call c (request.run.perform desk).2.store).1.map c.shown =
        (RecordStore.call c desk.store).1.map c.shown) ∧
      (request.run.perform desk).2.notices = desk.notices) ∧
    ((request.run.perform desk).1 = .error .receiverFailed →
      (request.run.perform desk).2.store =
        (request.run.perform { desk with brokenReceivers := [] }).2.store ∧
      (request.run.perform desk).2.funds =
        (request.run.perform { desk with brokenReceivers := [] }).2.funds) := by
  refine ⟨fun failure failed other => ?_, fun _ => request.runSettles desk⟩
  have ends := request.ends (reached.ready tame)
  generalize request.run.perform desk = ran at failed ends ⊢
  obtain ⟨outcome, after⟩ := ran
  obtain rfl : outcome = .error failure := failed
  cases ends with
  | refused _ _ took =>
    exact ⟨fun c => Tables.answerView took.view c, by simpa using took.notices⟩
  | unheard => exact absurd rfl other

theorem mintAllOrNothing :
    let opened : Desk Journal := .opened .empty none none .standard (.text "escrow") false true
    let request : Operation := .mintTicket (.text "host") (.text "gala") (.text "ann")
    let broken := { opened with storeFaults := [⟨"add_ticket", true⟩] }
    let unheard := { opened with brokenReceivers := ["ticket_minted"] }
    (request.run.perform broken).1 = .error .writeFailed ∧
      (request.run.perform broken).2.notices = broken.notices ∧
      (request.run.perform unheard).1 = .error .receiverFailed ∧
      (request.run.perform unheard).2.store =
        (request.run.perform { unheard with brokenReceivers := [] }).2.store := by
  intro opened request broken unheard
  have failed : (request.run.perform broken).1 = .error .writeFailed := by rfl
  have told : (request.run.perform unheard).1 = .error .receiverFailed := by rfl
  have tame : broken.Tame := by
    intro fault mem
    cases List.mem_singleton.mp mem
    decide
  have first := (@requestAllOrNothing broken .empty tame request).1 _ failed (by simp)
  have second := (@requestAllOrNothing unheard .empty nofun request).2 told
  exact ⟨failed, first.2, told, second.1⟩

end BoxOffice
