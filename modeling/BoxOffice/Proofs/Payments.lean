import BoxOffice.Proofs.Balances
import BoxOffice.Proofs.Desk.Operation
import BoxOffice.Proofs.Store.Table

/-! The records of payments and the book of funds. A payment is recorded as a whole when its money has
moved, and when it is not recorded its money is where it was. -/
namespace BoxOffice

structure View.Ledger (v : View) : Prop where
  numbered : ∀ {label payment}, v.payments.get? label = some payment →
    ∃ n : Nat, label = .numbered n ∧ n ≤ v.lastPayment
  revenue : ∀ {id total}, v.revenue.get? id = some total → ∃ cents : Nat, total.Worth cents

namespace View
variable {v w : View}

theorem emptyLedger : Tables.empty.view.Ledger :=
  ⟨nofun, nofun⟩

theorem ledgerElsewhere (ledger : v.Ledger) (payments : w.payments = v.payments)
    (count : w.lastPayment = v.lastPayment) (revenue : w.revenue = v.revenue) : w.Ledger where
  numbered stored := by
    rw [count]
    exact ledger.numbered (payments ▸ stored)
  revenue stored := ledger.revenue (revenue ▸ stored)

theorem ledgerNext (ledger : v.Ledger) : v.payments.get? (.numbered (v.lastPayment + 1 : Nat)) = none := by
  cases stored : v.payments.get? (.numbered (v.lastPayment + 1 : Nat)) with
  | none => rfl
  | some payment =>
    obtain ⟨n, same, counted⟩ := ledger.numbered stored
    cases same
    omega

end View

namespace Desk
variable {desk after : Desk Journal} {request : Operation} {edits : List Edit} {funds : Funds}
  {told : List Notice} {answer : Answer} {outcome : Except Failure Answer}

theorem revenueWorth (ledger : desk.view.Ledger) (id : EventId) :
    ∃ cents : Nat, (desk.revenueOf id).Worth cents := by
  unfold revenueOf
  cases stored : desk.view.revenue.get? id with
  | none => exact ⟨0, Decimal.zeroWorth⟩
  | some total => exact ledger.revenue stored

theorem Effect.ledger (effect : desk.Effect request edits funds told answer) (ledger : desk.view.Ledger) :
    (edits.foldl View.edit desk.view).Ledger := by
  cases effect with
  | @paid payer given sum id amount config held giver total funds verified named charged set book priced
      party moved added =>
    obtain ⟨before, worth⟩ := revenueWorth ledger id
    obtain ⟨cents, after, sign⟩ := Decimal.addWorth worth amount.worth added
    obtain ⟨n, rfl⟩ := Int.eq_ofNat_of_zero_le (sign (Int.natCast_nonneg _) (Int.natCast_nonneg _))
    refine ⟨fun {label payment} stored => ?_, fun {other sum} stored => ?_⟩
    · by_cases same : label = .numbered desk.nextPayment
      · exact ⟨_, same, le_rfl⟩
      · obtain ⟨n, is, counted⟩ := ledger.numbered ((Table.getPutOther _ same _).symm.trans stored)
        exact ⟨n, is, Nat.le_succ_of_le counted⟩
    · by_cases same : other = id
      · subst same
        cases (Table.getPutSame _ _ _).symm.trans stored
        exact ⟨n, after⟩
      · exact ledger.revenue ((Table.getPutOther _ same _).symm.trans stored)
  | @ticketTransferred source target given label ticket giver taker =>
    obtain ⟨lists, moved⟩ := View.handedOver desk.view label { ticket with owner := target } given giver
      taker
    rw [moved]
    exact View.ledgerElsewhere ledger rfl rfl rfl
  | _ => exact View.ledgerElsewhere ledger rfl rfl rfl

end Desk

theorem Journal.Reached.ledger {store : Journal} (reached : store.Reached) : store.tables.view.Ledger :=
  reached.keeps View.emptyLedger fun _ ledger effect => effect.ledger ledger

/- Nothing has come of a payment: every balance is worth what it was, the store shows what it showed, and
the log tells of no money that could not be returned. -/
structure Desk.Unpaid (desk : Desk Journal) (cents : Label → Label → Nat) (after : Desk Journal) : Prop where
  balances : after.funds.Worth cents
  view : after.view = desk.view
  calm : desk.Calm after

structure Desk.Recorded (desk : Desk Journal) (payer : Raw) (id : EventId) (amount : Money) (currency : Raw)
    (after : Desk Journal) : Prop where
  fresh : desk.view.payments.get? (.numbered desk.nextPayment) = none
  record : after.view.payments.entries = desk.view.payments.entries ++ [(.numbered desk.nextPayment,
    ⟨.whole desk.nextPayment, id, payer, amount, currency, .held, desk.clock⟩)]
  count : after.view.lastPayment = desk.nextPayment
  listed : after.view.eventPayments = Function.update desk.view.eventPayments id
    (desk.view.eventPayments id ++ [.whole desk.nextPayment])
  grown : ∃ cents : Nat, (desk.revenueOf id).Worth cents ∧
    (cents + amount.cents < 10 ^ 28 → (after.revenueOf id).Worth (cents + amount.cents))
  others : ∀ other ≠ id, after.revenueOf other = desk.revenueOf other

namespace Desk
variable {desk after : Desk Journal} {request : Operation} {cents : Label → Label → Nat} {custody : Label}
  {payer given sum : Raw}

theorem declinedWorth (worth : desk.funds.Worth cents)
    (fits : ∀ held giver, Funds.Fits cents held giver custody)
    (account : Label.ofRaw? desk.escrowAccount = some custody)
    (declined : Escrow.Declined desk payer sum after) : after.funds.Worth cents ∧ desk.Calm after := by
  cases declined with
  | unmoved funds calm => exact ⟨funds ▸ worth, calm⟩
  | @broken config amount failure set charged moves =>
    obtain ⟨held, giver, priced, party, told⟩ := moves
    rw [account] at told
    obtain no | ⟨no, _⟩ := Funds.transferTold worth amount.worth (fits held giver) told <;> cases no
  | @returned config amount moved outcome set charged moves back calm =>
    obtain ⟨held, giver, priced, party, went⟩ := moves
    obtain ⟨held', giver', priced', party', told⟩ := back
    cases priced.symm.trans priced'
    cases account.symm.trans party'
    rw [account] at went
    rw [party] at told
    obtain ⟨book, exact', again⟩ := Funds.transferBack worth amount.worth (fits held giver) went
    cases exact'.symm.trans told
    exact ⟨again, calm rfl⟩

theorem effectRecorded {id : EventId} {amount : Money} {currency : Raw} {total : Decimal}
    (ledger : desk.view.Ledger) (added : (desk.revenueOf id).add amount.toDecimal = .ok total)
    (view : after.view = (desk.paymentEdits payer id amount currency total).foldl View.edit desk.view) :
    desk.Recorded payer id amount currency after where
  fresh := View.ledgerNext ledger
  record := by
    rw [view]
    exact Table.putNew (View.ledgerNext ledger) _
  count := by
    rw [view]
    rfl
  listed := by
    rw [view]
    rfl
  grown := by
    obtain ⟨cents, worth⟩ := revenueWorth ledger id
    refine ⟨cents, worth, fun below => ?_⟩
    have here : after.revenueOf id = total := by
      rw [revenueOf, view]
      exact congrArg (fun found => Option.getD found Decimal.zero) (Table.getPutSame _ _ _)
    have limit : cents + amount.cents < 10 ^ Decimal.precision := below
    obtain ⟨sum, exact', worth'⟩ := Decimal.addExact worth amount.worth (by omega) (by omega) (by omega)
    cases exact'.symm.trans added
    rw [here]
    exact worth'
  others other apart := by
    rw [revenueOf, view]
    exact congrArg (fun found => Option.getD found Decimal.zero) (Table.getPutOther _ apart _)

end Desk

theorem Operation.payDeclined {desk : Desk Journal} (ready : desk.Ready) {payer given sum : Raw}
    {failure : Failure} (failed : ((payForTicket payer given sum).run.perform desk).1 = .error failure)
    (other : failure ≠ .receiverFailed) :
    Escrow.Declined desk payer sum ((payForTicket payer given sum).run.perform desk).2 := by
  have told : ((payForTicket payer given sum).run : Action Journal Answer).Leads desk
      (fun failure after => failure ≠ .receiverFailed → Escrow.Declined desk payer sum after)
      fun _ _ => True :=
    Action.leadsBind (Action.leadsMono (Escrow.payEnds ready payer given sum) (fun _ _ ends => ends.2)
      fun _ _ _ => trivial) fun _ _ _ => Action.leadsPure trivial
  unfold Action.Leads at told
  generalize (payForTicket payer given sum).run.perform desk = ran at told failed ⊢
  obtain ⟨outcome, after⟩ := ran
  obtain rfl : outcome = .error failure := failed
  exact told other

theorem Desk.Ends.paid {desk after : Desk Journal} {payer given sum : Raw} {outcome : Except Failure Answer}
    (ends : desk.Ends (.payForTicket payer given sum) outcome after)
    (taken : (∃ answer, outcome = .ok answer) ∨ outcome = .error .receiverFailed) :
    ∃ edits told answer, desk.Effect (.payForTicket payer given sum) edits after.funds told answer ∧
      after.view = edits.foldl View.edit desk.view := by
  cases ends with
  | refused other => simp [other] at taken
  | found finds => cases finds
  | done effect took => exact ⟨_, _, _, took.funds ▸ effect, took.view⟩
  | unheard effect some early took => exact ⟨_, _, _, took.funds ▸ effect, took.view⟩

/-- Payments and the book of funds stay in step. A payment that fails before it is recorded leaves every
balance at its worth and no trace in the store; one that is recorded has moved exactly its amount. What has
moved into custody can always be moved back. -/
theorem paymentInStep {desk : Desk Journal} (reached : desk.store.Reached) (tame : desk.Tame)
    {cents : Label → Label → Nat} (worth : desk.funds.Worth cents)
    (total : ∀ currency (accounts : Finset Label), ∑ account ∈ accounts, cents currency account < 10 ^ 28)
    {custody : Label} (account : Label.ofRaw? desk.escrowAccount = some custody) (payer given sum : Raw) :
    let ran := (Operation.payForTicket payer given sum).run.perform desk
    (∀ failure, ran.1 = .error failure → failure ≠ .receiverFailed → desk.Unpaid cents ran.2) ∧
    ((∃ answer, ran.1 = .ok answer) ∨ ran.1 = .error .receiverFailed →
      ∃ id amount config held giver, given = .text (EventId.text id) ∧
        Escrow.requireAmount sum = .ok amount ∧ desk.view.escrow = some config ∧
        Label.ofRaw? config.currency = some held ∧ Label.ofRaw? payer = some giver ∧
        desk.Recorded payer id amount config.currency ran.2 ∧ amount.cents ≤ cents held giver ∧
        ran.2.funds.Worth (Funds.moved cents held giver custody amount.cents)) ∧
    ∀ (amount : Money) currency giver moved,
      desk.funds.transfer currency giver (some custody) amount.toDecimal = (.ok true, moved) →
      ∃ back, moved.transfer currency custody (some giver) amount.toDecimal = (.ok true, back) ∧
        back.Worth cents := by
  intro ran
  have ready := reached.ready tame
  have fits (held giver : Label) : Funds.Fits cents held giver custody := total held {giver, custody}
  have ends : desk.Ends (.payForTicket payer given sum) ran.1 ran.2 := Operation.ends ready _
  refine ⟨fun failure failed other => ?_, fun taken => ?_, fun amount currency giver moved went => ?_⟩
  · have declined : Escrow.Declined desk payer sum ran.2 := Operation.payDeclined ready failed other
    obtain ⟨balances, calm⟩ := Desk.declinedWorth worth fits account declined
    rw [failed] at ends
    cases ends with
    | refused _ _ took => exact ⟨balances, took.view, calm⟩
    | unheard => exact absurd rfl other
  · obtain ⟨edits, told, answer, effect, view⟩ := ends.paid taken
    generalize ran.2.funds = funds at effect ⊢
    cases effect with
    | @paid _ _ _ id amount config held giver total _ verified named charged set book priced party moved
        added =>
      rw [account] at moved
      obtain no | ⟨_, ⟨_, enough⟩, worth'⟩ := Funds.transferTold worth amount.worth (fits held giver) moved
      · cases no
      · exact ⟨id, amount, config, held, giver, named, charged, set, priced, party,
          Desk.effectRecorded reached.ledger added view, enough, worth'⟩
  · exact Funds.transferBack worth amount.worth (fits currency giver) went

/- A payment whose record cannot be stored is sent back; where it can be, the payment is taken. -/
theorem paymentInStepGala :
    let opened : Desk Journal := .opened .empty none none .standard (.text "escrow") false true
    let set := ((Operation.setUpEscrow (.text "host") (.text "EUR")).run.perform opened).2
    let funded := { set with funds := Funds.empty.set (.named "EUR") (.named "ann") (.ofInt 10) }
    let broken := { funded with storeFaults := [⟨"add_payment", true⟩] }
    let pay := Operation.payForTicket (.text "ann") (.text "gala") (.text "4")
    let cents (currency account : Label) : Nat :=
      if currency = .named "EUR" ∧ account = .named "ann" then 1000 else 0
    let left := Funds.moved cents (.named "EUR") (.named "ann") (.named "escrow") 400
    ((pay.run.perform broken).1 = .error .writeFailed ∧ broken.Unpaid cents (pay.run.perform broken).2) ∧
      (pay.run.perform funded).1 = .ok (.id 1) ∧
      (∃ amount, Escrow.requireAmount (.text "4") = .ok amount ∧
        funded.Recorded (.text "ann") ⟨"gala", rfl⟩ amount (.text "EUR") (pay.run.perform funded).2) ∧
      (pay.run.perform funded).2.funds.Worth left := by
  intro opened set funded broken pay cents left
  have reached : set.store.Reached :=
    @Journal.Reached.operation opened (.setUpEscrow (.text "host") (.text "EUR")) .empty nofun
  have worth : funded.funds.Worth cents := by
    intro currency account
    simp only [funded, cents, Funds.balanceSet]
    split
    · refine ⟨_, rfl, ?_⟩
      norm_num [Decimal.Finite.Worth, Decimal.Finite.value, Decimal.Finite.size, Decimal.Finite.ofInt]
    · exact Decimal.zeroWorth
  have total (currency : Label) (accounts : Finset Label) :
      ∑ account ∈ accounts, cents currency account < 10 ^ 28 := by
    by_cases euros : currency = .named "EUR"
    · simp only [cents, euros, true_and, Finset.sum_ite_eq']
      split <;> norm_num
    · simp [cents, euros]
  have failed : (pay.run.perform broken).1 = .error .writeFailed := by rfl
  have tame : broken.Tame := by
    intro fault mem
    cases List.mem_singleton.mp mem
    decide
  have unpaid := (@paymentInStep broken reached tame cents worth total (.named "escrow") rfl (.text "ann")
    (.text "gala") (.text "4")).1 _ failed (by simp)
  have paid : (pay.run.perform funded).1 = .ok (.id 1) := by rfl
  have calm : funded.Tame := by
    intro fault mem
    cases mem
  have taken := (@paymentInStep funded reached calm cents worth total (.named "escrow") rfl (.text "ann")
    (.text "gala") (.text "4")).2.1 (.inl ⟨_, paid⟩)
  obtain ⟨⟨_, _⟩, amount, config, held, giver, named, charged, stored, priced, party, recorded, _, moved⟩ := taken
  cases named
  obtain rfl : config = ⟨.text "host", .text "EUR"⟩ := (Option.some.inj stored).symm
  obtain rfl : held = .named "EUR" := (Option.some.inj priced).symm
  obtain rfl : giver = .named "ann" := (Option.some.inj party).symm
  have cents' : amount.cents = 400 := by
    have four : Escrow.requireAmount (.text "4") = .ok ⟨.ofInt 4, rfl⟩ := rfl
    cases four.symm.trans charged
    rfl
  rw [cents'] at moved
  exact ⟨⟨failed, unpaid⟩, paid, ⟨amount, charged, recorded⟩, moved⟩

end BoxOffice
