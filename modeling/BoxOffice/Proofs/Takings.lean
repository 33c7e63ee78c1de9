import Mathlib
import BoxOffice.Proofs.Desk.Growth
import BoxOffice.Proofs.Desk.Quiet
import BoxOffice.Proofs.Payments
import BoxOffice.Proofs.Store.Series

/-! What has been taken in payments. The number, the record, the list of the event and the revenue of a
payment are kept apart from one another, and whatever interrupts the requests they tell the same story. -/
namespace BoxOffice

def Payment.sum (payments : List Payment) : Except Decimal.Fault Decimal :=
  payments.foldlM (fun total payment => total.add payment.amount.toDecimal) .zero

def Payment.cents (payments : List Payment) : Nat :=
  (payments.map fun payment => payment.amount.cents).sum

theorem Payment.sumConcat (payments : List Payment) (last : Payment) :
    sum (payments ++ [last]) = (sum payments).bind fun total => total.add last.amount.toDecimal := by
  rw [sum, sum, List.foldlM_append]
  cases payments.foldlM (fun total payment => Decimal.add total payment.amount.toDecimal) Decimal.zero with
  | error fault => rfl
  | ok total => exact bind_pure (Decimal.add total last.amount.toDecimal)

theorem Payment.centsConcat (payments : List Payment) (last : Payment) :
    cents (payments ++ [last]) = cents payments + last.amount.cents := by
  simp [cents]

theorem Payment.sumExact (payments : List Payment) (below : cents payments < 10 ^ Decimal.precision) :
    ∃ total, sum payments = .ok total ∧ total.Worth (cents payments) := by
  induction payments using List.reverseRecOn with
  | nil => exact ⟨.zero, rfl, Decimal.zeroWorth⟩
  | append_singleton payments last ih =>
    rw [centsConcat] at below ⊢
    obtain ⟨before, added, worth⟩ := ih (by omega)
    obtain ⟨total, exact', worth'⟩ := Decimal.addExact worth last.amount.worth (by omega) (by omega) (by omega)
    refine ⟨total, ?_, ?_⟩
    · rw [sumConcat, added]
      exact exact'
    · rw [Nat.cast_add]
      exact worth'

namespace View

def paymentsOf (v : View) (id : EventId) : List Payment :=
  v.payments.values.filter fun payment => payment.event = id

structure Takings (v : View) : Prop where
  series : Series Payment.id Payment.event v.payments v.lastPayment v.eventPayments
  held : ∀ payment ∈ v.payments.values, payment.status = .held ∧ payment.amount.isPositive = true
  priced : ∀ payment ∈ v.payments.values, ∃ config, v.escrow = some config ∧
    payment.currency = config.currency
  revenue : ∀ id, Payment.sum (v.paymentsOf id) = .ok ((v.revenue.get? id).getD .zero)

variable {v w : View}

theorem emptyTakings : Tables.empty.view.Takings :=
  ⟨.empty _ _, nofun, nofun, fun _ => rfl⟩

theorem takingsElsewhere (takings : v.Takings) (payments : w.payments = v.payments)
    (count : w.lastPayment = v.lastPayment) (lists : w.eventPayments = v.eventPayments)
    (revenue : w.revenue = v.revenue) (escrow : v.escrow = none ∨ w.escrow = v.escrow) : w.Takings where
  series := by
    rw [payments, count, lists]
    exact takings.series
  held payment mem := takings.held payment (payments ▸ mem)
  priced payment mem := by
    obtain ⟨config, set, own⟩ := takings.priced payment (payments ▸ mem)
    obtain none | same := escrow
    · rw [none] at set
      cases set
    · exact ⟨config, same.trans set, own⟩
  revenue id := by
    rw [paymentsOf, payments, revenue]
    exact takings.revenue id

end View

theorem Escrow.chargedPositive {sum : Raw} {amount : Money} (charged : requireAmount sum = .ok amount) :
    amount.isPositive = true := by
  unfold requireAmount at charged
  split at charged
  · cases charged
  · split at charged <;> cases charged
    assumption

def Operation.payment : Operation → Option (Raw × Raw × Except Failure Money)
  | payForTicket payer given sum => some (payer, given, Escrow.requireAmount sum)
  | _ => none

def View.paid (v : View) : List (Raw × Raw × Except Failure Money) :=
  v.payments.values.map fun payment => (payment.payer, .text payment.event.text, .ok payment.amount)

namespace Desk.Effect
variable {desk : Desk Journal} {request : Operation} {edits : List Edit} {funds : Funds}
  {told : List Notice} {answer : Answer}

theorem takings (effect : desk.Effect request edits funds told answer) (takings : desk.view.Takings) :
    (edits.foldl View.edit desk.view).Takings := by
  cases effect with
  | @paid payer given sum id amount config held giver total funds verified named charged set book priced
      party moved added =>
    let payment : Payment :=
      ⟨.whole desk.nextPayment, id, payer, amount, config.currency, .held, desk.clock⟩
    have put : (desk.view.payments.put (.numbered desk.nextPayment) payment).values =
        desk.view.payments.values ++ [payment] := Table.putNewValues takings.series.fresh payment
    have listed {holds : Payment → Prop} (old : ∀ payment ∈ desk.view.payments.values, holds payment)
        (new : holds payment) :
        ∀ other ∈ (desk.view.payments.put (.numbered desk.nextPayment) payment).values, holds other := by
      intro other mem
      rw [put] at mem
      rcases List.mem_append.mp mem with known | last
      · exact old other known
      · exact List.mem_singleton.mp last ▸ new
    refine ⟨?_, listed takings.held ⟨rfl, Escrow.chargedPositive charged⟩,
      listed takings.priced ⟨config, set, rfl⟩, fun other => ?_⟩
    · exact @Series.next _ _ _ _ _ _ payment takings.series rfl
    · show Payment.sum (((desk.view.payments.put (.numbered desk.nextPayment) payment).values).filter _) =
        .ok (((desk.view.revenue.put id total).get? other).getD .zero)
      rw [put, List.filter_append]
      by_cases here : id = other
      · subst here
        have same : [payment].filter (fun payment => payment.event = id) = [payment] := by simp [payment]
        have before : Payment.sum (desk.view.payments.values.filter fun payment => payment.event = id) =
          .ok (desk.revenueOf id) := takings.revenue id
        rw [same, Payment.sumConcat, before, Table.getPutSame]
        exact added
      · have apart : [payment].filter (fun payment => payment.event = other) = [] := by simp [payment, here]
        rw [apart, List.append_nil, Table.getPutOther _ (Ne.symm here)]
        exact takings.revenue other
  | escrowSet verified given free => exact View.takingsElsewhere takings rfl rfl rfl rfl (.inl free)
  | @ticketTransferred source target given label ticket giver taker =>
    obtain ⟨lists, moved⟩ := View.handedOver desk.view label { ticket with owner := target } given giver
      taker
    rw [moved]
    exact View.takingsElsewhere takings rfl rfl rfl rfl (.inr rfl)
  | _ => exact View.takingsElsewhere takings rfl rfl rfl rfl (.inr rfl)

theorem paidGrows (effect : desk.Effect request edits funds told answer) (takings : desk.view.Takings) :
    (edits.foldl View.edit desk.view).paid = desk.view.paid ++ request.payment.toList := by
  cases effect with
  | @paid payer given sum id amount config held giver total funds verified named charged =>
    subst named
    rw [Operation.payment, charged, View.paid]
    exact (congrArg _ (Table.putNewValues takings.series.fresh _)).trans List.map_append
  | @ticketTransferred source target given label ticket giver taker =>
    obtain ⟨lists, moved⟩ := View.handedOver desk.view label { ticket with owner := target } given giver
      taker
    rw [moved]
    exact (List.append_nil _).symm
  | _ => exact (List.append_nil _).symm

theorem escrowKept (effect : desk.Effect request edits funds told answer) {config : EscrowConfig}
    (set : desk.view.escrow = some config) : (edits.foldl View.edit desk.view).escrow = some config := by
  cases effect with
  | escrowSet verified given free =>
    rw [free] at set
    cases set
  | @ticketTransferred source target given label ticket giver taker =>
    obtain ⟨lists, moved⟩ := View.handedOver desk.view label { ticket with owner := target } given giver
      taker
    rw [moved]
    exact set
  | _ => exact set

end Desk.Effect

theorem Journal.Reached.takings {store : Journal} (reached : store.Reached) : store.tables.view.Takings :=
  reached.keeps View.emptyTakings fun _ takings effect => effect.takings takings

theorem paidGrow : Grows Operation.payment View.paid where
  found finds := by cases finds <;> rfl
  grown reached effect := effect.paidGrows reached.takings

/- The payments on record are these, in this order, and whatever else is kept of payments agrees with the
records. What is answered is answered when nothing disturbs the calls. -/
structure Desk.Recounts (desk : Desk Journal) (paid : List (Raw × Raw × Except Failure Money)) : Prop where
  recorded : desk.view.paid = paid
  ids : desk.view.payments.values.map Payment.id =
    (List.range' 1 paid.length).map fun n : Nat => .whole n
  found : ∀ payment ∈ desk.view.payments.values,
    ((Operation.getPayment payment.id).run.perform { desk with storeFaults := [] }).1 =
      .ok (.payment payment)
  lists : ∀ id, ((Operation.getEventPayments (.text id.text)).run.perform { desk with storeFaults := [] }).1 =
    .ok (.values (desk.view.eventPayments id))
  listed : ∀ id, desk.view.eventPayments id = (desk.view.paymentsOf id).map Payment.id
  once : ∀ payment ∈ desk.view.payments.values, ∀ id,
    (desk.view.eventPayments id).count payment.id = if payment.event = id then 1 else 0
  increasing : ∀ id, ∃ ns : List Nat, desk.view.eventPayments id = ns.map (fun n => .whole n) ∧
    ns.Pairwise (· < ·)
  held : ∀ payment ∈ desk.view.payments.values, payment.status = .held ∧ payment.amount.isPositive = true
  priced : paid ≠ [] → ∃ config, desk.view.escrow = some config ∧
    ∀ payment ∈ desk.view.payments.values, payment.currency = config.currency
  revenue : ∀ id, ∃ total, Payment.sum (desk.view.paymentsOf id) = .ok total ∧
    ((Operation.getEventRevenue (.text id.text)).run.perform { desk with storeFaults := [] }).1 =
      .ok (.amount total) ∧
    (Payment.cents (desk.view.paymentsOf id) < 10 ^ 28 →
      total.Worth (Payment.cents (desk.view.paymentsOf id)))

theorem View.Takings.recounts {desk : Desk Journal} (takings : desk.view.Takings) :
    desk.Recounts desk.view.paid where
  recorded := rfl
  ids := by
    have length : desk.view.paid.length = desk.view.lastPayment := by
      have counted := congrArg List.length takings.series.ids
      simpa [View.paid] using counted
    rw [length]
    exact takings.series.ids
  found payment mem := by
    obtain ⟨n, is, stored⟩ := takings.series.stored mem
    rw [is]
    exact Operation.performPayment rfl rfl stored
  lists id := Operation.performEventPayments rfl id
  listed id := takings.series.listed id
  once payment mem id := takings.series.listedOnce mem id
  increasing id := takings.series.sorted id
  held := takings.held
  priced some := by
    obtain ⟨first, mem⟩ := List.exists_mem_of_ne_nil _ some
    obtain ⟨payment, inside, _⟩ := List.mem_map.mp mem
    obtain ⟨config, set, _⟩ := takings.priced payment inside
    refine ⟨config, set, fun other there => ?_⟩
    obtain ⟨config', set', own⟩ := takings.priced other there
    rw [set] at set'
    cases set'
    exact own
  revenue id := by
    refine ⟨desk.revenueOf id, takings.revenue id, Operation.performRevenue rfl id, fun below => ?_⟩
    obtain ⟨total, added, worth⟩ := Payment.sumExact _ below
    cases added.symm.trans (takings.revenue id)
    exact worth

structure Desk.EscrowFixed (desk : Desk Journal) (config : EscrowConfig) : Prop where
  set : desk.view.escrow = some config
  kept : ∀ admin currency, ((Operation.setUpEscrow admin currency).run.perform desk).2.view = desk.view
  answer : ∀ admin currency answer,
    ((Operation.setUpEscrow admin currency).run.perform desk).1 = .ok answer → answer = .config config
  answered : ∀ admin currency,
    ((Operation.setUpEscrow admin currency).run.perform { desk with storeFaults := [] }).1 =
      .ok (.config config)

theorem Desk.Ready.escrowFixed {desk : Desk Journal} (ready : desk.Ready) {config : EscrowConfig}
    (set : desk.view.escrow = some config) : desk.EscrowFixed config := by
  have ends (admin currency : Raw) := Operation.ends ready (.setUpEscrow admin currency)
  have fresh {admin currency edits funds told answer}
      (effect : desk.Effect (.setUpEscrow admin currency) edits funds told answer) : False := by
    cases effect with
    | escrowSet verified given free =>
      rw [free] at set
      cases set
  refine ⟨set, fun admin currency => ?_, fun admin currency answer answered => ?_,
    fun admin currency => @Operation.performSetUp { desk with storeFaults := [] } rfl _ set admin currency⟩
  · have ends := ends admin currency
    generalize (Operation.setUpEscrow admin currency).run.perform desk = ran at ends ⊢
    obtain ⟨outcome, after⟩ := ran
    cases ends with
    | refused other book took => exact took.view
    | found finds took => exact took.view
    | done effect => exact (fresh effect).elim
    | unheard effect => exact (fresh effect).elim
  · have ends := ends admin currency
    rw [answered] at ends
    cases ends with
    | found finds took =>
      cases finds with
      | sameEscrow set' =>
        cases set.symm.trans set'
        rfl
    | done effect => exact (fresh effect).elim

/-- After any run of ordinary steps from an empty store the payments on record are those that the run took,
in its order, and numbers, lists, currency and revenues agree with them. An escrow that a run has set up is
never set up again. -/
theorem paymentsRecounted {desk : Desk Journal} (empty : desk.store = .empty) (tame : desk.Tame)
    {steps : List Step} (ordinary : ∀ step ∈ steps, step.Ordinary) :
    (Step.takeAll steps desk).2.Recounts
        ((steps.zip (Step.takeAll steps desk).1).filterMap (Step.brought Operation.payment)) ∧
      ∀ config, (Step.takeAll steps desk).2.view.escrow = some config →
        ∀ more : List Step, (∀ step ∈ more, step.Ordinary) →
          (Step.takeAll more (Step.takeAll steps desk).2).2.EscrowFixed config := by
  have reached : desk.store.Reached := empty ▸ .empty
  obtain ⟨reached', tame'⟩ := Step.takeAllReached ordinary reached tame
  constructor
  · have none : desk.view.paid = [] := by
      rw [Desk.view, empty]
      rfl
    have paid := paidGrow.takeAll ordinary reached tame
    rw [none, List.nil_append] at paid
    rw [← paid]
    exact View.Takings.recounts reached'.takings
  · intro config set more ordinary'
    obtain ⟨reached'', tame''⟩ := Step.takeAllReached ordinary' reached' tame'
    refine (reached''.ready tame'').escrowFixed ?_
    let holds (v : View) : Prop := v.escrow = some config
    exact @Step.takeAllKeeps more _ holds ordinary' reached' tame' set
      fun _ set effect => effect.escrowKept set

theorem paymentsRecountedGala :
    let steps : List Step :=
      [.operation (.setUpEscrow (.text "host") (.text "EUR")),
      .deposit (.text "EUR") (.text "ann") (.text "10"),
      .operation (.payForTicket (.text "ann") (.text "gala") (.text "4")),
      .breakStore ⟨"add_event_revenue", true⟩,
      .operation (.payForTicket (.text "ann") (.text "gala") (.text "2.50")),
      .operation (.payForTicket (.text "ann") (.text "fair") (.text "2.50"))]
    let more : List Step := [.operation (.setUpEscrow (.text "eve") (.text "USD"))]
    let desk : Desk Journal := .opened .empty none none .standard (.text "escrow") false true
    let ran := Step.takeAll steps desk
    (∀ step ∈ steps ++ more, step.Ordinary) ∧
      ran.2.Recounts ((steps.zip ran.1).filterMap (Step.brought Operation.payment)) ∧
      ran.2.view.eventPayments ⟨"gala", rfl⟩ = [.whole 1] ∧
      ran.2.view.eventPayments ⟨"fair", rfl⟩ = [.whole 2] ∧
      (Step.takeAll more ran.2).2.EscrowFixed ⟨.text "host", .text "EUR"⟩ := by
  intro steps more desk ran
  have ordinary : ∀ step ∈ steps ++ more, step.Ordinary := by simp [steps, more, Step.Ordinary, entryMethod]
  obtain ⟨first, second⟩ := List.forall_mem_append.mp ordinary
  obtain ⟨recounts, fixed⟩ := @paymentsRecounted desk rfl nofun steps first
  have gala : ran.2.view.eventPayments ⟨"gala", rfl⟩ = [.whole 1] := by decide +kernel
  have fair : ran.2.view.eventPayments ⟨"fair", rfl⟩ = [.whole 2] := by decide +kernel
  have set : ran.2.view.escrow = some ⟨.text "host", .text "EUR"⟩ := by decide +kernel
  exact ⟨ordinary, recounts, gala, fair, fixed _ set more second⟩

end BoxOffice
