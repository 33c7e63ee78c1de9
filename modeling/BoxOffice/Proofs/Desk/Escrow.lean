import BoxOffice.Proofs.Desk.Rules
import BoxOffice.Proofs.Funds

/-! How the requests to the payment escrow end. -/
namespace BoxOffice.Escrow
open BoxOffice.Action
variable {start desk : Desk Journal}

theorem setUpEnds (ready : start.Ready) (admin currency : Raw) :
    (setUp admin currency).Concludes start (.setUpEscrow admin currency) .config := by
  unfold setUp
  let ends (made : EscrowConfig × Bool) (edits : List Edit) : Prop :=
    if made.2 then start.Effect (.setUpEscrow admin currency) edits start.funds [] (.config made.1)
    else edits = [] ∧ start.Finds (.setUpEscrow admin currency) (.config made.1)
  refine bindBlock ends ready.under rfl (fun first inside => ?_) fun made edits after end' took => ?_
  · refine bindWork inside fun found none next works inside => ?_
    obtain ⟨rfl, rfl⟩ := Works.getEscrow works
    split
    · rename_i config set
      exact leadsPure ⟨[], (if_neg (by simp)).mpr ⟨rfl, .sameEscrow set⟩, inside⟩
    · rename_i free
      refine bindAuthenticate nofun inside.covers fun verified => ?_
      rw [Desk.Verified, inside.kept.verifier] at verified
      refine guardCovered nofun inside.covers fun given => ?_
      refine bindWork inside fun _ edits after works inside => ?_
      obtain rfl := Works.setEscrow works
      have effect := Desk.Effect.escrowSet verified (by simpa using given) free
      exact leadsPure ⟨_, (if_pos rfl).mpr effect, inside⟩
  · obtain ⟨config, fresh⟩ := made
    cases fresh with
    | true => exact bindLog nofun fun after still => leadsPure (.done ((if_pos rfl).mp end') (took.still still))
    | false =>
      obtain ⟨rfl, finds⟩ := (if_neg (by simp)).mp end'
      exact leadsPure (.found finds took)

theorem leadsConfig {fails : Failure → Desk Journal → Prop} (ready : start.Ready)
    (covers : start.Covers fails) :
    config.Leads start fails fun config after => start.view.escrow = some config ∧ start.Still after := by
  unfold config
  refine bindRead ready.tame rfl covers fun found after still answered => ?_
  cases answered
  split
  · rename_i config set
    exact leadsPure ⟨set, still⟩
  · exact leadsThrow (covers _ _ nofun still)

theorem configEnds (ready : start.Ready) : config.Concludes start .getEscrow .config :=
  leadsMono (leadsConfig ready (ready.started.covers .getEscrow)) (fun _ _ h => h)
    fun _ _ ⟨set, still⟩ => .found (.escrow set) (ready.started.still still)

def Moves (book : Funds) (currency source target : Raw) (amount : Decimal)
    (outcome : Except Failure Bool) (after : Funds) : Prop :=
  ∃ held giver, Label.ofRaw? currency = some held ∧ Label.ofRaw? source = some giver ∧
    book.transfer held giver (Label.ofRaw? target) amount = (outcome, after)

/- What the book is like after a payment that is refused: as it was, or left where a transfer broke off,
or as the transfer back left it, of which the log tells whether it was refused. -/
inductive Declined (start : Desk Journal) (payer sum : Raw) (after : Desk Journal) : Prop
  | unmoved (funds : after.funds = start.funds) (calm : start.Calm after)
  | broken {config amount failure} (set : start.view.escrow = some config)
      (charged : requireAmount sum = .ok amount)
      (moves : Moves start.funds config.currency payer start.escrowAccount amount.toDecimal
        (.error failure) after.funds)
  | returned {config amount moved outcome} (set : start.view.escrow = some config)
      (charged : requireAmount sum = .ok amount)
      (moves : Moves start.funds config.currency payer start.escrowAccount amount.toDecimal (.ok true)
        moved)
      (back : Moves moved config.currency start.escrowAccount payer amount.toDecimal outcome after.funds)
      (calm : outcome = .ok true → start.Calm after)

theorem bindLabel {α : Type} {given : Raw} {next : Label → Action Journal α}
    {fails : Failure → Desk Journal → Prop} {holds : α → Desk Journal → Prop}
    (stuck : Label.ofRaw? given = none → desk.Covers fails)
    (later : ∀ label, Label.ofRaw? given = some label → (next label).Leads desk fails holds) :
    ((liftM (Checked.label given) : Action Journal Label) >>= next).Leads desk fails holds := by
  refine bindExcept (fun failure failed => ?_) fun label checked => later label (labelled checked)
  refine stuck ?_ failure desk ((labelSpares given).failure failed) (.refl desk)
  unfold Checked.label at failed
  split at failed
  · cases failed
  · assumption

theorem bindTransfer {α : Type} {currency source target : Raw} {amount : Decimal} {view : View}
    {book : Funds} {told : List Notice} {next : Bool → Action Journal α}
    {fails : Failure → Desk Journal → Prop} {holds : α → Desk Journal → Prop}
    (took : start.Took view book told desk) (calm : start.Calm desk)
    (stuck : desk.keepsFunds = false ∨ Label.ofRaw? currency = none ∨ Label.ofRaw? source = none →
      desk.Covers fails)
    (failing : ∀ failure after funds, failure ≠ .receiverFailed →
      Moves book currency source target amount (.error failure) funds →
      start.Took view funds told after → start.Calm after → fails failure after)
    (later : ∀ moved after funds, desk.keepsFunds = true →
      Moves book currency source target amount (.ok moved) funds →
      start.Took view funds told after → start.Calm after → (next moved).Leads after fails holds) :
    (transfer currency source target amount >>= next).Leads desk fails holds := by
  unfold transfer Action.book
  simp only [bind_assoc]
  refine bindGet ?_
  by_cases keeps : desk.keepsFunds = true
  · rw [if_pos keeps, pure_bind]
    refine bindLabel (fun none => stuck (.inr (.inl none))) fun held priced => ?_
    refine bindLabel (fun none => stuck (.inr (.inr none))) fun giver party => ?_
    obtain rfl := took.funds
    generalize result : desk.funds.transfer held giver (Label.ofRaw? target) amount = moved
    obtain ⟨outcome, funds⟩ := moved
    have moves : Moves desk.funds currency source target amount outcome funds :=
      ⟨held, giver, priced, party, result⟩
    have took' : start.Took view funds told { desk with funds } :=
      ⟨took.toAround.trans ⟨rfl, rfl, rfl, rfl, rfl, rfl, fun _ mem => mem, fun _ mem => mem⟩, took.tame,
        took.idle, took.view, rfl, took.notices⟩
    have calm' : start.Calm { desk with funds } := calm.trans (.same rfl)
    refine bindModify ?_
    cases outcome with
    | error failure =>
      refine leadsBind (leadsThrow ?_) fun _ _ (h : False) => h.elim
      exact failing failure _ funds (Funds.transferFailure result) moves took' calm'
    | ok went =>
      cases went with
      | true => exact later true _ funds keeps moves took' calm'
      | false =>
        change ((log .info .funds _ >>= fun _ => (pure false : Action Journal Bool)) >>= next).Leads _ _ _
        rw [bind_assoc]
        refine bindLog nofun fun after still => ?_
        exact later false after funds keeps moves (took'.still still) (calm'.trans still.calm)
  · rw [if_neg keeps]
    exact throwCovered nofun (stuck (.inl (by simpa using keeps)))

theorem declines {payer given sum : Raw} (took : start.Took start.view start.funds [] desk)
    (calm : start.Calm desk) :
    desk.Covers fun failure after => start.Ends (.payForTicket payer given sum) (.error failure) after ∧
      (failure ≠ .receiverFailed → Declined start payer sum after) :=
  fun failure after other still => ⟨took.covers _ failure after other still,
    fun _ => .unmoved (took.still still).funds (calm.trans still.calm)⟩

theorem leadsGiveBack {α : Type} {currency custody payer : Raw} {amount : Money} {moved : Funds}
    {failure : Failure} (other : failure ≠ .receiverFailed)
    (took : start.Took start.view moved [] desk) (calm : start.Calm desk)
    (keeps : desk.keepsFunds = true) (priced : Label.ofRaw? currency ≠ none)
    (held : Label.ofRaw? custody ≠ none) :
    (giveBack currency custody payer amount >>= fun _ => (throw failure : Action Journal α)).Leads desk
      (fun failure after => failure ≠ .receiverFailed ∧ start.Took start.view after.funds [] after ∧
        ∃ outcome, Moves moved currency custody payer amount.toDecimal outcome after.funds ∧
          (outcome = .ok true → start.Calm after))
      fun _ _ => False := by
  -- What has moved can be asked back, so whatever comes of that the failure that follows is no receiver's.
  unfold giveBack
  rw [bind_assoc]
  refine bindTransfer took calm ?_ ?_ ?_
  · rintro (none | none | none)
    · rw [keeps] at none
      cases none
    · exact absurd none priced
    · exact absurd none held
  · intro failure after funds other moves took calm
    have same := took.funds
    exact ⟨other, same ▸ took, .error failure, same ▸ moves, by simp⟩
  · intro went after funds keeps moves took calm
    cases went with
    | true =>
      refine bindLog nofun fun last still => leadsThrow ?_
      have took := took.still still
      have same := took.funds
      exact ⟨other, same ▸ took, .ok true, same ▸ moves, fun _ => calm.trans still.calm⟩
    | false =>
      obtain rfl := took.funds
      exact bindModify (leadsThrow ⟨other, took.logged _, .ok false, moves, by simp⟩)

theorem leadsRecord (payer : Raw) (id : EventId) (amount : Money) (currency : Raw)
    (under : desk.Under [] desk) :
    (record payer id amount currency).Leads desk desk.Refuses fun made after => desk.Under [] after ∧
      made.1 = desk.nextPayment ∧ (desk.revenueOf id).add amount.toDecimal = .ok made.2 ∧
      after.view = (desk.paymentEdits payer id amount currency made.2).foldl View.edit desk.view := by
  let ends (made : Int × Decimal) (view : View) : Prop := made.1 = desk.nextPayment ∧
    (desk.revenueOf id).add amount.toDecimal = .ok made.2 ∧
    view = (desk.paymentEdits payer id amount currency made.2).foldl View.edit desk.view
  unfold record
  refine leadsBlock ends under rfl fun first under same => ?_
  have inside : desk.Inside desk.view first := ⟨under, same⟩
  refine bindWork inside fun number edits after works inside => ?_
  obtain ⟨rfl, rfl⟩ := Works.nextPaymentId works
  refine bindNow (bindWork inside fun _ edits after works inside' => ?_)
  obtain ⟨label, is, rfl⟩ := Works.addPayment works
  cases is
  refine bindWork inside' fun total edits after works inside' => ?_
  obtain ⟨added, rfl⟩ := Works.addRevenue works
  rw [inside.kept.clock] at inside'
  exact leadsPure ⟨inside'.toUnder, rfl, added, inside'.view⟩

theorem payEnds (ready : start.Ready) (payer given sum : Raw) :
    (pay payer given sum).Leads start
      (fun failure after => start.Ends (.payForTicket payer given sum) (.error failure) after ∧
        (failure ≠ .receiverFailed → Declined start payer sum after))
      fun id after => start.Ends (.payForTicket payer given sum) (.ok (.id id)) after := by
  have covers := @declines start start payer given sum ready.started (.same rfl)
  unfold pay
  refine bindAuthenticate nofun covers fun verified => ?_
  refine bindEventId nofun covers fun id named => ?_
  refine bindCheck (amountSpares sum) covers fun amount charged => ?_
  refine leadsBind (leadsConfig ready covers) fun config here ⟨set, still⟩ => ?_
  refine bindOpening (covers.still still) fun opened still' => ?_
  have still := still.trans still'
  refine bindGet ?_
  rw [still.escrowAccount]
  refine bindTransfer (ready.started.still still) still.calm (fun _ => covers.still still) ?_ ?_
  · intro failure after funds other moves took calm
    refine ⟨.refused other (fun pays => absurd rfl (pays _ _ _)) (by rw [took.funds]; exact took), fun _ => ?_⟩
    exact .broken set charged (by rw [took.funds]; exact moves)
  · intro went after funds keeps moves took calm
    cases went with
    | false =>
      have same : funds = start.funds := by
        obtain ⟨held, giver, _, _, result⟩ := moves
        exact Funds.transferRefused result
      subst same
      refine bindLog nofun fun after still => throwCovered nofun ?_
      exact declines (took.still still) (calm.trans still.calm)
    | true =>
      have moved := moves
      obtain ⟨held, giver, priced, party, result⟩ := moves
      obtain ⟨account, left, total, custody, _⟩ := Funds.transferMoved result
      have under : after.Under [] after := .refl took.tame took.idle
      refine leadsBind (leadsCatch (leadsRecord payer id amount config.currency under)
        fun failure last refuses => ?_) fun made last ⟨under, number', added, view⟩ => ?_
      · have took' := took.under refuses.under
        rw [refuses.view, took.view] at took'
        have keeps' : last.keepsFunds = true := by
          rw [took'.keepsFunds, ← still.keepsFunds]
          exact keeps
        refine leadsMono (leadsGiveBack refuses.other took' (calm.trans refuses.under.kept.calm) keeps'
          (by simp [priced]) (by simp [custody])) ?_ fun _ _ (h : False) => h.elim
        rintro failure after ⟨other, took, outcome, back, calm⟩
        exact ⟨.refused other (fun pays => absurd rfl (pays _ _ _)) took,
          fun _ => .returned set charged moved back calm⟩
      · obtain ⟨number, total⟩ := made
        dsimp only at number' added view
        rw [Desk.nextPayment, took.view] at number'
        subst number'
        rw [Desk.revenueOf, took.view] at added
        have took' := took.under under
        rw [view, Desk.paymentEdits, Desk.nextPayment, took.view, took.clock] at took'
        have keeps' : start.keepsFunds = true := by
          rw [← still.keepsFunds]
          exact keeps
        have effect := Desk.Effect.paid verified named charged set keeps' priced party result added
        refine bindLog nofun fun after still => bindNotify (took'.still still) (fun after took => ?_)
          fun after took => leadsPure (.done effect took)
        exact ⟨.unheard effect (by simp) (List.prefix_refl _) took, fun other => absurd rfl other⟩

theorem paymentEnds (ready : start.Ready) (given : Raw) :
    (payment given).Concludes start (.getPayment given) .payment := by
  unfold payment
  refine bindLook ready.started (fun _ => rfl) (ready.started.covers _) fun found after works took => ?_
  obtain ⟨label, named, rfl, _⟩ := Works.getPayment works
  split
  · rename_i payment stored
    exact leadsPure (.found (.payment named stored) took)
  · exact leadsThrow (took.covers _ _ _ nofun (.refl _))

theorem revenueEnds (ready : start.Ready) (given : Raw) :
    (revenue given).Concludes start (.getEventRevenue given) .amount := by
  unfold revenue
  refine bindEventId nofun (ready.started.covers _) fun id named => ?_
  rw [← bind_pure (call _)]
  refine bindLook ready.started (fun _ => rfl) (ready.started.covers _) fun revenue after works took => ?_
  obtain ⟨rfl, _⟩ := Works.getRevenue works
  exact leadsPure (.found (.revenue named) took)

theorem eventPaymentsEnds (ready : start.Ready) (given : Raw) :
    (eventPayments given).Concludes start (.getEventPayments given) .values := by
  unfold eventPayments
  refine bindEventId nofun (ready.started.covers _) fun id named => ?_
  rw [← bind_pure (call _)]
  refine bindLook ready.started (fun _ => rfl) (ready.started.covers _) fun ids after works took => ?_
  obtain ⟨rfl, _⟩ := Works.listEventPayments works
  exact leadsPure (.found (.eventPayments named) took)

end BoxOffice.Escrow
