import Mathlib
import BoxOffice.Proofs.Takings

/-! What is in custody beside what has been recorded. The balance of the custody account covers whatever has
been recorded for other payers; a payment out of custody itself is recorded too, and moves nothing. -/
namespace BoxOffice

namespace Funds
variable {funds : Funds} {cents : Label → Label → Nat} {currency account giver taker : Label} {sum : Nat}

def paidIn (cents : Label → Label → Nat) (currency account : Label) (sum : Nat) (of other : Label) : Nat :=
  cents of other + if of = currency ∧ other = account then sum else 0

theorem paidInAll (accounts : Finset Label) (of : Label) :
    ∑ other ∈ accounts, paidIn cents currency account sum of other =
      (∑ other ∈ accounts, cents of other) + if of = currency ∧ account ∈ accounts then sum else 0 := by
  unfold paidIn
  rw [Finset.sum_add_distrib]
  by_cases here : of = currency <;> simp [here]

theorem paidInTotal (accounts : Finset Label) (of : Label) :
    ∑ other ∈ accounts, paidIn cents currency account sum of other ≤
      (∑ other ∈ accounts, cents of other) + if of = currency then sum else 0 := by
  rw [paidInAll]
  refine Nat.add_le_add_left ?_ _
  split_ifs <;> simp_all

theorem depositExact (worth : funds.Worth cents) {amount : Decimal} (charged : amount.Worth sum)
    (below : cents currency account + sum < 10 ^ Decimal.precision) :
    ∃ after, funds.deposit currency account amount = .ok after ∧
      after.Worth (paidIn cents currency account sum) := by
  obtain ⟨total, added, worth'⟩ := Decimal.addExact (worth currency account) charged (by omega) (by omega)
    (by omega)
  refine ⟨funds.set currency account total, ?_, fun of other => ?_⟩
  · rw [deposit, added]
  · rw [balanceSet, paidIn]
    split
    · rename_i same
      rw [same.1, same.2, Nat.cast_add]
      exact worth'
    · exact worth of other

theorem movedAll (enough : sum ≤ cents currency giver) {accounts : Finset Label} (gives : giver ∈ accounts)
    (takes : taker ∈ accounts) (of : Label) :
    ∑ other ∈ accounts, moved cents currency giver taker sum of other = ∑ other ∈ accounts, cents of other := by
  by_cases here : of = currency
  · subst here
    have each (other : Label) : moved cents of giver taker sum of other + (if other = giver then sum else 0) =
        cents of other + if other = taker then sum else 0 := by
      unfold moved
      rw [if_pos rfl]
      split_ifs <;> subst_vars <;> omega
    have both := Finset.sum_congr (rfl : accounts = _) fun other _ => each other
    simp only [Finset.sum_add_distrib, Finset.sum_ite_eq', gives, takes, if_true] at both
    omega
  · exact Finset.sum_congr rfl fun other _ => if_neg here

theorem movedTotal (enough : sum ≤ cents currency giver) (accounts : Finset Label) (of : Label) :
    ∑ other ∈ accounts, moved cents currency giver taker sum of other ≤
      ∑ other ∈ insert giver (insert taker accounts), cents of other := by
  have wider : accounts ⊆ insert giver (insert taker accounts) :=
    (Finset.subset_insert ..).trans (Finset.subset_insert ..)
  exact (Finset.sum_le_sum_of_subset wider).trans (le_of_eq (movedAll enough (by simp) (by simp) of))

theorem movedTaker (enough : sum ≤ cents currency giver) :
    moved cents currency giver taker sum currency taker =
      cents currency taker + if giver = taker then 0 else sum := by
  unfold moved
  by_cases same : giver = taker
  · subst same
    simp only [if_true]
    omega
  · simp [same, Ne.symm same]

end Funds

theorem Money.ofDecimalSame {d : Decimal} {money : Money} (made : ofDecimal d = .ok money) :
    d = money.toDecimal := by
  unfold ofDecimal at made
  split at made
  · unfold ofFinite at made
    split at made <;> cases made
    rfl
  · cases made
  · cases made
  · cases made

theorem Checked.moneyDecimal {given : Raw} {money : Money} (checked : Checked.money given = .ok money) :
    decimal given = .ok money.toDecimal := by
  unfold Checked.money at checked
  cases read : decimal given with
  | error failure =>
    rw [read] at checked
    cases checked
  | ok d =>
    rw [read] at checked
    cases made : Money.ofDecimal d with
    | error fault => simp [made, bind, Except.bind, throw, throwThe, MonadExceptOf.throw] at checked
    | ok m =>
      simp only [made, bind, Except.bind, pure, Except.pure, Except.ok.injEq] at checked
      rw [Money.ofDecimalSame made, checked]

def Step.paysIn (of : Label) : Step → Nat
  | deposit currency _ amount =>
    match Label.ofRaw? currency, Checked.money amount with
    | some label, .ok money => if of = label then money.cents else 0
    | _, _ => 0
  | _ => 0

/- Steps of a host who pays in money, asks, disturbs and moves the world, but moves no money himself. -/
def Step.Banks : Step → Prop
  | operation _ | approve _ | revoke _ | advance .. | configure _ | breakStore _ | breakReceiver _ => True
  | deposit _ _ amount => ∃ money, Checked.money amount = .ok money
  | _ => False

namespace Action
variable {σ α β : Type}

def Steady (a : Action σ α) : Prop :=
  ∀ desk, (a.perform desk).2.funds = desk.funds ∧ (a.perform desk).2.escrowAccount = desk.escrowAccount

theorem steadyPure (value : α) : Steady (pure value : Action σ α) := fun _ => ⟨rfl, rfl⟩

theorem steadyThrow (failure : Failure) : Steady (throw failure : Action σ α) := fun _ => ⟨rfl, rfl⟩

theorem steadyExcept (value : Except Failure α) : Steady (liftM value : Action σ α) := fun _ => ⟨rfl, rfl⟩

theorem steadyGet : Steady (get : Action σ (Desk σ)) := fun _ => ⟨rfl, rfl⟩

theorem steadyModify {change : Desk σ → Desk σ} (funds : ∀ desk, (change desk).funds = desk.funds)
    (account : ∀ desk, (change desk).escrowAccount = desk.escrowAccount) :
    Steady (modify change : Action σ Unit) := by
  intro desk
  rw [performModify]
  exact ⟨funds desk, account desk⟩

theorem steadyBind {first : Action σ α} {next : α → Action σ β} (steady : Steady first)
    (later : ∀ a, Steady (next a)) : Steady (first >>= next) := by
  intro desk
  have here := steady desk
  rw [performBind]
  generalize first.perform desk = ran at here ⊢
  rcases ran with ⟨failure | a, after⟩
  · exact here
  · have there := later a after
    exact ⟨there.1.trans here.1, there.2.trans here.2⟩

theorem steadyIte {c : Prop} [Decidable c] {yes no : Action σ α} (first : Steady yes) (second : Steady no) :
    Steady (if c then yes else no) := by
  split
  · exact first
  · exact second

theorem ownVerifierSteady : Steady (ownVerifier : Action σ Verifier) := by
  refine steadyBind steadyGet fun desk => ?_
  split
  · exact steadyPure _
  · exact steadyThrow _

end Action

namespace Step
open BoxOffice.Action
variable {step : Step} {desk : Desk Journal}

theorem replaceVerifierSteady (change : Verifier → Except Failure Verifier) :
    Steady (replaceVerifier change : Action Journal Answer) :=
  steadyBind ownVerifierSteady fun _ => steadyBind (steadyExcept _) fun _ =>
    steadyBind (steadyModify (fun _ => rfl) fun _ => rfl) fun _ => steadyPure _

theorem requireNameSteady (name : String) : Steady (requireName name : Action Journal Unit) := by
  unfold requireName
  exact steadyIte (steadyThrow _) (steadyPure _)

theorem banksSteady (banks : step.Banks) : (∃ request, step = .operation request) ∨
    (∃ currency account amount, step = .deposit currency account amount) ∨
    Steady (step.run : Action Journal Answer) := by
  cases step with
  | operation request => exact .inl ⟨request, rfl⟩
  | deposit currency account amount => exact .inr (.inl ⟨_, _, _, rfl⟩)
  | approve identity => exact .inr (.inr (replaceVerifierSteady _))
  | revoke identity => exact .inr (.inr (replaceVerifierSteady _))
  | advance seconds micros =>
    exact .inr (.inr (steadyBind (steadyExcept _) fun _ => steadyBind steadyGet fun _ =>
      steadyBind (steadyExcept _) fun _ => steadyBind (steadyModify (fun _ => rfl) fun _ => rfl) fun _ =>
      steadyPure _))
  | configure settings =>
    exact .inr (.inr (steadyBind (steadyModify (fun _ => rfl) fun _ => rfl) fun _ => steadyPure _))
  | breakStore fault =>
    exact .inr (.inr (steadyBind (requireNameSteady _) fun _ =>
      steadyBind (steadyModify (fun _ => rfl) fun _ => rfl) fun _ => steadyPure _))
  | breakReceiver name =>
    exact .inr (.inr (steadyBind (steadyModify (fun _ => rfl) fun _ => rfl) fun _ => steadyPure _))
  | verify | balance | transfer | seed | survey | unreadable => exact banks.elim

end Step

def View.outside (v : View) (custody : Label) : List Payment :=
  v.payments.values.filter fun payment => Label.ofRaw? payment.payer ≠ some custody

structure View.Covered (v : View) (funds : Funds) (custody : Label) (total : Label → Nat)
    (cents : Label → Label → Nat) : Prop where
  worth : funds.Worth cents
  within : ∀ currency (accounts : Finset Label), ∑ account ∈ accounts, cents currency account ≤ total currency
  owed : ∀ {config held}, v.escrow = some config → Label.ofRaw? config.currency = some held →
    Payment.cents (v.outside custody) ≤ cents held custody

namespace View
variable {v w : View} {funds : Funds} {custody : Label} {total : Label → Nat} {cents : Label → Label → Nat}

theorem coveredElsewhere (covered : v.Covered funds custody total cents) (payments : w.payments = v.payments)
    (escrow : w.escrow = v.escrow) : w.Covered funds custody total cents where
  worth := covered.worth
  within := covered.within
  owed set held := by
    rw [outside, payments]
    exact covered.owed (escrow ▸ set) held

theorem outsideConcat (payments : List Payment) (last : Payment) (custody : Label) :
    Payment.cents ((payments ++ [last]).filter fun payment => Label.ofRaw? payment.payer ≠ some custody) =
      Payment.cents (payments.filter fun payment => Label.ofRaw? payment.payer ≠ some custody) +
        if Label.ofRaw? last.payer = some custody then 0 else last.amount.cents := by
  rw [List.filter_append]
  by_cases own : Label.ofRaw? last.payer = some custody
  · simp [own]
  · simp [own, Payment.centsConcat]

end View

namespace Desk
variable {desk after : Desk Journal} {request : Operation} {edits : List Edit} {funds : Funds}
  {told : List Notice} {answer : Answer} {custody : Label} {total : Label → Nat}
  {cents : Label → Label → Nat}

theorem Effect.covered (effect : desk.Effect request edits funds told answer) (takings : desk.view.Takings)
    (account : Label.ofRaw? desk.escrowAccount = some custody)
    (covered : desk.view.Covered desk.funds custody total cents) (below : ∀ currency, total currency < 10 ^ 28) :
    ∃ cents, (edits.foldl View.edit desk.view).Covered funds custody total cents := by
  cases effect with
  | @paid payer given sum id amount config held giver revenue funds verified named charged set book priced
      party moved added =>
    have fits : Funds.Fits cents held giver custody := (covered.within held _).trans_lt (below held)
    rw [account] at moved
    obtain no | ⟨_, ⟨_, enough⟩, worth⟩ := Funds.transferTold covered.worth amount.worth fits moved
    · cases no
    refine ⟨Funds.moved cents held giver custody amount.cents, worth, fun currency accounts => ?_,
      fun {config' held'} set' priced' => ?_⟩
    · exact (Funds.movedTotal enough accounts currency).trans (covered.within currency _)
    · cases set.symm.trans set'
      cases priced.symm.trans priced'
      have before := covered.owed set priced
      have put := Table.putNewValues takings.series.fresh
        (⟨.whole desk.nextPayment, id, payer, amount, config.currency, .held, desk.clock⟩ : Payment)
      have owed := (congrArg (fun values : List Payment => Payment.cents
        (values.filter fun payment => Label.ofRaw? payment.payer ≠ some custody)) put).trans
          (View.outsideConcat _ _ custody)
      refine owed.trans_le ?_
      rw [Funds.movedTaker enough, party]
      simp only [Option.some.injEq]
      exact Nat.add_le_add_right before _
  | escrowSet verified given free =>
    refine ⟨cents, covered.worth, covered.within, fun set held => ?_⟩
    have none : desk.view.payments.values = [] := by
      rw [List.eq_nil_iff_forall_not_mem]
      intro payment mem
      obtain ⟨config, set, _⟩ := takings.priced payment mem
      rw [free] at set
      cases set
    have outside : desk.view.outside custody = [] := by rw [View.outside, none, List.filter_nil]
    exact (congrArg Payment.cents outside).trans_le (Nat.zero_le _)
  | @ticketTransferred source target given label ticket giver taker =>
    obtain ⟨lists, moved⟩ := View.handedOver desk.view label { ticket with owner := target } given giver
      taker
    rw [moved]
    exact ⟨cents, View.coveredElsewhere covered rfl rfl⟩
  | _ => exact ⟨cents, View.coveredElsewhere covered rfl rfl⟩

end Desk

namespace Step
open BoxOffice.Action
variable {step : Step} {steps : List Step} {desk : Desk Journal} {custody : Label} {total : Label → Nat}
  {cents : Label → Label → Nat}

theorem requestCovered (reached : desk.store.Reached) (tame : desk.Tame)
    (account : Label.ofRaw? desk.escrowAccount = some custody)
    (covered : desk.view.Covered desk.funds custody total cents) (below : ∀ currency, total currency < 10 ^ 28)
    (request : Operation) :
    let after := (request.run.perform desk).2
    ∃ cents, after.view.Covered after.funds custody total cents := by
  intro after
  have ready := reached.ready tame
  have ends := request.ends ready
  cases ran : request.run.perform desk with
  | mk outcome last =>
  have here : after = last := congrArg Prod.snd ran
  rw [ran] at ends
  rw [here]
  cases ends with
  | @refused failure _ other book took =>
    rw [took.view]
    by_cases pays : ∃ payer event sum, request = .payForTicket payer event sum
    · obtain ⟨payer, event, sum, rfl⟩ := pays
      have declined := Operation.payDeclined ready (congrArg Prod.fst ran) other
      rw [ran] at declined
      have fits (held giver : Label) : Funds.Fits cents held giver custody :=
        (covered.within held _).trans_lt (below held)
      obtain ⟨worth, _⟩ := Desk.declinedWorth covered.worth fits account declined
      exact ⟨cents, worth, covered.within, covered.owed⟩
    · rw [book fun payer event sum same => pays ⟨payer, event, sum, same⟩]
      exact ⟨cents, covered⟩
  | found finds took =>
    rw [took.view, took.funds]
    exact ⟨cents, covered⟩
  | done effect took =>
    rw [took.view, took.funds]
    exact effect.covered reached.takings account covered below
  | unheard effect some early took =>
    rw [took.view, took.funds]
    exact effect.covered reached.takings account covered below

def withPaid (total : Label → Nat) (step : Step) (of : Label) : Nat :=
  total of + step.paysIn of

theorem coveredMore (covered : desk.view.Covered desk.funds custody total cents) (step : Step) :
    desk.view.Covered desk.funds custody (withPaid total step) cents :=
  ⟨covered.worth, fun currency accounts => (covered.within currency accounts).trans (Nat.le_add_right ..),
    covered.owed⟩

theorem coveredPaidIn (covered : desk.view.Covered desk.funds custody total cents) {held account : Label}
    {sum : Nat} {funds : Funds} (worth : funds.Worth (Funds.paidIn cents held account sum))
    {total' : Label → Nat} (more : ∀ of, total of + (if of = held then sum else 0) ≤ total' of) :
    desk.view.Covered funds custody total' (Funds.paidIn cents held account sum) where
  worth := worth
  within currency accounts := (Funds.paidInTotal accounts currency).trans
    ((Nat.add_le_add_right (covered.within currency accounts) _).trans (more currency))
  owed set held := (covered.owed set held).trans (Nat.le_add_right ..)

theorem depositCovered {currency account amount : Raw} {money : Money}
    (paid : Checked.money amount = .ok money) (covered : desk.view.Covered desk.funds custody total cents)
    (below : ∀ of, withPaid total (.deposit currency account amount) of < 10 ^ 28) :
    ((Step.deposit currency account amount).run : Action Journal Answer).Leads desk
      (fun _ after => after.escrowAccount = desk.escrowAccount ∧ ∃ cents, after.view.Covered after.funds custody
        (withPaid total (.deposit currency account amount)) cents)
      fun _ after => after.escrowAccount = desk.escrowAccount ∧ ∃ cents, after.view.Covered after.funds custody
        (withPaid total (.deposit currency account amount)) cents := by
  have unchanged := coveredMore covered (.deposit currency account amount)
  unfold run Action.book
  simp only [bind_assoc]
  refine bindGet ?_
  split
  · rw [pure_bind]
    refine bindExcept (fun _ _ => ⟨rfl, _, unchanged⟩) fun held priced => ?_
    refine bindExcept (fun _ _ => ⟨rfl, _, unchanged⟩) fun owner party => ?_
    refine bindExcept (fun _ _ => ⟨rfl, _, unchanged⟩) fun sum read => ?_
    cases (Checked.moneyDecimal paid).symm.trans read
    have pays (of : Label) : paysIn of (.deposit currency account amount) =
        if of = held then money.cents else 0 := by
      simp only [paysIn, labelled priced, paid]
    have room : cents held owner + money.cents < 10 ^ Decimal.precision := by
      have held' := below held
      have one := covered.within held {owner}
      rw [withPaid, pays, if_pos rfl] at held'
      rw [Finset.sum_singleton] at one
      exact (Nat.add_le_add_right one _).trans_lt held'
    obtain ⟨book, exact', worth⟩ := Funds.depositExact covered.worth money.worth room
    refine bindExcept (fun _ _ => ⟨rfl, _, unchanged⟩) fun made given => ?_
    cases exact'.symm.trans given
    refine bindModify (leadsPure ⟨rfl, _, coveredPaidIn covered worth fun of => ?_⟩)
    rw [withPaid, pays]
  · exact leadsBind (leadsThrow ⟨rfl, _, unchanged⟩) fun _ _ (h : False) => h.elim

theorem takeCovered (ordinary : step.Ordinary) (banks : step.Banks) (reached : desk.store.Reached)
    (tame : desk.Tame) (account : Label.ofRaw? desk.escrowAccount = some custody)
    (covered : desk.view.Covered desk.funds custody total cents)
    (below : ∀ of, withPaid total step of < 10 ^ 28) :
    (step.take desk).2.escrowAccount = desk.escrowAccount ∧
      ∃ cents, (step.take desk).2.view.Covered (step.take desk).2.funds custody (withPaid total step) cents := by
  by_cases asks : ∃ request, step = .operation request
  · obtain ⟨request, rfl⟩ := asks
    obtain ⟨cents, covered⟩ := requestCovered reached tame account covered below request
    exact ⟨(request.ends (reached.ready tame)).around.escrowAccount, cents, covered⟩
  obtain ⟨currency, given, amount, rfl⟩ | steady := (banksSteady banks).resolve_left asks
  · obtain ⟨money, paid⟩ := banks
    have leads := @depositCovered desk custody total cents currency given amount money paid covered below
    unfold Leads at leads
    unfold take
    split at leads <;> rename_i ran <;> rw [ran] <;> exact leads
  · obtain ⟨funds, escrowAccount⟩ := steady desk
    obtain ⟨store, _⟩ := (ordinaryRests ordinary).resolve_left asks desk tame
    have view : (step.take desk).2.view = desk.view := congrArg (fun s : Journal => s.tables.view) store
    have book : (step.take desk).2.funds = desk.funds := funds
    rw [view, book]
    exact ⟨escrowAccount, cents, coveredMore covered step⟩

theorem takeAllCovered (ordinary : ∀ step ∈ steps, step.Ordinary) (banks : ∀ step ∈ steps, step.Banks)
    (reached : desk.store.Reached) (tame : desk.Tame) (account : Label.ofRaw? desk.escrowAccount = some custody)
    (covered : desk.view.Covered desk.funds custody total cents)
    (below : ∀ of, total of + (steps.map (paysIn of)).sum < 10 ^ 28) :
    ∃ cents, (takeAll steps desk).2.view.Covered (takeAll steps desk).2.funds custody
      (fun of => total of + (steps.map (paysIn of)).sum) cents := by
  induction steps generalizing desk total cents with
  | nil => exact ⟨cents, covered⟩
  | cons step rest ih =>
    have first := ordinary step List.mem_cons_self
    have sums (of : Label) : total of + ((step :: rest).map (paysIn of)).sum =
        withPaid total step of + (rest.map (paysIn of)).sum := by
      rw [List.map_cons, List.sum_cons, withPaid, Nat.add_assoc]
    have below' (of : Label) : withPaid total step of + (rest.map (paysIn of)).sum < 10 ^ 28 := sums of ▸ below of
    obtain ⟨same, cents, covered⟩ := takeCovered first (banks step List.mem_cons_self) reached tame account
      covered fun of => (Nat.le_add_right ..).trans_lt (below' of)
    obtain ⟨reached, tame⟩ := takeReached first reached tame
    simp only [sums]
    exact ih (fun step mem => ordinary step (List.mem_cons_of_mem _ mem))
      (fun step mem => banks step (List.mem_cons_of_mem _ mem)) reached tame (same ▸ account) covered below'

end Step

theorem Payment.centsByEvent (payments : List Payment) (ids : Finset EventId) :
    ∑ id ∈ ids, cents (payments.filter fun payment => payment.event = id) ≤ cents payments := by
  induction payments with
  | nil => simp [cents]
  | cons payment rest ih =>
    have each (id : EventId) : cents ((payment :: rest).filter fun payment => payment.event = id) =
        (if payment.event = id then payment.amount.cents else 0) +
          cents (rest.filter fun payment => payment.event = id) := by
      by_cases here : payment.event = id <;> simp [cents, here]
    have one : ∑ id ∈ ids, (if payment.event = id then payment.amount.cents else 0) ≤ payment.amount.cents := by
      rw [Finset.sum_ite_eq]
      split <;> omega
    have all : cents (payment :: rest) = payment.amount.cents + cents rest := by simp [cents]
    simp only [each, Finset.sum_add_distrib, all]
    exact Nat.add_le_add one ih

/-- The custody account covers all that is held for payers other than itself, at every point of a run in
which the host pays in money and moves none. Where it has not paid itself, that is all revenue. -/
theorem custodyCovers {desk : Desk Journal} (empty : desk.store = .empty) (nothing : desk.funds = .empty)
    (tame : desk.Tame) {custody : Label} (account : Label.ofRaw? desk.escrowAccount = some custody)
    {steps : List Step} (ordinary : ∀ step ∈ steps, step.Ordinary) (banks : ∀ step ∈ steps, step.Banks)
    (total : ∀ of, (steps.map (Step.paysIn of)).sum < 10 ^ 28) {config : EscrowConfig} {held : Label}
    (set : (Step.takeAll steps desk).2.view.escrow = some config)
    (priced : Label.ofRaw? config.currency = some held) :
    let after := (Step.takeAll steps desk).2
    ∃ balance : Nat, (after.funds.balance held custody).Worth balance ∧
      Payment.cents (after.view.outside custody) ≤ balance ∧
      ((∀ payment ∈ after.view.payments.values, Label.ofRaw? payment.payer ≠ some custody) →
        ∀ ids : Finset EventId, ∃ revenue : EventId → Nat, (∀ id, (after.revenueOf id).Worth (revenue id)) ∧
          ∑ id ∈ ids, revenue id ≤ balance) := by
  intro after
  have reached : desk.store.Reached := empty ▸ .empty
  have start : desk.view.Covered desk.funds custody (fun _ => 0) fun _ _ => 0 := by
    refine ⟨fun currency account => ?_, fun currency accounts => by simp, fun set => ?_⟩
    · rw [nothing]
      exact Decimal.zeroWorth
    · rw [Desk.view, empty] at set
      cases set
  have below (of : Label) : 0 + (steps.map (Step.paysIn of)).sum < 10 ^ 28 := by
    rw [Nat.zero_add]
    exact total of
  obtain ⟨cents, covered⟩ := Step.takeAllCovered ordinary banks reached tame account start below
  have takings := (Step.takeAllReached ordinary reached tame).1.takings
  refine ⟨cents held custody, covered.worth held custody, covered.owed set priced, fun others ids => ?_⟩
  have all : after.view.outside custody = after.view.payments.values :=
    List.filter_eq_self.mpr fun payment mem => by simpa using others payment mem
  have owed := covered.owed set priced
  rw [all] at owed
  have least : cents held custody < 10 ^ Decimal.precision := by
    have one := covered.within held {custody}
    rw [Finset.sum_singleton] at one
    exact one.trans_lt (below held)
  have parts := Payment.centsByEvent after.view.payments.values
  have within (id : EventId) : Payment.cents (after.view.paymentsOf id) < 10 ^ Decimal.precision := by
    have one := parts {id}
    rw [Finset.sum_singleton] at one
    exact one.trans_lt (owed.trans_lt least)
  refine ⟨fun id => Payment.cents (after.view.paymentsOf id), fun id => ?_, ?_⟩
  · obtain ⟨sum, added, worth⟩ := Payment.sumExact _ (within id)
    cases added.symm.trans (takings.revenue id)
    exact worth
  · exact (parts ids).trans owed

/- What is paid by ann and returned to her once is in custody, and no more is recorded. -/
theorem custodyCoversGala :
    let steps : List Step :=
      [.operation (.setUpEscrow (.text "host") (.text "EUR")),
      .deposit (.text "EUR") (.text "ann") (.text "10"),
      .breakStore ⟨"add_payment", true⟩,
      .operation (.payForTicket (.text "ann") (.text "gala") (.text "3")),
      .operation (.payForTicket (.text "ann") (.text "gala") (.text "4"))]
    let desk : Desk Journal := .opened .empty none none .standard (.text "escrow") false true
    let after := (Step.takeAll steps desk).2
    (∀ step ∈ steps, step.Ordinary) ∧ (∀ step ∈ steps, step.Banks) ∧
      after.view.eventPayments ⟨"gala", rfl⟩ = [.whole 1] ∧
      ∃ balance : Nat, (after.funds.balance (.named "EUR") (.named "escrow")).Worth balance ∧
        Payment.cents (after.view.outside (.named "escrow")) ≤ balance := by
  intro steps desk after
  have ordinary : ∀ step ∈ steps, step.Ordinary := by simp [steps, Step.Ordinary, entryMethod]
  have ten : Checked.money (.text "10") = .ok ⟨⟨false, 10, 0⟩, by decide⟩ := by rfl
  have banks : ∀ step ∈ steps, step.Banks := by simp [steps, Step.Banks, ten]
  have total (of : Label) : (steps.map (Step.paysIn of)).sum < 10 ^ 28 := by
    have cents : Money.cents ⟨⟨false, 10, 0⟩, by decide⟩ = 1000 := by rfl
    simp only [steps, List.map_cons, List.map_nil, List.sum_cons, List.sum_nil, Step.paysIn, Label.ofText, ten,
      cents]
    split <;> norm_num
  have set : after.view.escrow = some ⟨.text "host", .text "EUR"⟩ := by decide +kernel
  have one : after.view.eventPayments ⟨"gala", rfl⟩ = [.whole 1] := by decide +kernel
  obtain ⟨balance, worth, covers, _⟩ := @custodyCovers desk rfl rfl (List.forall_mem_nil _) (.named "escrow") rfl steps ordinary
    banks total _ (.named "EUR") set rfl
  exact ⟨ordinary, banks, one, balance, worth, covers⟩

/- The account that holds payments pays twice with the same money, and twice as much is credited. -/
theorem custodyPaysItself :
    let steps : List Step :=
      [.operation (.setUpEscrow (.text "host") (.text "EUR")),
      .deposit (.text "EUR") (.text "escrow") (.text "1"),
      .operation (.payForTicket (.text "escrow") (.text "gala") (.text "1")),
      .operation (.payForTicket (.text "escrow") (.text "gala") (.text "1"))]
    let desk : Desk Journal := .opened .empty none none .standard (.text "escrow") false true
    let after := (Step.takeAll steps desk).2
    (∀ step ∈ steps, step.Ordinary) ∧ (∀ step ∈ steps, step.Banks) ∧
      ∃ balance revenue : Nat, (after.funds.balance (.named "EUR") (.named "escrow")).Worth balance ∧
        (after.revenueOf ⟨"gala", rfl⟩).Worth revenue ∧ balance < revenue := by
  intro steps desk after
  have ordinary : ∀ step ∈ steps, step.Ordinary := by simp [steps, Step.Ordinary]
  have one : Checked.money (.text "1") = .ok ⟨⟨false, 1, 0⟩, by decide⟩ := by rfl
  have banks : ∀ step ∈ steps, step.Banks := by simp [steps, Step.Banks, one]
  have balance : after.funds.balance (.named "EUR") (.named "escrow") = .finite ⟨false, 1, 0⟩ := by
    decide +kernel
  have revenue : after.revenueOf ⟨"gala", rfl⟩ = .finite ⟨false, 2, 0⟩ := by decide +kernel
  refine ⟨ordinary, banks, 100, 200, ⟨_, balance, ?_⟩, ⟨_, revenue, ?_⟩, by decide⟩ <;>
    norm_num [Decimal.Finite.Worth, Decimal.Finite.value, Decimal.Finite.size]

end BoxOffice
