import BoxOffice.Desk.Operation
import BoxOffice.Proofs.Event
import BoxOffice.Proofs.Store.Reference

/-! The form in which columns give records back: amounts with two places, and times on the clock of UTC.
Records of one settled form have the same values and the same instants, and the rules on events and tiers
do not tell them apart. -/
namespace BoxOffice

namespace Moment

def settled (m : Moment) : Moment :=
  ⟨m.instant, some 0⟩

@[simp]
theorem settledInstant (m : Moment) : m.settled.instant = m.instant := by
  simp [settled, instant]

@[simp]
theorem settledTwice (m : Moment) : m.settled.settled = m.settled := by
  rw [settled, settledInstant, settled]

theorem settledIff {a b : Moment} : a.settled = b.settled ↔ a.instant = b.instant := by
  simp [settled]

end Moment

namespace Money

theorem centsOfHundredths (m : Money) : m.hundredths.cents = m.cents := by
  have read := readOfCents m.amount.negative (Decimal.Finite.centsInRange (centsOfMoney m))
  rw [cents, show m.hundredths.amount = .ofCents m.amount.negative m.cents from rfl, read]
  rfl

@[simp]
theorem hundredthsTwice (m : Money) : m.hundredths.hundredths = m.hundredths := by
  have cents := centsOfHundredths m
  simp only [hundredths, mk.injEq] at cents ⊢
  rw [cents]
  rfl

theorem hundredthsIff {a b : Money} :
    a.hundredths = b.hundredths ↔ a.cents = b.cents ∧ a.amount.negative = b.amount.negative := by
  simp [hundredths, Decimal.Finite.ofCents, and_comm]

end Money

def Tier.settled (tier : Tier) : Tier :=
  { tier with price := tier.price.hundredths }

def Event.settled (event : Event) : Event :=
  { event with
    date := event.date.map Moment.settled
    createdAt := event.createdAt.map Moment.settled
    tiers := event.tiers.map Tier.settled }

def Registration.settled (r : Registration) : Registration :=
  { r with registeredAt := r.registeredAt.map Moment.settled }

def Payment.settled (payment : Payment) : Payment :=
  { payment with
    amount := payment.amount.hundredths
    paidAt := payment.paidAt.map Moment.settled }

def Ticket.settled (ticket : Ticket) : Ticket :=
  { ticket with issuedAt := ticket.issuedAt.map Moment.settled }

def Notice.settled : Notice → Notice
  | eventCreated event organizer name venue date tiers =>
    eventCreated event organizer name venue (date.map Moment.settled) (tiers.map Tier.settled)
  | eventUpdated event => eventUpdated event.settled
  | paymentReceived id event payer amount => paymentReceived id event payer amount.hundredths
  | notice => notice

theorem Notice.settledName (notice : Notice) : notice.settled.name = notice.name := by
  cases notice <;> rfl

@[simp]
theorem Tier.settledTwice (tier : Tier) : tier.settled.settled = tier.settled := by
  simp [settled]

@[simp]
theorem Event.settledTwice (event : Event) : event.settled.settled = event.settled := by
  simp [settled, Function.comp_def]

@[simp]
theorem Registration.settledTwice (r : Registration) : r.settled.settled = r.settled := by
  simp [settled, Function.comp_def]

@[simp]
theorem Payment.settledTwice (payment : Payment) : payment.settled.settled = payment.settled := by
  simp [settled, Function.comp_def]

@[simp]
theorem Ticket.settledTwice (ticket : Ticket) : ticket.settled.settled = ticket.settled := by
  simp [settled, Function.comp_def]

theorem renewedShown {α β γ : Type} {f : β → γ} {old other : β} (check : α → Except Failure β)
    (given : Option α) (same : f old = f other) :
    (renewed check old given).map f = (renewed check other given).map f := by
  cases given with
  | none => exact congrArg Except.ok same
  | some value => rfl

theorem Tier.changeSettled (settings : Settings) (changes : TierChanges) (tier : Tier) :
    (tier.settled.change settings changes).map settled = (tier.change settings changes).map settled := by
  have price : tier.settled.price.hundredths = tier.price.hundredths := tier.price.hundredthsTwice
  rw [changeParts, changeParts]
  refine bindSame rfl fun name => bindShown (renewedShown _ _ price) fun a b same => bindSame rfl fun capacity => ?_
  simp only [pure, Except.pure, Except.map, settled, same]

theorem Tier.sellSettled (tier : Tier) : tier.settled.sell.map settled = tier.sell.map settled := by
  unfold sell
  refine bindSame rfl fun sold => ?_
  simp [pure, Except.pure, Except.map, settled]

namespace Event

theorem tierSettled (event : Event) (id : Raw) :
    event.settled.tier? id = (event.tier? id).map Tier.settled := by
  simp only [tier?, settled, List.find?_map]
  rfl

theorem putTierSettled (tier : Tier) (tiers : List Tier) :
    (putTier tier tiers).map Tier.settled = putTier tier.settled (tiers.map Tier.settled) := by
  induction tiers with
  | nil => rfl
  | cons first rest ih =>
    unfold putTier
    rw [apply_ite (List.map Tier.settled), List.map_cons, List.map_cons, ih]
    rfl

theorem withTierSettled (event : Event) (tier : Tier) :
    (event.withTier tier).settled = event.settled.withTier tier.settled := by
  simp only [withTier, settled, putTierSettled]

theorem nextTierIdSettled (event : Event) : event.settled.nextTierId = event.nextTierId := by
  unfold nextTierId settled
  cases event.tiers with
  | nil => rfl
  | cons first rest =>
    simp only [List.map_cons, List.map_map, Function.comp_def]
    rfl

theorem changeSettled (settings : Settings) (now : Option Moment) (changes : EventChanges) (event : Event) :
    (event.settled.change settings now changes).map settled =
      (event.change settings now changes).map settled := by
  have date : event.settled.date.map Moment.settled = event.date.map Moment.settled := by
    simp [settled, Function.comp_def]
  rw [changeParts, changeParts]
  refine bindSame rfl fun name => bindSame rfl fun venue => bindShown (renewedShown _ _ date) fun a b same => ?_
  simp only [pure, Except.pure, Except.map]
  simp [settled, same, Function.comp_def]

/- Of two events with one settled form. -/
variable {a b : Event} {x y : Tier}

theorem withTierAlike (same : a.settled = b.settled) (tiers : x.settled = y.settled) :
    (a.withTier x).settled = (b.withTier y).settled := by
  rw [withTierSettled, same, tiers, withTierSettled]

end Event

def Decimal.Same (a b : Decimal) : Prop :=
  a = b ∨ a.order b = .ok .eq

/- Answers that differ at most in the form of amounts and in the zones of times. -/
def Answer.Alike : Answer → Answer → Prop
  | event a, event b => a.settled = b.settled
  | tier a, tier b => a.settled = b.settled
  | status a, status b => a = b
  | events as, events bs => as.map Event.settled = bs.map Event.settled
  | registration a, registration b => a.settled = b.settled
  | flag a, flag b => a = b
  | values as, values bs => as.map Raw.key = bs.map Raw.key
  | config a, config b => a = b
  | id a, id b => a = b
  | payment a, payment b => a.settled = b.settled
  | amount a, amount b => a.Same b
  | ticket a, ticket b => a.settled = b.settled
  | moment a, moment b => a = b
  | nothing, nothing => True
  | _, _ => False

namespace Step.Record

def Ended : Except Failure Answer → Except Failure Answer → Prop
  | .ok a, .ok b => a.Alike b
  | .error failure, .error other => failure = other
  | _, _ => False

structure Alike (a b : Record) : Prop where
  outcome : Ended a.outcome b.outcome
  notices : a.notices.map Notice.settled = b.notices.map Notice.settled

def failure? (record : Record) : Option Failure :=
  match record.outcome with
  | .ok _ => none
  | .error failure => some failure

theorem Alike.failure {a b : Record} (alike : a.Alike b) : a.failure? = b.failure? := by
  have ended := alike.outcome
  unfold failure?
  generalize a.outcome = first at ended ⊢
  generalize b.outcome = second at ended ⊢
  cases first <;> cases second
  · exact congrArg some ended
  · exact ended.elim
  · exact ended.elim
  · rfl

theorem failuresAlike {first second : List Record} (alike : List.Forall₂ Alike first second) :
    first.map failure? = second.map failure? := by
  induction alike with
  | nil => rfl
  | cons here _ ih => rw [List.map_cons, List.map_cons, here.failure, ih]

end Step.Record
end BoxOffice
