import BoxOffice.Proofs.Interchange.Settled
import BoxOffice.Store.Relational

/-! Records whose values fit the columns of a relational store. What columns make of them is their settled
form. -/
namespace BoxOffice

def Raw.isLegible : Raw → Bool
  | text value => Text.isWhole value
  | _ => false

def Moment.isDatable (m : Moment) : Bool :=
  inCalendar m.instant

def wordLimit : Nat := 2 ^ (63 : Nat)

/- No column of amounts has room for so many hundredths. -/
def amountLimit : Nat := 10 ^ (18 : Nat)

theorem bindPassed {α β : Type} (a : α) (next : α → Except Failure β) : (.ok a >>= next) = next a := by
  simp only [bind, Except.bind]

theorem Raw.wholeInNumberColumn (column : String) (n : Int) :
    (whole n).inNumberColumn column = .ok (some n) := by
  simp only [inNumberColumn]

section
variable {given : Raw} {m : Moment}

theorem Raw.legibleText (legible : given.isLegible = true) :
    ∃ value, given = .text value ∧ Text.isWhole value = true := by
  cases given with
  | text value => exact ⟨value, rfl, legible⟩
  | nothing | truth _ | whole _ | fraction _ | list _ | record _ => cases legible

theorem Raw.legibleInColumn (legible : given.isLegible = true) : given.inColumn = .ok given := by
  obtain ⟨value, rfl, whole⟩ := legibleText legible
  exact textInColumn whole

theorem Raw.legibleGiven (legible : given.isLegible = true) : given ≠ .nothing := by
  rintro rfl
  cases legible

theorem Moment.inColumnDatable (datable : m.isDatable = true) :
    inColumn (some m) = .ok (some m.settled) := by
  simp only [inColumn, utc?, isDatable.eq_1 m ▸ datable, if_true, settled]

theorem Moment.inColumnSettled (given : Option Moment) : inColumn (given.map settled) = inColumn given := by
  cases given with
  | none => rfl
  | some m => simp only [Option.map_some, inColumn, utc?, settledInstant]

theorem boundWordFits {n : Nat} (fits : n < wordLimit) : boundWord (some (n : Int)) = .ok () := by
  have limit : (n : Int) < ((2 ^ (63 : Nat) : Nat) : Int) := Int.ofNat_lt.mpr fits
  have positive : (-((2 ^ (63 : Nat) : Nat) : Int)) ≤ n := by omega
  simp only [boundWord, word, positive, limit, and_self, if_true]
  rfl

end

theorem Money.inColumnSettled (amount : Money) : amount.hundredths.inColumn = amount.inColumn := by
  simp only [inColumn, hundredthsTwice, centsOfHundredths]

theorem Money.inColumnFits {amount : Money} (fits : amount.cents < amountLimit) :
    amount.inColumn = .ok amount.hundredths :=
  if_pos ((Decimal.digitCountLe (by decide)).2 fits)

structure Tier.Fits (tier : Tier) : Prop where
  id : ∃ n : Nat, n < wordLimit ∧ tier.id = .whole n
  name : tier.name.isLegible = true
  price : tier.price.cents < amountLimit
  places : ∃ capacity sold : Nat, capacity < wordLimit ∧ tier.capacity = .whole capacity ∧
    tier.sold = .whole sold ∧ sold ≤ capacity

structure Event.Fits (event : Event) : Prop where
  texts : ∀ given ∈ [event.organizer, event.name, event.description, event.venue], given.isLegible = true
  date : ∃ m, event.date = some m ∧ m.isDatable = true
  createdAt : ∃ m, event.createdAt = some m ∧ m.isDatable = true ∧ m.isNaive = false
  ids : event.tiers.map Tier.id = (List.range event.tiers.length).map fun n : Nat => .whole n
  tiers : ∀ tier ∈ event.tiers, tier.Fits

def Event.outline (event : Event) : Event :=
  { event.settled with tiers := [] }

theorem EventRow.ofEventSettled (event : Event) : ofEvent event.settled = ofEvent event := by
  unfold ofEvent
  simp only [show event.settled.date = event.date.map Moment.settled from rfl,
    show event.settled.createdAt = event.createdAt.map Moment.settled from rfl, Moment.inColumnSettled]
  rfl

theorem EventRow.ofEventColumns {event : Event}
    (texts : ∀ given ∈ [event.organizer, event.name, event.description, event.venue], given.isLegible = true)
    (date : ∃ m, event.date = some m ∧ m.isDatable = true)
    (createdAt : ∃ m, event.createdAt = some m ∧ m.isDatable = true) :
    ∃ row, ofEvent event = .ok row ∧ row.toEvent [] = event.outline := by
  obtain ⟨id, organizer, name, description, venue, _, _, status, tiers⟩ := event
  obtain ⟨date, rfl, dated⟩ := date
  obtain ⟨createdAt, rfl, made⟩ := createdAt
  simp only [List.forall_mem_cons, List.not_mem_nil, false_implies, implies_true, and_true] at texts
  obtain ⟨organizer', name', description', venue'⟩ := texts
  refine ⟨⟨id, organizer, name, description, venue, date.settled, createdAt.settled, status⟩, ?_, rfl⟩
  have given : [organizer, name, description, venue].contains Raw.nothing = false := by
    simp [(Raw.legibleGiven organizer').symm, (Raw.legibleGiven name').symm,
      (Raw.legibleGiven description').symm, (Raw.legibleGiven venue').symm]
  simp only [ofEvent, Moment.inColumnDatable dated, Moment.inColumnDatable made,
    Raw.legibleInColumn organizer', Raw.legibleInColumn name', Raw.legibleInColumn description',
    Raw.legibleInColumn venue', bindPassed, given, required]
  rfl

theorem EventRow.ofEventFits {event : Event} (fits : event.Fits) :
    ∃ row, ofEvent event = .ok row ∧ row.toEvent [] = event.outline := by
  obtain ⟨createdAt, is, made, _⟩ := fits.createdAt
  exact ofEventColumns fits.texts fits.date ⟨createdAt, is, made⟩

namespace TierRow

theorem ofTierSettled (event : EventId) (tier : Tier) : ofTier event tier.settled = ofTier event tier := by
  unfold ofTier
  simp only [show tier.settled.price = tier.price.hundredths from rfl, Money.inColumnSettled]
  rfl

theorem ofTierFits {tier : Tier} (fits : tier.Fits) (event : EventId) :
    ∃ row, ofTier event tier = .ok row ∧ row.event = event ∧ row.toTier = tier.settled := by
  obtain ⟨id, name, price, capacity, sold⟩ := tier
  obtain ⟨⟨n, numbered, rfl⟩, named, priced, ⟨capacity, sold, limit, rfl, rfl, enough⟩⟩ := fits
  refine ⟨⟨event, n, name, price.hundredths, capacity, sold⟩, ?_, rfl, rfl⟩
  have checked : (decide (0 ≤ (n : Int)) && name != .nothing && decide (0 ≤ (sold : Int)) &&
      decide ((sold : Int) ≤ capacity)) = true := by
    simpa [Raw.legibleGiven named] using enough
  simp only [ofTier, Raw.wholeInNumberColumn, Money.inColumnFits priced, bindPassed, boundWordFits numbered,
    boundWordFits limit, boundWordFits (Nat.lt_of_le_of_lt enough limit), Raw.legibleInColumn named, required]
  rw [checked]
  rfl

end TierRow

structure Registration.Fits (r : Registration) : Prop where
  attendee : r.attendee.isLegible = true
  tier : ∃ n : Nat, n < wordLimit ∧ r.tier = .whole n
  registeredAt : ∃ m, r.registeredAt = some m ∧ m.isDatable = true

structure Payment.Fits (payment : Payment) : Prop where
  id : ∃ n : Nat, n < wordLimit ∧ payment.id = .whole n
  payer : payment.payer.isLegible = true
  amount : payment.amount.cents < amountLimit
  currency : payment.currency.isLegible = true
  paidAt : ∃ m, payment.paidAt = some m ∧ m.isDatable = true

structure Ticket.Fits (ticket : Ticket) : Prop where
  id : ∃ n : Nat, n < wordLimit ∧ ticket.id = .whole n
  organizer : ticket.organizer.isLegible = true
  owner : ticket.owner.isLegible = true
  issuedAt : ∃ m, ticket.issuedAt = some m ∧ m.isDatable = true

namespace Rows
variable {τ : Type}

theorem rowOfSettled (id : Option Int) (ticket : Ticket) : rowOf id ticket.settled = rowOf id ticket := by
  unfold rowOf
  simp only [show ticket.settled.issuedAt = ticket.issuedAt.map Moment.settled from rfl, Moment.inColumnSettled]
  rfl

theorem rowOfFits {ticket : Ticket} (fits : ticket.Fits) {n : Nat} (id : ticket.id = .whole n) :
    rowOf (some (n : Int)) ticket = .ok ticket.settled := by
  obtain ⟨given, event, organizer, owner, issuedAt, status⟩ := ticket
  obtain ⟨⟨m, within, rfl⟩, own, held, ⟨issuedAt, rfl, issued⟩⟩ := fits
  cases id
  have given : (organizer != Raw.nothing && owner != Raw.nothing && (some issuedAt.settled).isSome) = true := by
    simp [Raw.legibleGiven own, Raw.legibleGiven held]
  simp only [rowOf, Moment.inColumnDatable issued, bindPassed, boundWordFits within,
    Raw.legibleInColumn own, Raw.legibleInColumn held, required]
  rw [given]
  rfl

theorem saveTicketSettled (rows : Rows τ) (ticket : Ticket) :
    rows.saveTicket ticket.settled = rows.saveTicket ticket := by
  unfold saveTicket
  simp only [rowOfSettled]
  rfl

theorem addRegistrationFits {r : Registration} (fits : r.Fits) (rows : Rows τ)
    (free : (rows.registrations.any fun old => old.event == r.event && old.attendee == r.attendee) = false) :
    rows.addRegistration r = .ok { rows with registrations := rows.registrations ++ [r.settled] } := by
  obtain ⟨event, attendee, tier, registeredAt⟩ := r
  obtain ⟨who, ⟨n, within, rfl⟩, ⟨registeredAt, rfl, registered⟩⟩ := fits
  have given : (decide (0 ≤ (n : Int)) && attendee != Raw.nothing && (some registeredAt.settled).isSome) = true := by
    simp [Raw.legibleGiven who]
  simp only [addRegistration, Raw.wholeInNumberColumn, Moment.inColumnDatable registered, bindPassed,
    boundWordFits within, Raw.legibleInColumn who, required]
  rw [given, free]
  rfl

theorem addPaymentFits {payment : Payment} (fits : payment.Fits) (rows : Rows τ) {n : Nat}
    (id : payment.id = .whole n) (free : rows.payments.contains (n : Int) = false) :
    rows.addPayment payment = .ok { rows with payments := rows.payments.put n payment.settled } := by
  obtain ⟨given, event, payer, amount, currency, status, paidAt⟩ := payment
  obtain ⟨⟨m, within, rfl⟩, pays, small, priced, ⟨paidAt, rfl, paid⟩⟩ := fits
  cases id
  have given : (payer != Raw.nothing && currency != Raw.nothing && (some paidAt.settled).isSome) = true := by
    simp [Raw.legibleGiven pays, Raw.legibleGiven priced]
  simp only [addPayment, Raw.wholeInNumberColumn, Money.inColumnFits small, Moment.inColumnDatable paid, bindPassed,
    boundWordFits within, Raw.legibleInColumn pays, Raw.legibleInColumn priced, required]
  rw [given, free]
  rfl

end Rows
end BoxOffice
