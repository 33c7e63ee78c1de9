import BoxOffice.Desk.Operation
import BoxOffice.Proofs.Desk.Block

/-! What a request can do at a desk with a journalled store: its edits of the records, the book of
funds afterwards, what observers are told and the answer, with all that was checked on the way; what a
request can find that changes nothing; and how a request ends. -/
namespace BoxOffice

structure Tier.Regular (tier : Tier) : Prop where
  id : ∃ n : Int, tier.id = .whole n
  capacity : ∃ n : Int, tier.capacity = .whole n
  sold : ∃ n : Int, tier.sold = .whole n

structure View.Regular (v : View) : Prop where
  named : ∀ {id event}, v.events.get? id = some event → event.id = id
  tiers : ∀ {id event}, v.events.get? id = some event → ∀ tier ∈ event.tiers, tier.Regular
  ticket : ∀ {label ticket}, v.tickets.get? label = some ticket →
    ∃ n : Int, label = .numbered n ∧ ticket.id = .whole n

namespace Desk

def Verified {σ : Type} (desk : Desk σ) (caller : Raw) : Prop :=
  (desk.verifier.getD .trustedHost).verify caller = .ok true

structure Names (desk : Desk Journal) (given : Raw) (event : Event) : Prop where
  named : given = .text event.id.text
  stored : desk.view.events.get? event.id = some event

structure Owns (desk : Desk Journal) (organizer given : Raw) (event : Event) : Prop
    extends desk.Names given event where
  verified : desk.Verified organizer
  own : event.organizer.same organizer = true

structure Holds (desk : Desk Journal) (given : Raw) (label : Label) (ticket : Ticket) : Prop where
  named : Label.ofRaw? given = some label
  stored : desk.view.tickets.get? label = some ticket

def Issues (desk : Desk Journal) (organizer : Raw) (id : EventId) : Prop :=
  desk.checksEvents = true → ∃ event, desk.view.events.get? id = some event ∧
    event.organizer.same organizer = true ∧ (event.status = .upcoming ∨ event.status = .active)

def nextPayment (desk : Desk Journal) : Nat :=
  desk.view.lastPayment + 1

def nextTicket (desk : Desk Journal) : Nat :=
  desk.view.lastTicket + 1

def revenueOf (desk : Desk Journal) (id : EventId) : Decimal :=
  (desk.view.revenue.get? id).getD .zero

def paymentEdits (desk : Desk Journal) (payer : Raw) (id : EventId) (amount : Money) (currency : Raw)
    (total : Decimal) : List Edit :=
  [.lastPayment desk.nextPayment,
    .payment (.numbered desk.nextPayment)
      ⟨.whole desk.nextPayment, id, payer, amount, currency, .held, desk.clock⟩,
    .eventPayment id (.whole desk.nextPayment), .revenue id total]

inductive Effect (desk : Desk Journal) :
    Operation → List Edit → Funds → List Notice → Answer → Prop
  | created {organizer given name description venue date specs event}
      (verified : desk.Verified organizer) (named : given = .text event.id.text)
      (drafted : Event.draft desk.settings desk.clock organizer event.id name description venue date
        specs = .ok event)
      (free : desk.view.events.get? event.id = none) :
      Effect desk (.createEvent organizer given name description venue date specs) [.event event]
        desk.funds
        [.eventCreated event.id organizer event.name event.venue event.date event.tiers] (.event event)
  | detailsUpdated {organizer given changes event updated} (owns : desk.Owns organizer given event)
      (editable : event.status = .upcoming) (some : changes.isEmpty = false)
      (changed : event.change desk.settings desk.clock changes = .ok updated) :
      Effect desk (.updateEventDetails organizer given changes) [.event updated] desk.funds
        [.eventUpdated updated] (.event updated)
  | tierAdded {organizer given spec event id tier} (owns : desk.Owns organizer given event)
      (editable : event.status = .upcoming) (next : event.nextTierId = .ok id)
      (made : Tier.ofSpec desk.settings id spec = .ok tier) :
      Effect desk (.addTicketTier organizer given spec) [.event (event.withTier tier)] desk.funds
        [.eventUpdated (event.withTier tier)] (.tier tier)
  | tierUpdated {organizer given named changes event tier updated}
      (owns : desk.Owns organizer given event) (editable : event.status = .upcoming)
      (found : event.tier? named = some tier) (some : changes.isEmpty = false)
      (changed : tier.change desk.settings changes = .ok updated) :
      Effect desk (.updateTier organizer given named changes) [.event (event.withTier updated)]
        desk.funds [.eventUpdated (event.withTier updated)] (.tier updated)
  | statusUpdated {organizer given wanted event status} (owns : desk.Owns organizer given event)
      (known : EventStatus.ofRaw? wanted = some status)
      (allowed : event.status.canBecome status = true) :
      Effect desk (.updateEventStatus organizer given wanted) [.event { event with status }]
        desk.funds [.eventStatusChanged event.id event.status status] (.event { event with status })
  | cancelled {organizer given event} (owns : desk.Owns organizer given event)
      (allowed : event.status.canCancel = true) :
      Effect desk (.cancelEvent organizer given) [.event { event with status := .cancelled }]
        desk.funds
        [.eventStatusChanged event.id event.status .cancelled, .eventCancelled event.id]
        (.event { event with status := .cancelled })
  | registered {attendee given named event tier sold label} (verified : desk.Verified attendee)
      (names : desk.Names given event) (active : event.status = .active)
      (found : event.tier? named = some tier) (party : Label.ofRaw? attendee = some label)
      (free : desk.view.registrations.get? (event.id, label) = none)
      (places : tier.isSoldOut = .ok false) (sells : tier.sell = .ok sold) :
      Effect desk (.registerForEvent attendee given named)
        [.registration label ⟨event.id, attendee, named, desk.clock⟩, .attendee event.id attendee,
          .event (event.withTier sold)]
        desk.funds [.attendeeRegistered event.id attendee named sold.sold]
        (.registration ⟨event.id, attendee, named, desk.clock⟩)
  | escrowSet {admin currency} (verified : desk.Verified admin)
      (given : currency.isBlank = false) (free : desk.view.escrow = none) :
      Effect desk (.setUpEscrow admin currency) [.escrow ⟨admin, currency⟩] desk.funds []
        (.config ⟨admin, currency⟩)
  | paid {payer given sum id amount config held giver total funds} (verified : desk.Verified payer)
      (named : given = .text id.text) (charged : Escrow.requireAmount sum = .ok amount)
      (set : desk.view.escrow = some config) (book : desk.keepsFunds = true)
      (priced : Label.ofRaw? config.currency = some held) (party : Label.ofRaw? payer = some giver)
      (moved : desk.funds.transfer held giver (Label.ofRaw? desk.escrowAccount) amount.toDecimal =
        (.ok true, funds))
      (added : (desk.revenueOf id).add amount.toDecimal = .ok total) :
      Effect desk (.payForTicket payer given sum)
        (desk.paymentEdits payer id amount config.currency total) funds
        [.paymentReceived desk.nextPayment id payer amount] (.id desk.nextPayment)
  | minted {organizer given owner id label} (verified : desk.Verified organizer)
      (named : given = .text id.text) (someone : owner.isBlank = false)
      (issues : desk.Issues organizer id) (party : Label.ofRaw? owner = some label) :
      Effect desk (.mintTicket organizer given owner)
        [.lastTicket desk.nextTicket,
          .ticket (.numbered desk.nextTicket)
            ⟨.whole desk.nextTicket, id, organizer, owner, desk.clock, .valid⟩,
          .ownTicket label (.whole desk.nextTicket), .eventTicket id (.whole desk.nextTicket)]
        desk.funds [.ticketMinted desk.nextTicket id owner]
        (.ticket ⟨.whole desk.nextTicket, id, organizer, owner, desk.clock, .valid⟩)
  | ticketTransferred {source target given label ticket giver taker}
      (verified : desk.Verified source) (differ : source.same target = false)
      (someone : target.isBlank = false) (holds : desk.Holds given label ticket)
      (own : ticket.owner.same source = true) (valid : ticket.status = .valid)
      (party : Label.ofRaw? source = some giver) (other : Label.ofRaw? target = some taker) :
      Effect desk (.transferTicket source target given)
        (.ticket label { ticket with owner := target } :: desk.view.disowning given giver ++
          [.ownTicket taker given])
        desk.funds [.ticketTransferred given source target]
        (.ticket { ticket with owner := target })
  | ticketUsed {organizer given label ticket} (verified : desk.Verified organizer)
      (holds : desk.Holds given label ticket) (own : ticket.organizer.same organizer = true)
      (valid : ticket.status = .valid) :
      Effect desk (.useTicket organizer given) [.ticket label { ticket with status := .used }]
        desk.funds [.ticketUsed given organizer] (.ticket { ticket with status := .used })
  | ticketCancelled {caller given label ticket} (verified : desk.Verified caller)
      (holds : desk.Holds given label ticket) (own : ticket.owner.same caller = true)
      (valid : ticket.status = .valid) :
      Effect desk (.cancelTicket caller given) [.ticket label { ticket with status := .cancelled }]
        desk.funds [.ticketCancelled given caller] (.ticket { ticket with status := .cancelled })

inductive Finds (desk : Desk Journal) : Operation → Answer → Prop
  | sameDetails {organizer given changes event} (owns : desk.Owns organizer given event)
      (editable : event.status = .upcoming) (none : changes.isEmpty = true) :
      Finds desk (.updateEventDetails organizer given changes) (.event event)
  | sameTier {organizer given named changes event tier} (owns : desk.Owns organizer given event)
      (editable : event.status = .upcoming) (found : event.tier? named = some tier)
      (none : changes.isEmpty = true) :
      Finds desk (.updateTier organizer given named changes) (.tier tier)
  | sameEscrow {admin currency config} (set : desk.view.escrow = some config) :
      Finds desk (.setUpEscrow admin currency) (.config config)
  | event {given event} (names : desk.Names given event) : Finds desk (.getEvent given) (.event event)
  | status {given event} (names : desk.Names given event) :
      Finds desk (.getEventStatus given) (.status event.status)
  | events {organizer events}
      (listed : listing desk.view.events.values organizer = .ok events) :
      Finds desk (.listEvents organizer) (.events events)
  | isRegistered {given attendee event label} (names : desk.Names given event)
      (party : Label.ofRaw? attendee = some label) :
      Finds desk (.isRegistered given attendee)
        (.flag (desk.view.registrations.contains (event.id, label)))
  | attendees {given event} (names : desk.Names given event) :
      Finds desk (.getAttendees given) (.values (desk.view.attendees event.id))
  | escrow {config} (set : desk.view.escrow = some config) : Finds desk .getEscrow (.config config)
  | payment {given label payment} (named : Label.ofRaw? given = some label)
      (stored : desk.view.payments.get? label = some payment) :
      Finds desk (.getPayment given) (.payment payment)
  | revenue {given id} (named : given = .text (EventId.text id)) :
      Finds desk (.getEventRevenue given) (.amount (desk.revenueOf id))
  | eventPayments {given id} (named : given = .text (EventId.text id)) :
      Finds desk (.getEventPayments given) (.values (desk.view.eventPayments id))
  | ticket {given label ticket} (holds : desk.Holds given label ticket) :
      Finds desk (.getTicket given) (.ticket ticket)
  | ownerTickets {owner label ids} (named : Label.ofRaw? owner = some label)
      (listed : ids.map Raw.key = desk.view.ownerTickets label) :
      Finds desk (.getOwnerTickets owner) (.values ids)
  | eventTickets {given id} (named : given = .text (EventId.text id)) :
      Finds desk (.getEventTickets given) (.values (desk.view.eventTickets id))

structure Took (start : Desk Journal) (view : View) (funds : Funds) (told : List Notice)
    (after : Desk Journal) : Prop extends start.Around after where
  tame : after.Tame
  idle : after.store.Backed []
  view : after.view = view
  funds : after.funds = funds
  notices : after.notices = start.notices ++ told

/-- A request is refused, finds what it asks for, takes effect, or takes effect and then fails because a
receiver does. Only a refused payment may leave another book of funds. -/
inductive Ends (desk : Desk Journal) (request : Operation) :
    Except Failure Answer → Desk Journal → Prop
  | refused {failure after} (other : failure ≠ .receiverFailed)
      (book : (∀ payer event sum, request ≠ .payForTicket payer event sum) → after.funds = desk.funds)
      (took : desk.Took desk.view after.funds [] after) : Ends desk request (.error failure) after
  | found {answer after} (finds : desk.Finds request answer)
      (took : desk.Took desk.view desk.funds [] after) : Ends desk request (.ok answer) after
  | done {edits funds told answer after} (effect : desk.Effect request edits funds told answer)
      (took : desk.Took (edits.foldl View.edit desk.view) funds told after) :
      Ends desk request (.ok answer) after
  | unheard {edits funds told heard answer after}
      (effect : desk.Effect request edits funds told answer) (some : heard ≠ []) (early : heard <+: told)
      (took : desk.Took (edits.foldl View.edit desk.view) funds heard after) :
      Ends desk request (.error .receiverFailed) after

structure Ready (desk : Desk Journal) : Prop where
  tame : desk.Tame
  idle : desk.store.Backed []
  regular : desk.view.Regular

end Desk

def Action.Concludes {α : Type} (a : Action Journal α) (desk : Desk Journal) (request : Operation)
    (answer : α → Answer) : Prop :=
  a.Leads desk (fun failure after => desk.Ends request (.error failure) after)
    fun value after => desk.Ends request (.ok (answer value)) after

end BoxOffice
