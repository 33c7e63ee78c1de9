import BoxOffice.Desk.Admission
import BoxOffice.Desk.Allocation
import BoxOffice.Desk.Escrow
import BoxOffice.Desk.Registry
import BoxOffice.Store.Program

/-! What can be asked of a desk, as data: the operations of the four parts, and the moves of the
world around them. A run takes one step after the other; a step that fails does not end it. -/
namespace BoxOffice

/- Parties, events, amounts and the ids of records come as any values, and are checked when their
turn comes. An event may come without a date. -/
inductive Operation
  | createEvent (organizer event name description venue : Raw) (date : Option Moment)
      (tiers : List TierSpec)
  | updateEventDetails (organizer event : Raw) (changes : EventChanges)
  | addTicketTier (organizer event : Raw) (tier : TierSpec)
  | updateTier (organizer event tier : Raw) (changes : TierChanges)
  | updateEventStatus (organizer event status : Raw)
  | cancelEvent (organizer event : Raw)
  | getEvent (event : Raw)
  | getEventStatus (event : Raw)
  | listEvents (organizer : Raw)
  | registerForEvent (attendee event tier : Raw)
  | isRegistered (event attendee : Raw)
  | getAttendees (event : Raw)
  | setUpEscrow (admin currency : Raw)
  | getEscrow
  | payForTicket (payer event amount : Raw)
  | getPayment (id : Raw)
  | getEventRevenue (event : Raw)
  | getEventPayments (event : Raw)
  | mintTicket (organizer event owner : Raw)
  | transferTicket (source target id : Raw)
  | useTicket (organizer id : Raw)
  | cancelTicket (caller id : Raw)
  | getTicket (id : Raw)
  | getOwnerTickets (owner : Raw)
  | getEventTickets (event : Raw)
  deriving Repr

inductive Answer
  | event (event : Event)
  | tier (tier : Tier)
  | status (status : EventStatus)
  | events (events : List Event)
  | registration (registration : Registration)
  | flag (value : Bool)
  | values (values : List Raw)
  | config (config : EscrowConfig)
  | id (id : Int)
  | payment (payment : Payment)
  | amount (amount : Decimal)
  | ticket (ticket : Ticket)
  | moment (moment : Moment)
  | survey (survey : Survey) (balances : List (Raw × Raw × Decimal))
  | nothing
  deriving Repr

namespace Operation
variable {σ : Type} [RecordStore σ]

def run : Operation → Action σ Answer
  | createEvent organizer event name description venue date tiers =>
    return .event (← Registry.create organizer event name description venue date tiers)
  | updateEventDetails organizer event changes =>
    return .event (← Registry.updateDetails organizer event changes)
  | addTicketTier organizer event tier => return .tier (← Registry.addTier organizer event tier)
  | updateTier organizer event tier changes =>
    return .tier (← Registry.updateTier organizer event tier changes)
  | updateEventStatus organizer event status =>
    return .event (← Registry.updateStatus organizer event status)
  | cancelEvent organizer event => return .event (← Registry.cancel organizer event)
  | getEvent event => return .event (← Registry.get event)
  | getEventStatus event => return .status (← Registry.get event).status
  | listEvents organizer => return .events (← Registry.list organizer)
  | registerForEvent attendee event tier =>
    return .registration (← Allocation.register attendee event tier)
  | isRegistered event attendee => return .flag (← Allocation.isRegistered event attendee)
  | getAttendees event => return .values (← Allocation.attendees event)
  | setUpEscrow admin currency => return .config (← Escrow.setUp admin currency)
  | getEscrow => return .config (← Escrow.config)
  | payForTicket payer event amount => return .id (← Escrow.pay payer event amount)
  | getPayment id => return .payment (← Escrow.payment id)
  | getEventRevenue event => return .amount (← Escrow.revenue event)
  | getEventPayments event => return .values (← Escrow.eventPayments event)
  | mintTicket organizer event owner => return .ticket (← Admission.mint organizer event owner)
  | transferTicket source target id => return .ticket (← Admission.transfer source target id)
  | useTicket organizer id => return .ticket (← Admission.use organizer id)
  | cancelTicket caller id => return .ticket (← Admission.cancel caller id)
  | getTicket id => return .ticket (← Admission.load id)
  | getOwnerTickets owner => return .values (← Admission.ownerTickets owner)
  | getEventTickets event => return .values (← Admission.eventTickets event)

end Operation

/- A request, or a move of the world around the desk. A record that could not be made fails when
its turn comes, and so does a step that could not be read. Accounts are pairs with a currency. -/
inductive Step
  | operation (request : Operation)
  | approve (identity : Raw)
  | revoke (identity : Raw)
  | verify (identity : Raw)
  | deposit (currency account amount : Raw)
  | balance (currency account : Raw)
  | transfer (currency source target amount : Raw)
  | advance (seconds micros : Raw)
  | configure (settings : Settings)
  | seed (event : Except Failure Event)
  | breakStore (fault : StoreFault)
  | breakReceiver (name : String)
  | survey (ids owners accounts : List Raw)
  | unreadable (failure : Failure)
  deriving Repr

namespace Step
variable {σ : Type} [RecordStore σ]

def replaceVerifier (change : Verifier → Except Failure Verifier) : Action σ Answer := do
  let verifier ← change (← Action.ownVerifier)
  modify fun desk => { desk with verifier := some verifier }
  return .nothing

def balanceOf (currency account : Raw) : Action σ Decimal := do
  let book ← Action.book
  return book.balance (← Checked.label currency) (← Checked.label account)

def requireName (name : String) : Action σ Unit := do
  if !(RecordStore.names σ).contains name then throw .notOffered

def balanceOfAccount (given : Raw) : Action σ (Raw × Raw × Decimal) := do
  let (currency, account) ← Checked.pair given
  return (currency, account, ← balanceOf currency account)

def run : Step → Action σ Answer
  | operation request => request.run
  | approve identity => replaceVerifier (·.approve identity)
  | revoke identity => replaceVerifier (·.revoke identity)
  | verify identity => do return .flag (← (← Action.ownVerifier).verify identity)
  | deposit currency account amount => do
    let book ← Action.book
    let currency ← Checked.label currency
    let account ← Checked.label account
    let funds ← book.deposit currency account (← Checked.decimal amount)
    modify fun desk => { desk with funds }
    return .nothing
  | balance currency account => return .amount (← balanceOf currency account)
  | transfer currency source target amount => do
    let _ ← Action.book
    return .flag (← Escrow.transfer currency source target (← Checked.decimal amount))
  | advance seconds micros => do
    let micros ← span seconds micros
    let clock ← later (← get).clock micros
    modify fun desk => { desk with clock := some clock }
    return .moment clock
  | configure settings => do
    modify fun desk => { desk with settings }
    return .nothing
  | seed event => do
    requireName "add_event"
    Action.call (.addEvent (← event))
    return .nothing
  | breakStore fault => do
    requireName fault.method
    modify fun desk => { desk with storeFaults := fault :: desk.storeFaults }
    return .nothing
  | breakReceiver name => do
    modify fun desk => { desk with brokenReceivers := desk.brokenReceivers.insert name }
    return .nothing
  | survey ids owners accounts => do
    let extent := RecordStore.extent (← get).store
    let survey ← Survey.take (m := Action σ) Action.call extent ids owners
    return .survey survey (← accounts.mapM balanceOfAccount)
  | unreadable failure => throw failure

structure Record where
  outcome : Except Failure Answer
  notices : List Notice
  log : List LogLine

def take (step : Step) (desk : Desk σ) : Record × Desk σ :=
  let (outcome, after) := step.run.perform desk
  (⟨outcome, after.notices.drop desk.notices.length, after.log.drop desk.log.length⟩, after)

def takeAll : List Step → Desk σ → List Record × Desk σ
  | [], desk => ([], desk)
  | step :: rest, desk =>
    let (record, desk) := step.take desk
    let (records, desk) := takeAll rest desk
    (record :: records, desk)

end Step
end BoxOffice
