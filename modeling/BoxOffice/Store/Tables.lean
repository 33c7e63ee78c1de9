import BoxOffice.Checked
import BoxOffice.Store.Call
import BoxOffice.Store.Table

/-! The tables of a store in memory, the single edits that a call makes in them, and how each edit
is taken back. The calls are answered from the tables; nothing here knows of blocks. Who is
registered, who owns tickets, payments and tickets are kept by labels. -/
namespace BoxOffice

abbrev Shelf (κ α : Type) := Table κ (List α)

namespace Shelf
variable {κ α : Type} [DecidableEq κ]

def items (t : Shelf κ α) (key : κ) : List α :=
  (t.get? key).getD []

def push (t : Shelf κ α) (key : κ) (item : α) : Shelf κ α :=
  t.put key (t.items key ++ [item])

def pop (t : Shelf κ α) (key : κ) : Shelf κ α :=
  t.put key (t.items key).dropLast

def takeOut (t : Shelf κ α) (key : κ) (position : Nat) : Shelf κ α :=
  t.put key ((t.items key).eraseIdx position)

def insert (t : Shelf κ α) (key : κ) (position : Nat) (item : α) : Shelf κ α :=
  t.put key ((t.items key).insertIdx position item)

end Shelf

structure Tables where
  events : Table EventId Event
  registrations : Table (EventId × Label) Registration
  attendees : Shelf EventId Raw
  escrow : Option EscrowConfig
  payments : Table Label Payment
  eventPayments : Shelf EventId Raw
  revenue : Table EventId Decimal
  tickets : Table Label Ticket
  ownerTickets : Shelf Label Raw
  eventTickets : Shelf EventId Raw
  lastPayment : Nat
  lastTicket : Nat
  deriving DecidableEq, Repr

namespace Tables

def empty : Tables :=
  ⟨.empty, .empty, .empty, none, .empty, .empty, .empty, .empty, .empty, .empty, 0, 0⟩

end Tables

inductive Edit
  | event (event : Event)
  | registration (label : Label) (registration : Registration)
  | attendee (event : EventId) (attendee : Raw)
  | escrow (config : EscrowConfig)
  | payment (label : Label) (payment : Payment)
  | eventPayment (event : EventId) (id : Raw)
  | revenue (event : EventId) (total : Decimal)
  | ticket (label : Label) (ticket : Ticket)
  | ownTicket (owner : Label) (id : Raw)
  | disownTicket (owner : Label) (position : Nat) (id : Raw)
  | eventTicket (event : EventId) (id : Raw)
  | lastPayment (id : Nat)
  | lastTicket (id : Nat)
  deriving DecidableEq, Repr

inductive Undo
  | event (id : EventId) (old : Option Event)
  | registration (key : EventId × Label) (old : Option Registration)
  | attendee (event : EventId)
  | escrow (old : Option EscrowConfig)
  | payment (label : Label) (old : Option Payment)
  | eventPayment (event : EventId)
  | revenue (event : EventId) (old : Option Decimal)
  | ticket (label : Label) (old : Option Ticket)
  | ownTicket (owner : Label)
  | disownTicket (owner : Label) (position : Nat) (id : Raw)
  | eventTicket (event : EventId)
  | lastPayment (old : Nat)
  | lastTicket (old : Nat)
  deriving DecidableEq, Repr

namespace Tables

def edit (t : Tables) : Edit → Tables
  | .event event => { t with events := t.events.put event.id event }
  | .registration label r => { t with registrations := t.registrations.put (r.event, label) r }
  | .attendee event attendee => { t with attendees := t.attendees.push event attendee }
  | .escrow config => { t with escrow := some config }
  | .payment label payment => { t with payments := t.payments.put label payment }
  | .eventPayment event id => { t with eventPayments := t.eventPayments.push event id }
  | .revenue event total => { t with revenue := t.revenue.put event total }
  | .ticket label ticket => { t with tickets := t.tickets.put label ticket }
  | .ownTicket owner id => { t with ownerTickets := t.ownerTickets.push owner id }
  | .disownTicket owner position _ =>
    { t with ownerTickets := t.ownerTickets.takeOut owner position }
  | .eventTicket event id => { t with eventTickets := t.eventTickets.push event id }
  | .lastPayment id => { t with lastPayment := id }
  | .lastTicket id => { t with lastTicket := id }

def undoing (t : Tables) : Edit → Undo
  | .event event => .event event.id (t.events.get? event.id)
  | .registration label r =>
    .registration (r.event, label) (t.registrations.get? (r.event, label))
  | .attendee event _ => .attendee event
  | .escrow _ => .escrow t.escrow
  | .payment label _ => .payment label (t.payments.get? label)
  | .eventPayment event _ => .eventPayment event
  | .revenue event _ => .revenue event (t.revenue.get? event)
  | .ticket label _ => .ticket label (t.tickets.get? label)
  | .ownTicket owner _ => .ownTicket owner
  | .disownTicket owner position id => .disownTicket owner position id
  | .eventTicket event _ => .eventTicket event
  | .lastPayment _ => .lastPayment t.lastPayment
  | .lastTicket _ => .lastTicket t.lastTicket

def undo (t : Tables) : Undo → Tables
  | .event id old => { t with events := t.events.restore id old }
  | .registration key old => { t with registrations := t.registrations.restore key old }
  | .attendee event => { t with attendees := t.attendees.pop event }
  | .escrow old => { t with escrow := old }
  | .payment label old => { t with payments := t.payments.restore label old }
  | .eventPayment event => { t with eventPayments := t.eventPayments.pop event }
  | .revenue event old => { t with revenue := t.revenue.restore event old }
  | .ticket label old => { t with tickets := t.tickets.restore label old }
  | .ownTicket owner => { t with ownerTickets := t.ownerTickets.pop owner }
  | .disownTicket owner position id =>
    { t with ownerTickets := t.ownerTickets.insert owner position id }
  | .eventTicket event => { t with eventTickets := t.eventTickets.pop event }
  | .lastPayment old => { t with lastPayment := old }
  | .lastTicket old => { t with lastTicket := old }

def disowning (t : Tables) (id : Raw) (owner : Label) : List Edit :=
  match (t.ownerTickets.items owner).findIdx? fun listed => listed.alike id with
  | some position => [.disownTicket owner position id]
  | none => []

/- The answer to a call, with the edits it makes in order. A call that finds on its way that a
value goes by no label has made the edits before. -/
def plan (t : Tables) : (c : StoreCall) → Except Failure c.Answer × List Edit
  | .listEvents organizer => (listing t.events.values organizer, [])
  | .getEvent id => (.ok (t.events.get? id), [])
  | .eventExists id => (.ok (t.events.contains id), [])
  | .addEvent event =>
    if t.events.contains event.id then (.error (.eventStored event.id), [])
    else (.ok (), [.event event])
  | .saveEvent event =>
    if t.events.contains event.id then (.ok (), [.event event])
    else (.error (.eventNotStored event.id), [])
  | .isRegistered event attendee =>
    ((Checked.label attendee).map fun label => t.registrations.contains (event, label), [])
  | .addRegistration r =>
    match Checked.label r.attendee with
    | .error failure => (.error failure, [])
    | .ok label =>
      if t.registrations.contains (r.event, label) then (.error (.attendeeStored r.attendee), [])
      else (.ok (), [.registration label r, .attendee r.event r.attendee])
  | .listAttendees event => (.ok (t.attendees.items event), [])
  | .getEscrow => (.ok t.escrow, [])
  | .setEscrow config => (.ok (), [.escrow config])
  | .nextPaymentId => (.ok ((t.lastPayment + 1 : Nat) : Int), [.lastPayment (t.lastPayment + 1)])
  | .addPayment payment =>
    match Checked.label payment.id with
    | .error failure => (.error failure, [])
    | .ok label => (.ok (), [.payment label payment, .eventPayment payment.event payment.id])
  | .getPayment id => ((Checked.label id).map t.payments.get?, [])
  | .listEventPayments event => (.ok (t.eventPayments.items event), [])
  | .getRevenue event => (.ok ((t.revenue.get? event).getD .zero), [])
  | .addRevenue event amount =>
    match ((t.revenue.get? event).getD .zero).add amount with
    | .ok total => (.ok total, [.revenue event total])
    | .error fault => (.error (.ofArithmetic fault), [])
  | .nextTicketId => (.ok ((t.lastTicket + 1 : Nat) : Int), [.lastTicket (t.lastTicket + 1)])
  | .addTicket ticket =>
    match Checked.label ticket.id, Checked.label ticket.owner with
    | .error failure, _ => (.error failure, [])
    | .ok label, .error failure => (.error failure, [.ticket label ticket])
    | .ok label, .ok owner =>
      (.ok (), [.ticket label ticket, .ownTicket owner ticket.id,
        .eventTicket ticket.event ticket.id])
  | .getTicket id => ((Checked.label id).map t.tickets.get?, [])
  | .saveTicket ticket =>
    match Checked.label ticket.id with
    | .error failure => (.error failure, [])
    | .ok label =>
      if t.tickets.contains label then (.ok (), [.ticket label ticket])
      else (.error (.ticketNotStored ticket.id), [])
  | .moveTicket id source target =>
    match Checked.label source, Checked.label target with
    | .error failure, _ => (.error failure, [])
    | .ok source, .error failure => (.error failure, t.disowning id source)
    | .ok source, .ok target => (.ok (), t.disowning id source ++ [.ownTicket target id])
  | .listOwnerTickets owner => ((Checked.label owner).map t.ownerTickets.items, [])
  | .listEventTickets event => (.ok (t.eventTickets.items event), [])

def extent (t : Tables) : Nat :=
  max t.payments.entries.length t.tickets.entries.length

end Tables
end BoxOffice
