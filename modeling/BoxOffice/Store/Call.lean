import BoxOffice.Event
import BoxOffice.Failure
import BoxOffice.Records
import BoxOffice.Store.Interruption

/-! The calls that a record store answers, and what it takes to be one: calls, and blocks of calls
that take effect together or not at all. -/
namespace BoxOffice

inductive StoreCall
  | listEvents (organizer : Raw)
  | getEvent (id : EventId)
  | eventExists (id : EventId)
  | addEvent (event : Event)
  | saveEvent (event : Event)
  | isRegistered (event : EventId) (attendee : Raw)
  | addRegistration (registration : Registration)
  | listAttendees (event : EventId)
  | getEscrow
  | setEscrow (config : EscrowConfig)
  | nextPaymentId
  | addPayment (payment : Payment)
  | getPayment (id : Raw)
  | listEventPayments (event : EventId)
  | getRevenue (event : EventId)
  | addRevenue (event : EventId) (amount : Decimal)
  | nextTicketId
  | addTicket (ticket : Ticket)
  | getTicket (id : Raw)
  | saveTicket (ticket : Ticket)
  | moveTicket (id source target : Raw)
  | listOwnerTickets (owner : Raw)
  | listEventTickets (event : EventId)
  deriving DecidableEq, Repr

namespace StoreCall

abbrev Answer : StoreCall → Type
  | listEvents _ => List Event
  | getEvent _ => Option Event
  | eventExists _ => Bool
  | addEvent _ => Unit
  | saveEvent _ => Unit
  | isRegistered _ _ => Bool
  | addRegistration _ => Unit
  | listAttendees _ => List Raw
  | getEscrow => Option EscrowConfig
  | setEscrow _ => Unit
  | nextPaymentId => Int
  | addPayment _ => Unit
  | getPayment _ => Option Payment
  | listEventPayments _ => List Raw
  | getRevenue _ => Decimal
  | addRevenue _ _ => Decimal
  | nextTicketId => Int
  | addTicket _ => Unit
  | getTicket _ => Option Ticket
  | saveTicket _ => Unit
  | moveTicket _ _ _ => Unit
  | listOwnerTickets _ => List Raw
  | listEventTickets _ => List Raw

def method : StoreCall → String
  | listEvents _ => "list_events"
  | getEvent _ => "get_event"
  | eventExists _ => "event_exists"
  | addEvent _ => "add_event"
  | saveEvent _ => "save_event"
  | isRegistered _ _ => "is_registered"
  | addRegistration _ => "add_registration"
  | listAttendees _ => "list_attendees"
  | getEscrow => "get_escrow_config"
  | setEscrow _ => "set_escrow_config"
  | nextPaymentId => "next_payment_id"
  | addPayment _ => "add_payment"
  | getPayment _ => "get_payment"
  | listEventPayments _ => "list_event_payments"
  | getRevenue _ => "get_event_revenue"
  | addRevenue _ _ => "add_event_revenue"
  | nextTicketId => "next_ticket_id"
  | addTicket _ => "add_ticket"
  | getTicket _ => "get_ticket"
  | saveTicket _ => "save_ticket"
  | moveTicket _ _ _ => "move_ticket"
  | listOwnerTickets _ => "list_owner_tickets"
  | listEventTickets _ => "list_event_tickets"

def methods : List String :=
  ["list_events", "get_event", "event_exists", "add_event", "save_event", "is_registered",
    "add_registration", "list_attendees", "get_escrow_config", "set_escrow_config",
    "next_payment_id", "add_payment", "get_payment", "list_event_payments", "get_event_revenue",
    "add_event_revenue", "next_ticket_id", "add_ticket", "get_ticket", "save_ticket", "move_ticket",
    "list_owner_tickets", "list_event_tickets"]

theorem methodKnown (c : StoreCall) : c.method ∈ methods := by
  cases c <;> simp [method, methods]

end StoreCall

def blockMethod : String := "atomic"

def counterMethod : String := "_next"

/-- A store of records. A call that fails may leave part of its work behind, which goes with the
block around it. A block is entered, and then either committed or rolled back; blocks nest, and a
commit may be refused. -/
class RecordStore (σ : Type) where
  empty : σ
  call : (c : StoreCall) → σ → Except Failure c.Answer × σ
  enter : σ → σ
  commit : σ → Except Failure σ
  rollBack : σ → σ
  /- The names of what the store is made of, most of them methods. -/
  names : List String
  /- How a call ends if one of its inner methods is disturbed. -/
  interrupted : StoreCall → Waiting → σ → Option (Interruption σ)
  /- Why no block can be entered, if something else stands in the place of a part. -/
  barrier : Waiting → Option Failure
  /- No payment or ticket list of ids 1, 2, … in the store is longer. -/
  extent : σ → Nat

def newestFirst (events : List (Moment × Event)) : List Event :=
  (events.mergeSort fun a b => b.1.instant ≤ a.1.instant).map Prod.snd

def isOrdered (times : List Moment) : Bool :=
  times.all (·.isNaive) || times.all (!·.isNaive)

/- The events of one organizer, or all if none is given, the newest first. Where two or more are to
be ordered, each needs a time. -/
def listing (events : List Event) (organizer : Raw) : Except Failure (List Event) :=
  let chosen := match organizer with
    | .nothing => events
    | organizer => events.filter fun event => event.organizer.same organizer
  match chosen with
  | [] | [_] => .ok chosen
  | chosen =>
    match chosen.mapM fun event => event.createdAt.map (·, event) with
    | some timed =>
      if isOrdered (timed.map Prod.fst) then .ok (newestFirst timed) else .error .unordered
    | none => .error .unordered

end BoxOffice
