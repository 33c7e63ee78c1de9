import BoxOffice.EventId
import BoxOffice.Moment.Basic
import BoxOffice.Money
import BoxOffice.Raw
import BoxOffice.Status

/-! What is recorded beside the events: who is registered, how money is taken, payments, tickets.
Parties, currencies and ids are recorded as they are given, and a record may come without a time. -/
namespace BoxOffice

structure Registration where
  event : EventId
  attendee : Raw
  tier : Raw
  registeredAt : Option Moment
  deriving DecidableEq, Repr

structure EscrowConfig where
  admin : Raw
  currency : Raw
  deriving DecidableEq, Repr

structure Payment where
  id : Raw
  event : EventId
  payer : Raw
  amount : Money
  currency : Raw
  status : PaymentStatus
  paidAt : Option Moment
  deriving DecidableEq, Repr

structure Ticket where
  id : Raw
  event : EventId
  organizer : Raw
  owner : Raw
  issuedAt : Option Moment
  status : TicketStatus
  deriving DecidableEq, Repr

end BoxOffice
