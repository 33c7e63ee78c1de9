import BoxOffice.Event
import BoxOffice.Records

/-! What observers are told after a change has taken effect. -/
namespace BoxOffice

inductive Notice
  | eventCreated (event : EventId) (organizer name venue : Raw) (date : Option Moment)
      (tiers : List Tier)
  | eventUpdated (event : Event)
  | eventStatusChanged (event : EventId) (old new : EventStatus)
  | eventCancelled (event : EventId)
  | attendeeRegistered (event : EventId) (attendee tier sold : Raw)
  | paymentReceived (id : Int) (event : EventId) (payer : Raw) (amount : Money)
  | ticketMinted (id : Int) (event : EventId) (owner : Raw)
  | ticketTransferred (id source target : Raw)
  | ticketUsed (id organizer : Raw)
  | ticketCancelled (id owner : Raw)
  deriving DecidableEq, Repr

namespace Notice

def names : List String :=
  ["event_created", "event_updated", "event_status_changed", "event_cancelled",
    "attendee_registered", "payment_received", "ticket_minted", "ticket_transferred", "ticket_used",
    "ticket_cancelled"]

def name : Notice → String
  | eventCreated .. => "event_created"
  | eventUpdated _ => "event_updated"
  | eventStatusChanged .. => "event_status_changed"
  | eventCancelled _ => "event_cancelled"
  | attendeeRegistered .. => "attendee_registered"
  | paymentReceived .. => "payment_received"
  | ticketMinted .. => "ticket_minted"
  | ticketTransferred .. => "ticket_transferred"
  | ticketUsed .. => "ticket_used"
  | ticketCancelled .. => "ticket_cancelled"

def sender : Notice → String
  | eventCreated .. | eventUpdated _ | eventStatusChanged .. | eventCancelled _ => "EventService"
  | attendeeRegistered .. => "RegistrationService"
  | paymentReceived .. => "PaymentService"
  | ticketMinted .. | ticketTransferred .. | ticketUsed .. | ticketCancelled .. => "TicketService"

theorem nameKnown (notice : Notice) : notice.name ∈ names := by
  cases notice <;> simp [name, names]

end Notice
end BoxOffice
