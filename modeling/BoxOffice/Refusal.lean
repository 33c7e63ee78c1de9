import BoxOffice.Money
import BoxOffice.Status

/-! The closed set of codes under which the event registry, the payment escrow and the ticket ledger
refuse a request, the category of each code, and the causes behind them with their wording. -/
namespace BoxOffice

inductive Category
  | notFound
  | authorization
  | invalidInput
  | invalidStateTransition
  | capacity
  deriving DecidableEq, Repr

def Category.text : Category → String
  | notFound => "not_found"
  | authorization => "authorization"
  | invalidInput => "invalid_input"
  | invalidStateTransition => "invalid_state_transition"
  | capacity => "capacity"

inductive Code
  | eventNotFound
  | eventAlreadyExists
  | invalidStatusTransition
  | unauthorized
  | invalidInput
  | eventNotActive
  | invalidEventDate
  | invalidTicketCount
  | invalidPrice
  | eventNotUpdatable
  | tierNotFound
  | tierSoldOut
  | alreadyRegistered
  | paymentNotFound
  | insufficientFunds
  | invalidAmount
  | notInitialized
  | ticketNotFound
  | ticketNotTransferable
  | transferToSelf
  | ticketAlreadyUsed
  deriving DecidableEq, Repr

namespace Code

def text : Code → String
  | eventNotFound => "EVENT_NOT_FOUND"
  | eventAlreadyExists => "EVENT_ALREADY_EXISTS"
  | invalidStatusTransition => "INVALID_STATUS_TRANSITION"
  | unauthorized => "UNAUTHORIZED"
  | invalidInput => "INVALID_INPUT"
  | eventNotActive => "EVENT_NOT_ACTIVE"
  | invalidEventDate => "INVALID_EVENT_DATE"
  | invalidTicketCount => "INVALID_TICKET_COUNT"
  | invalidPrice => "INVALID_PRICE"
  | eventNotUpdatable => "EVENT_NOT_UPDATABLE"
  | tierNotFound => "TIER_NOT_FOUND"
  | tierSoldOut => "TIER_SOLD_OUT"
  | alreadyRegistered => "ALREADY_REGISTERED"
  | paymentNotFound => "PAYMENT_NOT_FOUND"
  | insufficientFunds => "INSUFFICIENT_FUNDS"
  | invalidAmount => "INVALID_AMOUNT"
  | notInitialized => "NOT_INITIALIZED"
  | ticketNotFound => "TICKET_NOT_FOUND"
  | ticketNotTransferable => "TICKET_NOT_TRANSFERABLE"
  | transferToSelf => "TRANSFER_TO_SELF"
  | ticketAlreadyUsed => "TICKET_ALREADY_USED"

def category : Code → Category
  | eventNotFound | tierNotFound | paymentNotFound | ticketNotFound => .notFound
  | unauthorized => .authorization
  | invalidInput | invalidEventDate | invalidTicketCount | invalidPrice | invalidAmount
  | transferToSelf => .invalidInput
  | invalidStatusTransition | eventNotActive | eventNotUpdatable | ticketNotTransferable
  | ticketAlreadyUsed | notInitialized => .invalidStateTransition
  | insufficientFunds | tierSoldOut | alreadyRegistered | eventAlreadyExists => .capacity

def report (code : Code) (words : String) : String :=
  code.text ++ ": " ++ words

end Code

inductive Component
  | event
  | payment
  | ticket
  deriving DecidableEq, Repr

namespace Component

def codes : Component → List Code
  | event => [.eventNotFound, .eventAlreadyExists, .invalidStatusTransition, .unauthorized,
      .invalidInput, .eventNotActive, .invalidEventDate, .invalidTicketCount, .invalidPrice,
      .eventNotUpdatable, .tierNotFound, .tierSoldOut, .alreadyRegistered]
  | payment => [.paymentNotFound, .insufficientFunds, .unauthorized, .invalidAmount, .invalidInput,
      .notInitialized]
  | ticket => [.ticketNotFound, .eventNotFound, .invalidStatusTransition, .unauthorized,
      .invalidInput, .ticketNotTransferable, .transferToSelf, .ticketAlreadyUsed, .eventNotActive]

def code? (component : Component) : Raw → Option Code
  | .text text => component.codes.find? fun code => code.text == text
  | _ => none

end Component

def MoneyFault.text : MoneyFault → String
  | notAnAmount shown => "Not a valid amount: " ++ shown
  | negative => "Money amount cannot be negative"
  | outOfRange => "Money amount is out of range"
  | finerThanCent => "Money amount cannot be finer than a cent"
  | incomparable => ""

def EventId.rule : String :=
  "Event ID must be 1-32 characters of [A-Za-z0-9_]"

inductive TextField
  | name
  | venue
  | tierName
  deriving DecidableEq, Repr

def TextField.text : TextField → String
  | name => "name"
  | venue => "venue"
  | tierName => "tier name"

inductive EventRefusal
  | callerNotVerified
  | malformedId
  | emptyText (field : TextField)
  | noTiers
  | dateWithoutZone
  | dateTooSoon
  | invalidCapacity
  | invalidPrice (fault : MoneyFault)
  | alreadyExists
  | notOrganizer
  | notEditable
  | tierNotFound
  | capacityBelowSold
  | unknownStatus (shown : String)
  | invalidTransition (old new : EventStatus)
  | cannotCancel (status : EventStatus)
  | notActive
  | alreadyRegistered
  | tierSoldOut
  deriving DecidableEq, Repr

namespace EventRefusal

def code : EventRefusal → Code
  | callerNotVerified | notOrganizer => .unauthorized
  | malformedId | emptyText _ | noTiers | unknownStatus _ => .invalidInput
  | dateWithoutZone | dateTooSoon => .invalidEventDate
  | invalidCapacity | capacityBelowSold => .invalidTicketCount
  | invalidPrice _ => .invalidPrice
  | alreadyExists => .eventAlreadyExists
  | notEditable => .eventNotUpdatable
  | tierNotFound => .tierNotFound
  | invalidTransition _ _ | cannotCancel _ => .invalidStatusTransition
  | notActive => .eventNotActive
  | alreadyRegistered => .alreadyRegistered
  | tierSoldOut => .tierSoldOut

def words : EventRefusal → String
  | callerNotVerified => "Caller not authenticated"
  | malformedId => EventId.rule
  | emptyText field => "The " ++ field.text ++ " must not be empty"
  | noTiers => "At least one tier is required"
  | dateWithoutZone => "Event date needs a timezone"
  | dateTooSoon => "Event date is too close or in the past"
  | invalidCapacity => "Invalid tier capacity"
  | invalidPrice fault => fault.text
  | alreadyExists => "Event already exists"
  | notOrganizer => "Only the organizer may do this"
  | notEditable => "Only upcoming events can be edited"
  | tierNotFound => "Tier not found"
  | capacityBelowSold => "Capacity cannot drop below tickets already sold"
  | unknownStatus shown => "Unknown status " ++ shown
  | invalidTransition old new => "Cannot transition " ++ old.text ++ " -> " ++ new.text
  | cannotCancel status => "Cannot cancel a " ++ status.text ++ " event"
  | notActive => "Event is not active"
  | alreadyRegistered => "Attendee already registered"
  | tierSoldOut => "Tier is sold out"

end EventRefusal

inductive PaymentRefusal
  | callerNotVerified
  | malformedId
  | invalidAmount (fault : MoneyFault)
  | amountNotPositive
  | notInitialized
  | currencyRequired
  | transferRefused
  deriving DecidableEq, Repr

namespace PaymentRefusal

def code : PaymentRefusal → Code
  | callerNotVerified => .unauthorized
  | malformedId | currencyRequired => .invalidInput
  | invalidAmount _ | amountNotPositive => .invalidAmount
  | notInitialized => .notInitialized
  | transferRefused => .insufficientFunds

def words : PaymentRefusal → String
  | callerNotVerified => "Caller not authenticated"
  | malformedId => EventId.rule
  | invalidAmount fault => fault.text
  | amountNotPositive => "Amount must be positive"
  | notInitialized => "Escrow not initialized"
  | currencyRequired => "Currency is required"
  | transferRefused => "Funds transfer failed"

end PaymentRefusal

inductive TicketRefusal
  | callerNotVerified
  | malformedId
  | ownerRequired
  | eventNotFound
  | notOrganizer
  | eventOver
  | transferToSelf
  | recipientRequired
  | notOwner
  | notTransferable (status : TicketStatus)
  | notIssuer
  | alreadyUsed
  | cancelled
  | cannotCancel (status : TicketStatus)
  deriving DecidableEq, Repr

namespace TicketRefusal

def code : TicketRefusal → Code
  | callerNotVerified | notOrganizer | notOwner | notIssuer => .unauthorized
  | malformedId | ownerRequired | recipientRequired => .invalidInput
  | eventNotFound => .eventNotFound
  | eventOver | cancelled => .eventNotActive
  | transferToSelf => .transferToSelf
  | notTransferable _ => .ticketNotTransferable
  | alreadyUsed => .ticketAlreadyUsed
  | cannotCancel _ => .invalidStatusTransition

def words : TicketRefusal → String
  | callerNotVerified => "Caller not authenticated"
  | malformedId => EventId.rule
  | ownerRequired => "Owner is required"
  | eventNotFound => "Event not found"
  | notOrganizer => "Only the organizer may issue"
  | eventOver => "Event is over"
  | transferToSelf => "Cannot transfer to self"
  | recipientRequired => "Recipient is required"
  | notOwner => "Caller does not own ticket"
  | notTransferable status => "A " ++ status.text ++ " ticket cannot be transferred"
  | notIssuer => "Only the issuer may check in"
  | alreadyUsed => "Ticket already used"
  | cancelled => "Ticket was cancelled"
  | cannotCancel status => "A " ++ status.text ++ " ticket cannot be cancelled"

end TicketRefusal

theorem eventRefusalCode (refusal : EventRefusal) : refusal.code ∈ Component.event.codes := by
  cases refusal <;> simp [EventRefusal.code, Component.codes]

theorem paymentRefusalCode (refusal : PaymentRefusal) : refusal.code ∈ Component.payment.codes := by
  cases refusal <;> simp [PaymentRefusal.code, Component.codes]

theorem ticketRefusalCode (refusal : TicketRefusal) : refusal.code ∈ Component.ticket.codes := by
  cases refusal <;> simp [TicketRefusal.code, Component.codes]

end BoxOffice
