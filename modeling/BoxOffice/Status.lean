import BoxOffice.Raw

/-! Stages in the life of an event, a payment and a ticket, and the moves between them. -/
namespace BoxOffice

inductive EventStatus
  | upcoming
  | active
  | completed
  | cancelled
  deriving DecidableEq, Repr

inductive PaymentStatus
  | held
  | released
  | refunded
  deriving DecidableEq, Repr

inductive TicketStatus
  | valid
  | used
  | cancelled
  deriving DecidableEq, Repr

namespace EventStatus

def all : List EventStatus := [upcoming, active, completed, cancelled]

def initial : EventStatus := upcoming

def text : EventStatus → String
  | upcoming => "upcoming"
  | active => "active"
  | completed => "completed"
  | cancelled => "cancelled"

def label : EventStatus → String
  | upcoming => "EventStatus.UPCOMING"
  | active => "EventStatus.ACTIVE"
  | completed => "EventStatus.COMPLETED"
  | cancelled => "EventStatus.CANCELLED"

def ofRaw? : Raw → Option EventStatus
  | .text value => all.find? fun status => status.text == value
  | _ => none

def canBecome : EventStatus → EventStatus → Bool
  | upcoming, active => true
  | active, completed => true
  | _, _ => false

def canCancel : EventStatus → Bool
  | upcoming | active => true
  | completed | cancelled => false

def isEditable (status : EventStatus) : Bool :=
  status == upcoming

theorem ofRawText (status : EventStatus) : ofRaw? (.text status.text) = some status := by
  cases status <;> decide

end EventStatus

namespace PaymentStatus

def all : List PaymentStatus := [held, released, refunded]

def text : PaymentStatus → String
  | held => "held"
  | released => "released"
  | refunded => "refunded"

def ofRaw? : Raw → Option PaymentStatus
  | .text value => all.find? fun status => status.text == value
  | _ => none

theorem ofRawText (status : PaymentStatus) : ofRaw? (.text status.text) = some status := by
  cases status <;> decide

end PaymentStatus

namespace TicketStatus

def all : List TicketStatus := [valid, used, cancelled]

def initial : TicketStatus := valid

def text : TicketStatus → String
  | valid => "valid"
  | used => "used"
  | cancelled => "cancelled"

def ofRaw? : Raw → Option TicketStatus
  | .text value => all.find? fun status => status.text == value
  | _ => none

def canBecome : TicketStatus → TicketStatus → Bool
  | valid, used => true
  | valid, cancelled => true
  | _, _ => false

def isTransferable (status : TicketStatus) : Bool :=
  status == valid

theorem ofRawText (status : TicketStatus) : ofRaw? (.text status.text) = some status := by
  cases status <;> decide

end TicketStatus
end BoxOffice
