import BoxOffice.EventId
import BoxOffice.Moment.Reading
import BoxOffice.Raw
import BoxOffice.Refusal
import BoxOffice.Text.Integer

/-! Everything that can end a request: a refusal under a code, a missing record, a value or a part
that is not what it should be, a store that does not take a write, or a disturbance from outside. -/
namespace BoxOffice

inductive PartsFault
  | count
  | sign
  | word
  | exponent
  | digits
  deriving DecidableEq, Repr

def PartsFault.text : PartsFault → String
  | count => "argument must be a sequence of length 3"
  | sign => "sign must be an integer with the value 0 or 1"
  | word => "string argument in the third position must be 'F', 'n' or 'N'"
  | exponent => "exponent must be an integer"
  | digits => "coefficient must be a tuple of digits"

inductive Failure
  | event (refusal : EventRefusal)
  | payment (refusal : PaymentRefusal)
  | ticket (refusal : TicketRefusal)
  | eventMissing (id : EventId)
  | paymentMissing (id : Raw)
  | ticketMissing (id : Raw)
  | malformedId
  | notMoney (fault : MoneyFault)
  | negativeCapacity
  | unknownEventStatus (shown : String)
  | unknownPaymentStatus (shown : String)
  | unknownTicketStatus (shown : String)
  | unknownCode (component : Component) (shown : String)
  | notAnInteger (fault : Text.IntegerFault) (shown : String)
  | eventStored (id : EventId)
  | eventNotStored (id : EventId)
  | attendeeStored (attendee : Raw)
  | ticketNotStored (id : Raw)
  | unknownSetting (name : String)
  | fieldMissing (name : String)
  | undefinedAmount
  | amountOverflow
  | notANumber
  | noWholePart
  | notADecimal (fault : PartsFault)
  | notAText
  | notALabel
  | notAColumnNumber (column : String) (shown : String)
  | nothingToAdd
  | notAPair (count : Nat)
  | misplaced
  | unknownStep
  | notAMoment (fault : MomentFault) (shown : String)
  | notEncodable
  | embeddedZero
  | variableMisnamed
  | variableUnnamed
  | dateOverflow
  | integerOverflow
  | unordered
  | constraintViolated
  | rowMissing
  | columnNotFinite
  | writeFailed
  | receiverFailed
  | aborted
  | notOffered
  | notAPath (path : String)
  | moduleUnnamed
  | moduleRelative
  | moduleMissing
  | nameMissing (module : String) (name : String)
  | notMakeable
  | madeOfItself
  deriving DecidableEq, Repr

namespace Failure

def ofArithmetic : Decimal.Fault → Failure
  | .undefined => undefinedAmount
  | .overflow => amountOverflow

def ofMoney : MoneyFault → Failure
  | .incomparable => undefinedAmount
  | fault => notMoney fault

def code? : Failure → Option Code
  | event refusal => some refusal.code
  | payment refusal => some refusal.code
  | ticket refusal => some refusal.code
  | eventMissing _ => some .eventNotFound
  | paymentMissing _ => some .paymentNotFound
  | ticketMissing _ => some .ticketNotFound
  | _ => none

def codeTypeName : Component → String
  | .event => "EventErrorCode"
  | .payment => "PaymentErrorCode"
  | .ticket => "TicketErrorCode"

def shownSpan (micros : Int) : String :=
  let parts := [("days", micros.fdiv Moment.microsPerDay),
    ("seconds", micros.fmod Moment.microsPerDay / Moment.microsPerSecond),
    ("microseconds", micros.fmod Moment.microsPerSecond)]
  let shown := (parts.filter fun part => part.2 != 0).map fun (unit, n) => s!"{unit}={n}"
  "datetime.timedelta(" ++ ", ".intercalate shown ++ ")"

def momentWords (fault : MomentFault) (shown : String) : String :=
  match fault with
  | .malformed => "Invalid isoformat string: " ++ shown
  | .offset micros => "offset must be a timedelta strictly between -timedelta(hours=24) and " ++
    "timedelta(hours=24), not " ++ shownSpan micros ++ "."
  | .year year => s!"year {year} is out of range"
  | .month => "month must be in 1..12"
  | .day => "day is out of range for month"
  | .hour => "hour must be in 0..23"
  | .minute => "minute must be in 0..59"
  | .second => "second must be in 0..59"

def words? : Failure → Option String
  | event refusal => some refusal.words
  | payment refusal => some refusal.words
  | ticket refusal => some refusal.words
  | eventMissing _ => some "Event not found"
  | paymentMissing _ => some "Payment not found"
  | ticketMissing _ => some "Ticket not found"
  | malformedId => some EventId.rule
  | notMoney fault => some fault.text
  | negativeCapacity => some "Capacity cannot be negative"
  | unknownEventStatus shown => some (shown ++ " is not a valid EventStatus")
  | unknownPaymentStatus shown => some (shown ++ " is not a valid PaymentStatus")
  | unknownTicketStatus shown => some (shown ++ " is not a valid TicketStatus")
  | unknownCode component shown => some (shown ++ " is not a valid " ++ codeTypeName component)
  | notAnInteger .malformed shown => some ("invalid literal for int() with base 10: " ++ shown)
  | notAnInteger (.tooLong digits) _ =>
    some (s!"Exceeds the limit ({Text.mostDigits} digits) for integer string conversion: " ++
      s!"value has {digits} digits; use sys.set_int_max_str_digits() to increase the limit")
  | eventStored id => some ("Event " ++ id.text ++ " already stored")
  | eventNotStored id => some ("Event " ++ id.text ++ " is not stored")
  | attendeeStored attendee => some (attendee.plain ++ " already registered")
  | ticketNotStored id => some ("Ticket " ++ id.plain ++ " is not stored")
  | unknownSetting name | fieldMissing name => some name
  | notAColumnNumber column shown =>
    some ("Field '" ++ column ++ "' expected a number but got " ++ shown ++ ".")
  | notAMoment fault shown => some (momentWords fault shown)
  | noWholePart => some "cannot convert float NaN to integer"
  | notADecimal fault => some fault.text
  | embeddedZero => some "embedded null byte"
  | variableMisnamed => some "illegal environment variable name"
  | notAPair count =>
    if count < 2 then some s!"not enough values to unpack (expected 2, got {count})"
    else some "too many values to unpack (expected 2)"
  | unknownStep => some "unknown step"
  | writeFailed => some "write failed"
  | receiverFailed => some "receiver failed"
  | aborted => some "abort"
  | notAPath path => some (path ++ " doesn't look like a module path")
  | moduleUnnamed => some "Empty module name"
  | nameMissing module name =>
    some ("Module \"" ++ module ++ "\" does not define a \"" ++ name ++ "\" attribute/class")
  | undefinedAmount | amountOverflow | notANumber | notAText | notALabel | nothingToAdd
  | dateOverflow | integerOverflow | unordered | constraintViolated | rowMissing | columnNotFinite
  | notEncodable | variableUnnamed | notOffered | misplaced | moduleRelative | moduleMissing
  | notMakeable | madeOfItself => none

def message? (failure : Failure) : Option String :=
  match failure.code?, failure.words? with
  | some code, some words => some (code.report words)
  | none, words => words
  | some _, none => none

end Failure
end BoxOffice
