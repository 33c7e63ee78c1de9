import BoxOffice.Composed
import BoxOffice.Event
import BoxOffice.Failure
import BoxOffice.Label
import BoxOffice.Records

/-! Parts of records made from unchecked values, each with the failure that tells why it cannot be
made. -/
namespace BoxOffice.Checked

def label (given : Raw) : Except Failure Label :=
  match Label.ofRaw? given with
  | some label => .ok label
  | none => .error .notALabel

def eventId (given : Raw) : Except Failure EventId :=
  match given with
  | .text text =>
    match EventId.ofText? text with
    | some id => .ok id
    | none => .error .malformedId
  | _ => .error .malformedId

def text (given : Raw) : Except Failure String :=
  match given with
  | .text text => .ok text
  | _ => .error .notAText

def moment (given : Raw) : Except Failure Moment := do
  match Moment.read (← text given) with
  | .ok moment => return moment
  | .error fault => throw (.notAMoment fault given.shown)

def items (given : Raw) : Except Failure (List Raw) :=
  match given with
  | .list items => .ok items
  | .text text => .ok ((Text.pointsOf text).map fun point => .text (Text.ofPoints [point]))
  | .record fields => .ok (fields.map fun field => .text field.1)
  | .nothing | .truth _ | .whole _ | .fraction _ => .error .misplaced

def pair (given : Raw) : Except Failure (Raw × Raw) := do
  match ← items given with
  | [first, second] => return (first, second)
  | other => throw (.notAPair other.length)

def decimal (given : Raw) : Except Failure Decimal :=
  match given with
  | .whole n => .ok (.ofInt n)
  | .truth value => .ok (.ofInt (if value then 1 else 0))
  | .fraction value => .ok value.toDecimal
  | .text text =>
    match Decimal.read? text with
    | some amount => .ok amount
    | none => .error .undefinedAmount
  | .list parts => Composed.decimal parts
  | .nothing | .record _ => .error .notANumber

def money (given : Raw) : Except Failure Money := do
  match Money.ofDecimal (← decimal given) with
  | .ok money => return money
  | .error fault => throw (.ofMoney fault)

def amount (given : Raw) : Except Failure Money :=
  match Money.ofRaw given with
  | .ok money => .ok money
  | .error fault => .error (.ofMoney fault)

def total : List Raw → Except Failure Money
  | [] => .error .nothingToAdd
  | first :: rest => do
    match (← amount first).totalOfRaw rest with
    | .ok money => return money
    | .error fault => throw (.ofMoney fault)

def places (given : Raw) : Except Failure Raw := do
  if ← given.isBelow (.whole 0) then throw .negativeCapacity
  return given

def eventStatus (given : Raw) : Except Failure EventStatus :=
  match EventStatus.ofRaw? given with
  | some status => .ok status
  | none => .error (.unknownEventStatus given.shown)

def paymentStatus (given : Raw) : Except Failure PaymentStatus :=
  match PaymentStatus.ofRaw? given with
  | some status => .ok status
  | none => .error (.unknownPaymentStatus given.shown)

def ticketStatus (given : Raw) : Except Failure TicketStatus :=
  match TicketStatus.ofRaw? given with
  | some status => .ok status
  | none => .error (.unknownTicketStatus given.shown)

def code (component : Component) (given : Raw) : Except Failure Code :=
  match component.code? given with
  | some code => .ok code
  | none => .error (.unknownCode component given.shown)

end BoxOffice.Checked
