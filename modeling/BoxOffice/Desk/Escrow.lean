import BoxOffice.Desk.State

/-! The payment escrow: payments go from the payer's account into custody and are recorded with the
event's revenue. Money that has moved is sent back when the record cannot be made. -/
namespace BoxOffice.Escrow
variable {σ : Type} [RecordStore σ]

def eventId (given : Raw) : Action σ EventId :=
  Action.eventId given (.payment .malformedId)

def setUp (admin currency : Raw) : Action σ EscrowConfig := do
  let (config, fresh) ← Action.atomically do
    match ← Action.call .getEscrow with
    | some config => return (config, false)
    | none =>
      Action.authenticate admin (.payment .callerNotVerified)
      if currency.isBlank then throw (.payment .currencyRequired)
      let config : EscrowConfig := ⟨admin, currency⟩
      Action.call (.setEscrow config)
      return (config, true)
  if fresh then
    Action.log .info .payments
      s!"Escrow initialized by {config.admin.plain} accepting {config.currency.plain}"
  return config

def config : Action σ EscrowConfig := do
  match ← Action.call .getEscrow with
  | some config => return config
  | none => throw (.payment .notInitialized)

def requireAmount (value : Raw) : Except Failure Money :=
  match Money.ofRaw value with
  | .error fault => .error (.payment (.invalidAmount fault))
  | .ok amount =>
    if amount.isPositive then .ok amount else .error (.payment .amountNotPositive)

def transfer (currency source target : Raw) (amount : Decimal) : Action σ Bool := do
  let before ← Action.book
  let held ← Checked.label currency
  let giver ← Checked.label source
  let (outcome, funds) := before.transfer held giver (Label.ofRaw? target) amount
  modify fun desk => { desk with funds }
  match outcome with
  | .error failure => throw failure
  | .ok moved =>
    if !moved then
      let sum := s!"{amount.text} {currency.plain}"
      let balance := before.balance held giver
      Action.log .info .funds
        s!"Transfer of {sum} from {source.plain} refused: balance {balance.text}"
    return moved

def giveBack (currency custody payer : Raw) (amount : Money) : Action σ Unit := do
  let sum := s!"{amount.text} {currency.plain}"
  if ← transfer currency custody payer amount.toDecimal then
    Action.log .warning .payments s!"Payment by {payer.plain} not recorded; returned {sum}"
  else
    Action.log .error .payments
      s!"Payment by {payer.plain} not recorded and {sum} could not be returned"

def record (payer : Raw) (id : EventId) (amount : Money) (currency : Raw) :
    Action σ (Int × Decimal) :=
  Action.block do
    let paymentId ← Action.call .nextPaymentId
    let now ← Action.now
    let payment : Payment := ⟨.whole paymentId, id, payer, amount, currency, .held, now⟩
    Action.call (.addPayment payment)
    let revenue ← Action.call (.addRevenue id amount.toDecimal)
    return (paymentId, revenue)

/- The id is taken only after the money has moved, so a refused transfer leaves no gap; the money
moves only when a block can be opened for the record. -/
def pay (payer id amount : Raw) : Action σ Int := do
  Action.authenticate payer (.payment .callerNotVerified)
  let id ← eventId id
  let amount ← requireAmount amount
  let currency := (← config).currency
  Action.opening
  let custody := (← get).escrowAccount
  if !(← transfer currency payer custody amount.toDecimal) then
    Action.log .warning .payments
      s!"Payment by {payer.plain} for event {id.text} refused by funds transfer"
    throw (.payment .transferRefused)
  let (paymentId, revenue) ←
    try record payer id amount currency
    catch failure =>
      giveBack currency custody payer amount
      throw failure
  let sum := s!"{amount.text} {currency.plain}"
  Action.log .info .payments
    s!"Payment {paymentId} of {sum} held for event {id.text} (revenue {revenue.text})"
  Action.notify (.paymentReceived paymentId id payer amount)
  return paymentId

def payment (id : Raw) : Action σ Payment := do
  match ← Action.call (.getPayment id) with
  | some payment => return payment
  | none => throw (.paymentMissing id)

def revenue (id : Raw) : Action σ Decimal := do
  Action.call (.getRevenue (← eventId id))

def eventPayments (id : Raw) : Action σ (List Raw) := do
  Action.call (.listEventPayments (← eventId id))

end BoxOffice.Escrow
