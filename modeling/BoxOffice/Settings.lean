import BoxOffice.Quantity

/-! Settings of the box office. A setting may hold any value; it is checked where it is used. -/
namespace BoxOffice

/- The lead time is in microseconds. -/
structure Settings where
  minEventLead : Int
  maxTierCapacity : Raw
  escrowAccount : Raw
  store : Raw
  identityVerifier : Raw
  fundsTransfer : Raw
  deriving Repr

namespace Settings

def standard : Settings where
  minEventLead := Moment.microsPerDay
  maxTierCapacity := .whole 100000
  escrowAccount := .text "ticketing-escrow"
  store := .text "ticketing.stores.django_store.DjangoStore"
  identityVerifier := .text "ticketing.services.auth.TrustedHostVerifier"
  fundsTransfer := .text "ticketing.services.funds.InMemoryFunds"

def value (settings : Settings) (name : String) : Except Failure Raw :=
  match name with
  | "MIN_EVENT_LEAD_TIME" => .ok (.whole (settings.minEventLead.fdiv Moment.microsPerSecond))
  | "MAX_TIER_CAPACITY" => .ok settings.maxTierCapacity
  | "ESCROW_ACCOUNT" => .ok settings.escrowAccount
  | "STORE" => .ok settings.store
  | "IDENTITY_VERIFIER" => .ok settings.identityVerifier
  | "FUNDS_TRANSFER" => .ok settings.fundsTransfer
  | _ => .error (.unknownSetting name)

/- A capacity is admitted unless it reaches the limit, which has to be a number. -/
def admitsCapacity (settings : Settings) (capacity : Int) : Except Failure Bool := do
  return !(← settings.maxTierCapacity.isAtMost (.whole capacity))

end Settings

def spanOfMicros (micros : Int) : Except Failure Int :=
  if -999999999 * Moment.microsPerDay ≤ micros ∧ micros < 1000000000 * Moment.microsPerDay then
    .ok micros
  else .error .dateOverflow

def microsOf (given : Raw) (unit : Nat) : Except Failure (Int × Binary64) := do
  match ← Quantity.ofRaw given with
  | .floating (.finite value) =>
    let rest := value.fraction.times unit
    return (value.truncated * unit + rest.truncated, rest.fraction)
  | number => return ((← number.wholePart) * unit, .zero)

def span (seconds micros : Raw) : Except Failure Int := do
  let (small, smallRest) ← microsOf micros 1
  let (large, largeRest) ← microsOf seconds Moment.microsPerSecond.toNat
  spanOfMicros ((smallRest.add largeRest).roundedFrom (small + large))

def spanOfSeconds (seconds : Raw) : Except Failure Int :=
  span seconds (.whole 0)

end BoxOffice
