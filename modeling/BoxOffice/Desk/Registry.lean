import BoxOffice.Desk.State

/-! The event registry: organizers make events with tiers, edit them before they open, and lead them
through their stages. The rules on requests are pure functions; the actions check the caller, run
the rules in one block with the writes, and then log and notify. -/
namespace BoxOffice

def requireText (value : Raw) (field : TextField) : Except Failure Raw :=
  if value.words?.isSome then .ok value else .error (.event (.emptyText field))

def requireGiven : Option Moment → Except Failure Moment
  | some date => .ok date
  | none => .error .notOffered

def later (clock : Option Moment) (micros : Int) : Except Failure Moment :=
  match clock with
  | none => .error .misplaced
  | some now =>
    match now.plus? micros with
    | some moment => .ok moment
    | none => .error .dateOverflow

def requireDate (settings : Settings) (now : Option Moment) (date : Moment) :
    Except Failure Unit :=
  if date.isNaive then .error (.event .dateWithoutZone)
  else
    match later now settings.minEventLead with
    | .error failure => .error failure
    | .ok earliest =>
      match date.order? earliest with
      | none => .error .unordered
      | some .gt => .ok ()
      | some _ => .error (.event .dateTooSoon)

def requireCapacity (settings : Settings) : Raw → Except Failure Int
  | .whole n => do
    if n ≤ 0 then throw (.event .invalidCapacity)
    if ← settings.admitsCapacity n then return n
    throw (.event .invalidCapacity)
  | _ => .error (.event .invalidCapacity)

def requirePrice (value : Raw) : Except Failure Money :=
  match Money.ofRaw value with
  | .ok price => .ok price
  | .error fault => .error (.event (.invalidPrice fault))

namespace Tier

def ofSpec (settings : Settings) (id : Raw) (spec : TierSpec) : Except Failure Tier := do
  let name ← requireText spec.name .tierName
  let capacity ← requireCapacity settings spec.capacity
  let price ← requirePrice spec.price
  return fresh id name price capacity

def numbered (first : Int) : List (Raw × Money × Int) → List Tier
  | [] => []
  | (name, price, capacity) :: rest =>
    fresh (.whole first) name price capacity :: numbered (first + 1) rest

def change (settings : Settings) (changes : TierChanges) (tier : Tier) : Except Failure Tier := do
  let name ← match changes.name with
    | some value => requireText value .tierName
    | none => pure tier.name
  let price ← match changes.price with
    | some value => requirePrice value
    | none => pure tier.price
  let capacity ← match changes.capacity with
    | some value => do
      let capacity := Raw.whole (← requireCapacity settings value)
      if ← capacity.isBelow tier.sold then throw (.event .capacityBelowSold)
      pure capacity
    | none => pure tier.capacity
  return { tier with name, price, capacity }

end Tier

namespace Event

/- A new event. The names are checked first, then the date, all capacities and all prices. -/
def draft (settings : Settings) (now : Option Moment) (organizer : Raw) (id : EventId)
    (name description venue : Raw) (date : Option Moment) (specs : List TierSpec) :
    Except Failure Event := do
  let name ← requireText name .name
  let venue ← requireText venue .venue
  if specs.isEmpty then throw (.event .noTiers)
  let names ← specs.mapM fun spec => requireText spec.name .tierName
  let date ← requireGiven date
  requireDate settings now date
  let capacities ← specs.mapM fun spec => requireCapacity settings spec.capacity
  let prices ← specs.mapM fun spec => requirePrice spec.price
  let tiers := Tier.numbered 0 (names.zip (prices.zip capacities))
  let description := if description.isBlank then .text "" else description
  return ⟨id, organizer, name, description, venue, some date, now, .initial, tiers⟩

def change (settings : Settings) (now : Option Moment) (changes : EventChanges) (event : Event) :
    Except Failure Event := do
  let name ← match changes.name with
    | some value => requireText value .name
    | none => pure event.name
  let description := changes.description.getD event.description
  let venue ← match changes.venue with
    | some value => requireText value .venue
    | none => pure event.venue
  let date ← match changes.date with
    | some date => do
      requireDate settings now date
      pure (some date)
    | none => pure event.date
  return { event with name, description, venue, date }

end Event

namespace Registry
variable {σ : Type} [RecordStore σ]

def authenticate (caller : Raw) : Action σ Unit :=
  Action.authenticate caller (.event .callerNotVerified)

def eventId (given : Raw) : Action σ EventId :=
  Action.eventId given (.event .malformedId)

def load (id : EventId) : Action σ Event := do
  match ← Action.call (.getEvent id) with
  | some event => return event
  | none => throw (.eventMissing id)

def loadOwned (organizer : Raw) (id : EventId) : Action σ Event := do
  let event ← load id
  if !event.organizer.same organizer then throw (.event .notOrganizer)
  return event

def loadEditable (organizer : Raw) (id : EventId) : Action σ Event := do
  let event ← loadOwned organizer id
  if !event.status.isEditable then throw (.event .notEditable)
  return event

def info (text : String) : Action σ Unit :=
  Action.log .info .events text

def create (organizer id name description venue : Raw) (date : Option Moment)
    (specs : List TierSpec) : Action σ Event := do
  authenticate organizer
  let id ← eventId id
  let event ← Event.draft (← Action.settings) (← Action.now) organizer id name description venue
    date specs
  Action.atomically do
    if ← Action.call (.eventExists id) then throw (.event .alreadyExists)
    Action.call (.addEvent event)
  info s!"Event {id.text} created by {organizer.plain} with {event.tiers.length} tiers"
  Action.notify (.eventCreated id organizer event.name event.venue event.date event.tiers)
  return event

def get (id : Raw) : Action σ Event := do
  load (← eventId id)

def list (organizer : Raw) : Action σ (List Event) :=
  Action.call (.listEvents organizer)

def shownFields (names : List String) : String :=
  (Raw.list (names.map Raw.text)).shown

def updateDetails (organizer id : Raw) (changes : EventChanges) : Action σ Event := do
  authenticate organizer
  let id ← eventId id
  let event ← Action.atomically do
    let event ← loadEditable organizer id
    if changes.isEmpty then return event
    let updated ← event.change (← Action.settings) (← Action.now) changes
    Action.call (.saveEvent updated)
    return updated
  if changes.isEmpty then return event
  info s!"Event {id.text} details updated: {shownFields changes.fields}"
  Action.notify (.eventUpdated event)
  return event

def addTier (organizer id : Raw) (spec : TierSpec) : Action σ Tier := do
  authenticate organizer
  let id ← eventId id
  let (tier, event) ← Action.atomically do
    let event ← loadEditable organizer id
    let next ← event.nextTierId
    let tier ← Tier.ofSpec (← Action.settings) next spec
    let updated := event.withTier tier
    Action.call (.saveEvent updated)
    return (tier, updated)
  info s!"Tier {← tier.id.wholePart} added to event {id.text}"
  Action.notify (.eventUpdated event)
  return tier

def updateTier (organizer id named : Raw) (changes : TierChanges) : Action σ Tier := do
  authenticate organizer
  let id ← eventId id
  let (tier, event) ← Action.atomically do
    let event ← loadEditable organizer id
    match event.tier? named with
    | none => throw (.event .tierNotFound)
    | some tier =>
      if changes.isEmpty then return (tier, event)
      let tier ← tier.change (← Action.settings) changes
      let updated := event.withTier tier
      Action.call (.saveEvent updated)
      return (tier, updated)
  if changes.isEmpty then return tier
  info s!"Tier {← named.wholePart} of event {id.text} updated"
  Action.notify (.eventUpdated event)
  return tier

def newStatus (given : Raw) : Action σ EventStatus :=
  match EventStatus.ofRaw? given with
  | some status => return status
  | none => throw (.event (.unknownStatus given.shown))

def updateStatus (organizer id status : Raw) : Action σ Event := do
  authenticate organizer
  let id ← eventId id
  let status ← newStatus status
  let (old, event) ← Action.atomically do
    let event ← loadOwned organizer id
    if !event.status.canBecome status then
      Action.log .warning .events
        s!"Rejected status change of {id.text}: {event.status.label} -> {status.label}"
      throw (.event (.invalidTransition event.status status))
    let updated := { event with status }
    Action.call (.saveEvent updated)
    return (event.status, updated)
  info s!"Event {id.text} status {old.text} -> {status.text}"
  Action.notify (.eventStatusChanged id old status)
  return event

def cancel (organizer id : Raw) : Action σ Event := do
  authenticate organizer
  let id ← eventId id
  let (old, event) ← Action.atomically do
    let event ← loadOwned organizer id
    if !event.status.canCancel then throw (.event (.cannotCancel event.status))
    let updated := { event with status := .cancelled }
    Action.call (.saveEvent updated)
    return (event.status, updated)
  info s!"Event {id.text} cancelled (was {old.text})"
  Action.notify (.eventStatusChanged id old .cancelled)
  Action.notify (.eventCancelled id)
  return event

end Registry
end BoxOffice
