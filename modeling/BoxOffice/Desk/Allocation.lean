import BoxOffice.Desk.Registry

/-! Allocation of places: attendees take one place each in a tier of an open event. Whether there is
a place, whether the attendee has one already and the count of places taken are settled in one
block. -/
namespace BoxOffice.Allocation
variable {σ : Type} [RecordStore σ]

def register (attendee id tier : Raw) : Action σ Registration := do
  Registry.authenticate attendee
  let id ← Registry.eventId id
  let (registration, sold) ← Action.atomically do
    let event ← Registry.load id
    if event.status ≠ .active then throw (.event .notActive)
    match event.tier? tier with
    | none => throw (.event .tierNotFound)
    | some found =>
      if ← Action.call (.isRegistered id attendee) then throw (.event .alreadyRegistered)
      if ← found.isSoldOut then
        Action.log .warning .registrations
          s!"Tier {← tier.wholePart} of event {id.text} is sold out"
        throw (.event .tierSoldOut)
      let now ← Action.now
      let registration : Registration := ⟨id, attendee, tier, now⟩
      let sold ← found.sell
      Action.call (.addRegistration registration)
      Action.call (.saveEvent (event.withTier sold))
      return (registration, sold)
  let number ← tier.wholePart
  let count := s!"{← sold.sold.wholePart}/{← sold.capacity.wholePart}"
  Action.log .info .registrations
    s!"{attendee.plain} registered for event {id.text} tier {number} ({count})"
  Action.notify (.attendeeRegistered id attendee tier sold.sold)
  return registration

def isRegistered (id attendee : Raw) : Action σ Bool := do
  let event ← Registry.get id
  Action.call (.isRegistered event.id attendee)

def attendees (id : Raw) : Action σ (List Raw) := do
  let event ← Registry.get id
  Action.call (.listAttendees event.id)

end BoxOffice.Allocation
