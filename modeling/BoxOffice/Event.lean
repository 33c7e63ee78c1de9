import BoxOffice.Label
import BoxOffice.Quantity

/-! Events and their ticket tiers, and the unchecked values that describe new ones and changes. -/
namespace BoxOffice

structure Tier where
  id : Raw
  name : Raw
  price : Money
  capacity : Raw
  sold : Raw
  deriving DecidableEq, Repr

namespace Tier

def fresh (id : Raw) (name : Raw) (price : Money) (capacity : Int) : Tier :=
  ⟨id, name, price, .whole capacity, .whole 0⟩

def remaining (tier : Tier) : Except Failure Raw :=
  tier.capacity.minus tier.sold

def isSoldOut (tier : Tier) : Except Failure Bool :=
  tier.capacity.isAtMost tier.sold

def sell (tier : Tier) : Except Failure Tier := do
  return { tier with sold := ← tier.sold.plus (.whole 1) }

theorem isSoldOutWhole {tier : Tier} {capacity sold : Int} (hc : tier.capacity = .whole capacity)
    (hs : tier.sold = .whole sold) : tier.isSoldOut = .ok (decide (capacity ≤ sold)) := by
  simp only [isSoldOut, hc, hs, Raw.isAtMost, Quantity.ofRawWhole]
  exact congrArg Except.ok (Quantity.isAtMostWhole capacity sold)

theorem sellWhole {tier : Tier} {sold : Int} (hs : tier.sold = .whole sold) :
    tier.sell = .ok { tier with sold := .whole (sold + 1) } := by
  simp only [sell, hs]
  rfl

end Tier

structure Event where
  id : EventId
  organizer : Raw
  name : Raw
  description : Raw
  venue : Raw
  date : Option Moment
  createdAt : Option Moment
  status : EventStatus
  tiers : List Tier
  deriving DecidableEq, Repr

namespace Event

def tier? (event : Event) (id : Raw) : Option Tier :=
  event.tiers.find? fun tier => tier.id.same id

/- The tier in the place of the first one with its id, or at the end. -/
def putTier (tier : Tier) : List Tier → List Tier
  | [] => [tier]
  | first :: rest =>
    if first.id.same tier.id then tier :: rest else first :: putTier tier rest

def withTier (event : Event) (tier : Tier) : Event :=
  { event with tiers := putTier tier event.tiers }

def greatest (first : Raw) : List Raw → Except Failure Raw
  | [] => .ok first
  | next :: rest => do greatest (if ← first.isBelow next then next else first) rest

def nextTierId (event : Event) : Except Failure Raw :=
  match event.tiers with
  | [] => .ok (.whole 0)
  | first :: rest => do (← greatest first.id (rest.map Tier.id)).plus (.whole 1)

end Event

structure TierSpec where
  name : Raw
  price : Raw
  capacity : Raw
  deriving Repr

structure EventChanges where
  name : Option Raw
  description : Option Raw
  venue : Option Raw
  date : Option Moment
  deriving Repr

def EventChanges.isEmpty (changes : EventChanges) : Bool :=
  changes.name.isNone && changes.description.isNone && changes.venue.isNone && changes.date.isNone

def EventChanges.fields (changes : EventChanges) : List String :=
  (if changes.description.isSome then ["description"] else []) ++
    (if changes.date.isSome then ["event_date"] else []) ++
    (if changes.name.isSome then ["name"] else []) ++
    (if changes.venue.isSome then ["venue"] else [])

structure TierChanges where
  name : Option Raw
  price : Option Raw
  capacity : Option Raw
  deriving Repr

def TierChanges.isEmpty (changes : TierChanges) : Bool :=
  changes.name.isNone && changes.price.isNone && changes.capacity.isNone

end BoxOffice
