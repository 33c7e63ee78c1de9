import BoxOffice.Proofs.Interchange.Ledgers

/-! Requests, steps and desks whose values fit columns, and what the rules on events and tiers make of them:
whatever a request stores fits again. -/
namespace BoxOffice

def Raw.isWhole : Raw → Bool
  | whole _ => true
  | _ => false

theorem Raw.wholeNumber {given : Raw} (whole : given.isWhole = true) : ∃ n, given = .whole n := by
  cases given with
  | whole n => exact ⟨n, rfl⟩
  | nothing | truth _ | fraction _ | text _ | list _ | record _ => cases whole

def Raw.isAmountBelow (limit : Nat) (given : Raw) : Bool :=
  match Money.ofRaw given with
  | .ok amount => amount.cents < limit
  | .error _ => true

theorem Raw.amountBelow {limit : Nat} {given : Raw} {amount : Money} (below : given.isAmountBelow limit = true)
    (read : Money.ofRaw given = .ok amount) : amount.cents < limit := by
  rw [isAmountBelow, read] at below
  exact of_decide_eq_true below

def TierSpec.fits (spec : TierSpec) : Bool :=
  spec.name.isLegible && spec.price.isAmountBelow amountLimit

def EventChanges.fits (changes : EventChanges) : Bool :=
  changes.name.all Raw.isLegible && changes.description.all Raw.isLegible &&
    changes.venue.all Raw.isLegible && changes.date.all Moment.isDatable

def TierChanges.fits (changes : TierChanges) : Bool :=
  changes.name.all Raw.isLegible && changes.price.all (Raw.isAmountBelow amountLimit)

def Raw.isSmallAmount (given : Raw) : Bool :=
  given.isAmountBelow (10 ^ 15)

/- Texts can be encoded, amounts have room, dates are in the calendar of UTC, and tiers, payments and tickets are
named by whole numbers. What is only compared or refused may be any value. -/
def Operation.fits : Operation → Bool
  | createEvent organizer _ name description venue date tiers =>
    organizer.isLegible && name.isLegible && description.isLegible && venue.isLegible &&
      date.all Moment.isDatable && tiers.all TierSpec.fits && tiers.length ≤ wordLimit
  | updateEventDetails _ _ changes => changes.fits
  | addTicketTier _ _ tier => tier.fits
  | updateTier _ _ _ changes => changes.fits
  | updateEventStatus _ _ _ | cancelEvent _ _ | getEvent _ | getEventStatus _ | getAttendees _ | getEscrow
  | getEventRevenue _ | getEventPayments _ | getEventTickets _ => true
  | listEvents organizer => organizer == .nothing || organizer.isLegible
  | registerForEvent attendee _ tier => attendee.isLegible && tier.isWhole
  | isRegistered _ attendee => attendee.isLegible
  | setUpEscrow admin currency => admin.isLegible && currency.isLegible
  | payForTicket payer _ amount => payer.isLegible && amount.isSmallAmount
  | getPayment id | getTicket id => id.isWhole
  | mintTicket organizer _ owner => organizer.isLegible && owner.isLegible
  | transferTicket source target id => source.isLegible && target.isLegible && id.isWhole
  | useTicket _ id | cancelTicket _ id => id.isWhole
  | getOwnerTickets owner => owner.isLegible

def Step.fits : Step → Bool
  | operation request => request.fits
  | approve _ | revoke _ | verify _ | deposit _ _ _ | balance _ _ | transfer _ _ _ _ | advance _ _
  | breakReceiver _ | unreadable _ => true
  | configure _ | seed _ | breakStore _ | survey _ _ _ => false

/- The clock shows a time with a zone, the limit of capacities and the next ids fit, and no event has brought
in 10 ^ 13 or more. -/
structure Desk.Fits (desk : Desk Journal) : Prop where
  clock : (desk.clock.any fun now => now.isDatable && !now.isNaive) = true
  capacity : (desk.settings.maxTierCapacity.number?.any fun most => decide (most ≤ (wordLimit : Int))) = true
  payments : desk.view.lastPayment + 1 < wordLimit
  tickets : desk.view.lastTicket + 1 < wordLimit
  tiers : ∀ event ∈ desk.view.events.values, event.tiers.length < wordLimit
  revenue : ∀ total ∈ desk.view.revenue.values, total.Below (10 ^ 13)

instance (desk : Desk Journal) : Decidable desk.Fits :=
  decidable_of_iff (_ ∧ _ ∧ _ ∧ _ ∧ _ ∧ _)
    ⟨fun ⟨clock, capacity, payments, tickets, tiers, revenue⟩ => ⟨clock, capacity, payments, tickets, tiers, revenue⟩,
      fun fits => ⟨fits.clock, fits.capacity, fits.payments, fits.tickets, fits.tiers, fits.revenue⟩⟩

theorem Desk.Fits.now {desk : Desk Journal} (fits : desk.Fits) :
    ∃ m, desk.clock = some m ∧ m.isDatable = true ∧ m.isNaive = false := by
  obtain ⟨m, shows, timed⟩ := (Option.any_eq_true _ _).mp fits.clock
  rw [Bool.and_eq_true, Bool.not_eq_true'] at timed
  exact ⟨m, shows, timed⟩

theorem Desk.Fits.revenueBelow {desk : Desk Journal} (fits : desk.Fits) (id : EventId) :
    ((desk.view.revenue.get? id).getD .zero).Below (10 ^ 13) := by
  cases counted : desk.view.revenue.get? id with
  | none => decide
  | some total => exact fits.revenue total (Table.valueMem counted)

theorem Settings.admitsBelow {settings : Settings} {capacity : Int}
    (limit : (settings.maxTierCapacity.number?.any fun most => decide (most ≤ (wordLimit : Int))) = true)
    (admits : settings.admitsCapacity capacity = .ok true) : capacity < wordLimit := by
  obtain ⟨most, number, within⟩ := (Option.any_eq_true _ _).mp limit
  have counted : Quantity.ofRaw settings.maxTierCapacity = .ok (.whole most) := by
    cases given : settings.maxTierCapacity <;> rw [given] at number <;> cases number <;> rfl
  have compared : settings.admitsCapacity capacity = .ok !decide (most ≤ capacity) := by
    simp only [admitsCapacity, Raw.isAtMost, counted, Quantity.ofRawWhole, bind, Except.bind, pure, Except.pure,
      Quantity.isAtMostWhole]
  rw [compared] at admits
  have less : ¬most ≤ capacity := by simpa using admits
  have := of_decide_eq_true within
  omega

theorem priceFits {given : Raw} {price : Money} (fits : given.isAmountBelow amountLimit = true)
    (required : requirePrice given = .ok price) : price.cents < amountLimit := by
  unfold requirePrice at required
  split at required
  · rename_i read
    cases required
    exact Raw.amountBelow fits read
  · cases required

namespace Tier
variable {settings : Settings}

theorem fitsFresh {k : Nat} (within : k < wordLimit) {name : Raw} (named : name.isLegible = true) {price : Money}
    (priced : price.cents < amountLimit) {capacity : Int} (positive : 0 < capacity) (limit : capacity < wordLimit) :
    (fresh (.whole k) name price capacity).Fits where
  id := ⟨k, within, rfl⟩
  name := named
  price := priced
  places := ⟨capacity.toNat, 0, by omega, by
    rw [Int.toNat_of_nonneg positive.le]
    rfl, rfl, Nat.zero_le _⟩

theorem fitsSpec
    (limit : (settings.maxTierCapacity.number?.any fun most => decide (most ≤ (wordLimit : Int))) = true)
    {k : Nat} (within : k < wordLimit) {spec : TierSpec} (fits : spec.fits = true) {tier : Tier}
    (made : ofSpec settings (.whole k) spec = .ok tier) : tier.Fits ∧ tier.id = .whole k := by
  obtain ⟨name, price, capacity, named, places, priced, rfl⟩ := ofSpecOk made
  obtain ⟨_, positive, admits⟩ := capacityOk places
  rw [TierSpec.fits, Bool.and_eq_true] at fits
  have legible : name.isLegible = true := requireTextSame named ▸ fits.1
  exact ⟨fitsFresh within legible (priceFits fits.2 priced) positive (Settings.admitsBelow limit admits), rfl⟩

theorem fitsChange
    (limit : (settings.maxTierCapacity.number?.any fun most => decide (most ≤ (wordLimit : Int))) = true)
    {changes : TierChanges} (given : changes.fits = true) {tier updated : Tier} (fits : tier.Fits)
    (changed : tier.change settings changes = .ok updated) : updated.Fits := by
  rw [TierChanges.fits, Bool.and_eq_true] at given
  rw [changeParts] at changed
  obtain ⟨name, named, changed⟩ := bindOk changed
  obtain ⟨price, priced, changed⟩ := bindOk changed
  obtain ⟨capacity, places, changed⟩ := bindOk changed
  cases changed
  refine ⟨fits.id, ?_, ?_, ?_⟩
  · obtain ⟨_, rfl⟩ | ⟨value, is, checked⟩ := renewedOk named
    · exact fits.name
    · have legible : value.isLegible = true := by simpa [is] using given.1
      exact requireTextSame checked ▸ legible
  · obtain ⟨_, rfl⟩ | ⟨value, is, checked⟩ := renewedOk priced
    · exact fits.price
    · exact priceFits (by simpa [is] using given.2) checked
  · obtain ⟨old, sold, within, isOld, isSold, enough⟩ := fits.places
    obtain ⟨_, rfl⟩ | ⟨value, _, checked⟩ := renewedOk places
    · exact ⟨old, sold, within, isOld, isSold, enough⟩
    · obtain ⟨n, required, checked⟩ := bindOk checked
      obtain ⟨below, compared, checked⟩ := bindOk checked
      obtain ⟨room, checked⟩ := guardOk checked
      cases checked
      obtain ⟨_, positive, admits⟩ := capacityOk required
      have small := Settings.admitsBelow limit admits
      rw [isSold, Raw.belowWhole] at compared
      cases compared
      have : ¬n < sold := by simpa using room
      refine ⟨n.toNat, sold, by omega, ?_, isSold, by omega⟩
      rw [Int.toNat_of_nonneg positive.le]

theorem fitsSell {tier sold : Tier} (fits : tier.Fits) (places : tier.isSoldOut = .ok false)
    (sells : tier.sell = .ok sold) : sold.Fits ∧ sold.id = tier.id := by
  obtain ⟨capacity, count, within, isCapacity, isSold, _⟩ := fits.places
  rw [isSoldOutWhole isCapacity isSold] at places
  rw [sellWhole isSold] at sells
  cases sells
  have room : ¬(capacity : Int) ≤ count := by simpa using places
  exact ⟨⟨fits.id, fits.name, fits.price, ⟨capacity, count + 1, within, isCapacity, rfl, by omega⟩⟩, rfl⟩

end Tier

namespace Event
variable {settings : Settings} {event : Event} {tier : Tier}

theorem fitsDraft
    (limit : (settings.maxTierCapacity.number?.any fun most => decide (most ≤ (wordLimit : Int))) = true)
    {now : Option Moment} (clock : ∃ m, now = some m ∧ m.isDatable = true ∧ m.isNaive = false)
    {organizer given name description venue : Raw} {id : EventId} {date : Option Moment} {specs : List TierSpec}
    (fits : (Operation.createEvent organizer given name description venue date specs).fits = true)
    (drafted : Drafted settings now organizer id name description venue date specs event) : event.Fits := by
  simp only [Operation.fits, TierSpec.fits, Bool.and_eq_true, List.all_eq_true, decide_eq_true_eq] at fits
  obtain ⟨⟨⟨⟨⟨⟨own, called⟩, described⟩, placed⟩, dated⟩, named⟩, few⟩ := fits
  obtain ⟨m, isNow, now'⟩ := clock
  obtain ⟨names, prices, capacities, checked, priced, places, tiers⟩ := drafted.tiers
  obtain ⟨⟨count, ids⟩, _⟩ := drafted.tier
  have length : event.tiers.length = count := by
    simpa using congrArg List.length ids
  have most : count ≤ specs.length := by
    have parts := congrArg List.length (Tier.numberedIds 0 (names.zip (prices.zip capacities)))
    rw [← tiers, List.length_map, List.length_map, List.length_range, List.length_zip, length] at parts
    rw [checked.length_eq]
    omega
  refine ⟨?_, ?_, ⟨m, drafted.createdAt.trans isNow, now'⟩, by rw [length]; exact ids, fun tier mem => ?_⟩
  · intro text mem
    simp only [List.mem_cons, List.not_mem_nil, or_false] at mem
    obtain rfl | rfl | rfl | rfl := mem
    · rw [drafted.organizer]
      exact own
    · rw [requireTextSame drafted.name]
      exact called
    · rw [drafted.description]
      split
      · rfl
      · exact described
    · rw [requireTextSame drafted.venue]
      exact placed
  · obtain ⟨moment, rfl, is, _⟩ := drafted.date
    exact ⟨moment, is, dated⟩
  · rw [tiers] at mem
    obtain ⟨n, ⟨name, price, capacity⟩, inside, rfl⟩ := Tier.numberedFresh mem
    obtain ⟨_, _, required⟩ := relatedMem places (List.of_mem_zip (List.of_mem_zip inside).2).2
    obtain ⟨_, positive, admits⟩ := capacityOk required
    have legible : name.isLegible = true := by
      obtain ⟨spec, there, checked⟩ := relatedMem checked (List.of_mem_zip inside).1
      exact requireTextSame checked ▸ (named spec there).1
    have small : price.cents < amountLimit := by
      obtain ⟨spec, there, checked⟩ := relatedMem priced (List.of_mem_zip (List.of_mem_zip inside).2).1
      exact priceFits (named spec there).2 checked
    have listed : Raw.whole n ∈ event.tiers.map Tier.id := by
      rw [tiers]
      exact List.mem_map_of_mem mem
    rw [ids] at listed
    obtain ⟨k, inRange, is⟩ := List.mem_map.mp listed
    cases is
    exact Tier.fitsFresh (by rw [List.mem_range] at inRange; omega) legible small positive
      (Settings.admitsBelow limit admits)

theorem fitsDetails {now : Option Moment} {changes : EventChanges} (given : changes.fits = true) {updated : Event}
    (fits : event.Fits) (changed : event.change settings now changes = .ok updated) :
    updated.Fits ∧ updated.id = event.id ∧ updated.tiers = event.tiers := by
  simp only [EventChanges.fits, Bool.and_eq_true] at given
  obtain ⟨⟨⟨called, described⟩, placed⟩, dated⟩ := given
  have texts := fits.texts
  simp only [List.forall_mem_cons, List.not_mem_nil, false_implies, implies_true, and_true] at texts
  obtain ⟨own, name', description', venue'⟩ := texts
  have text {field : TextField} {old new : Raw} {value : Option Raw} (before : old.isLegible = true)
      (legible : value.all Raw.isLegible = true) (checked : renewed (requireText · field) old value = .ok new) :
      new.isLegible = true := by
    obtain ⟨_, rfl⟩ | ⟨value, rfl, checked⟩ := renewedOk checked
    · exact before
    · exact requireTextSame checked ▸ legible
  rw [changeParts] at changed
  obtain ⟨name, named, changed⟩ := bindOk changed
  obtain ⟨venue, sited, changed⟩ := bindOk changed
  obtain ⟨date, set, changed⟩ := bindOk changed
  cases changed
  refine ⟨⟨?_, ?_, fits.createdAt, fits.ids, fits.tiers⟩, rfl, rfl⟩
  · simp only [List.forall_mem_cons, List.not_mem_nil, false_implies, implies_true, and_true]
    refine ⟨own, text name' called named, ?_, text venue' placed sited⟩
    cases is : changes.description with
    | none => exact description'
    | some value =>
      rw [is] at described
      exact described
  · obtain ⟨_, rfl⟩ | ⟨moment, is, checked⟩ := renewedOk set
    · exact fits.date
    · obtain ⟨_, _, checked⟩ := bindOk checked
      cases checked
      rw [is] at dated
      exact ⟨moment, rfl, dated⟩

theorem fitsPut (fits : event.Fits) (tier' : tier.Fits) (known : tier.id ∈ event.tiers.map Tier.id) :
    (event.withTier tier).Fits ∧ (event.withTier tier).tiers.length = event.tiers.length := by
  obtain ⟨n, _, id⟩ := tier'.id
  have kept : (event.withTier tier).tiers.map Tier.id = event.tiers.map Tier.id :=
    putTierOld id (wholeIds fits.ids).1 known
  have length : (event.withTier tier).tiers.length = event.tiers.length := by
    simpa using congrArg List.length kept
  refine ⟨⟨fits.texts, fits.date, fits.createdAt, ?_, fun other mem => ?_⟩, length⟩
  · rw [kept, length]
    exact fits.ids
  · obtain rfl | old := memPutTier mem
    · exact tier'
    · exact fits.tiers other old

theorem withTierNext (ids : event.tiers.map Tier.id = (List.range event.tiers.length).map fun n : Nat => .whole n)
    (id : tier.id = .whole event.tiers.length) :
    event.withTier tier = { event with tiers := event.tiers ++ [tier] } := by
  have absent : tier.id ∉ event.tiers.map Tier.id := by
    rw [ids, id]
    intro mem
    obtain ⟨n, inside, same⟩ := List.mem_map.mp mem
    cases same
    exact absurd (List.mem_range.mp inside) (Nat.lt_irrefl _)
  rw [withTier, putTierNew id (wholeIds ids).1 absent]

theorem fitsAdd (fits : event.Fits) (tier' : tier.Fits) (id : tier.id = .whole event.tiers.length) :
    (event.withTier tier).Fits ∧ (event.withTier tier).tiers.length = event.tiers.length + 1 := by
  have added : (event.withTier tier).tiers = event.tiers ++ [tier] :=
    congrArg Event.tiers (withTierNext fits.ids id)
  have length : (event.withTier tier).tiers.length = event.tiers.length + 1 := by
    rw [added, List.length_append, List.length_singleton]
  refine ⟨⟨fits.texts, fits.date, fits.createdAt, ?_, fun other mem => ?_⟩, length⟩
  · rw [length, List.range_succ, List.map_append, ← fits.ids, added, List.map_append]
    simp [id]
  · rw [added] at mem
    rcases List.mem_append.mp mem with old | new
    · exact fits.tiers other old
    · exact List.mem_singleton.mp new ▸ tier'

end Event
end BoxOffice
