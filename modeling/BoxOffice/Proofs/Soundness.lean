import BoxOffice.Proofs.Amounts
import BoxOffice.Proofs.Attendance
import BoxOffice.Proofs.Desk.Growth
import BoxOffice.Proofs.Desk.Interference
import BoxOffice.Proofs.History.Alteration

/-! Records of events are sound. What is asked of a new event and of each change is true of every event in the
store, as long as the settings stay and the clock does not go back. -/
namespace BoxOffice

structure Settings.Allows (settings : Settings) (capacity : Int) : Prop where
  some : 1 ≤ capacity
  below : settings.maxTierCapacity ≠ .fraction .nan →
    (Raw.whole capacity).isBelow settings.maxTierCapacity = .ok true

structure Tier.Sound (settings : Settings) (tier : Tier) : Prop where
  named : tier.name.words?.isSome = true
  price : tier.price.amount.value = (tier.price.cents : ℚ) / 100 ∧ 0 ≤ tier.price.amount.value ∧
    tier.price.amount.value < 10 ^ 26
  capacity : ∃ n, tier.capacity = .whole n ∧ settings.Allows n

/-- A stored event as it should be, at a time that is not before the event was made. -/
structure Event.Sound (settings : Settings) (now : Moment) (event : Event) : Prop where
  name : event.name.words?.isSome = true
  venue : event.venue.words?.isSome = true
  date : ∃ date made, event.date = some date ∧ event.createdAt = some made ∧ date.isNaive = false ∧
    made.isNaive = false ∧ made.instant ≤ now.instant ∧ made.instant + settings.minEventLead < date.instant
  some : event.tiers ≠ []
  ids : event.tiers.map Tier.id = (List.range event.tiers.length).map fun n : Nat => .whole n
  tiers : ∀ tier ∈ event.tiers, tier.Sound settings

theorem Money.bounds (m : Money) : m.amount.value = (m.cents : ℚ) / 100 ∧ 0 ≤ m.amount.value ∧
    m.amount.value < 10 ^ 26 := by
  obtain ⟨least, most, _⟩ := faultlessValue.mp m.sound
  exact ⟨m.valueOfCents, least, most⟩

theorem Quantity.belowNotAtMost {limit : Quantity} (number : limit ≠ .floating .nan) (n : Int) :
    (whole n).isBelow limit = !limit.isAtMost (.whole n) := by
  cases limit with
  | whole m => rw [isAtMostWhole, isBelowWhole, ← decide_not, decide_eq_decide, Int.not_le]
  | floating value =>
    cases value with
    | finite b =>
      have order : (floating (.finite b)).order? (whole n) =
          some (compare b.toDecimal.value (Decimal.Finite.ofInt n).value) :=
        congrArg some (Decimal.Finite.orderValue _ _)
      have back : (whole n).order? (floating (.finite b)) =
          some (compare (Decimal.Finite.ofInt n).value b.toDecimal.value) :=
        congrArg some (Decimal.Finite.orderValue _ _)
      rw [isAtMost, isBelow, isBelow, order, back]
      rcases lt_trichotomy (Decimal.Finite.ofInt n).value b.toDecimal.value with less | same | more
      · rw [compare_lt_iff_lt.mpr less, compare_gt_iff_gt.mpr less]
        rfl
      · rw [compare_eq_iff_eq.mpr same, compare_eq_iff_eq.mpr same.symm]
        rfl
      · rw [compare_gt_iff_gt.mpr more, compare_lt_iff_lt.mpr more]
        rfl
    | infinite negative => cases negative <;> rfl
    | nan => exact absurd rfl number

section
variable {settings : Settings} {now : Moment}

theorem allowed {capacity : Int} (positive : 0 < capacity)
    (admits : settings.admitsCapacity capacity = .ok true) : settings.Allows capacity := by
  refine ⟨positive, fun number => ?_⟩
  obtain ⟨atMost, compared, admits⟩ := bindOk admits
  obtain ⟨limit, read, compared⟩ := bindOk compared
  cases compared
  have above : limit.isAtMost (.whole capacity) = false := by simpa using Except.ok.inj admits
  have finite : limit ≠ .floating .nan := by
    rintro rfl
    unfold Quantity.ofRaw at read
    split at read <;> cases read
    rename_i found
    unfold Quantity.ofRaw? at found
    split at found <;> cases found
    exact number ‹_›
  rw [Raw.isBelow, read, Quantity.ofRawWhole]
  refine congrArg Except.ok ?_
  rw [Quantity.belowNotAtMost finite, above]
  rfl

theorem textOk {value checked : Raw} {field : TextField} (ok : requireText value field = .ok checked) :
    checked.words?.isSome = true := by
  unfold requireText at ok
  split at ok
  · cases ok
    assumption
  · cases ok

theorem laterOk {micros : Int} {moment : Moment} (ok : later (some now) micros = .ok moment) :
    moment.instant = now.instant + micros ∧ moment.isNaive = now.isNaive := by
  unfold later Moment.plus? at ok
  dsimp only at ok
  split at ok <;> rename_i planned <;> cases ok
  split at planned <;> cases planned
  refine ⟨?_, rfl⟩
  simp only [Moment.instant]
  omega

theorem requireDateOk {date : Moment} (aware : now.isNaive = false)
    (ok : requireDate settings (some now) date = .ok ()) :
    date.isNaive = false ∧ now.instant + settings.minEventLead < date.instant := by
  unfold requireDate at ok
  split at ok
  · cases ok
  rename_i zoned
  have zoned : date.isNaive = false := by simpa using zoned
  refine ⟨zoned, ?_⟩
  split at ok
  · cases ok
  rename_i earliest planned
  obtain ⟨instant, naive⟩ := laterOk planned
  split at ok
  · cases ok
  · rename_i order
    rw [Moment.order?, zoned, naive, aware, if_pos rfl, Option.some.injEq, compare_gt_iff_gt] at order
    omega
  · cases ok

end

namespace Tier
variable {settings : Settings} {tier updated : Tier}

theorem ofSpecSound {id : Raw} {spec : TierSpec} (ok : ofSpec settings id spec = .ok tier) :
    tier.Sound settings := by
  obtain ⟨name, price, capacity, named, places, _, rfl⟩ := ofSpecOk ok
  obtain ⟨_, positive, admits⟩ := capacityOk places
  exact ⟨textOk named, price.bounds, capacity, rfl, allowed positive admits⟩

theorem changeSound {changes : TierChanges} (sound : tier.Sound settings)
    (ok : tier.change settings changes = .ok updated) : updated.Sound settings := by
  rw [changeParts] at ok
  obtain ⟨name, named, ok⟩ := bindOk ok
  obtain ⟨price, _, ok⟩ := bindOk ok
  obtain ⟨capacity, places, ok⟩ := bindOk ok
  cases ok
  constructor
  · obtain ⟨_, rfl⟩ | ⟨value, _, checked⟩ := renewedOk named
    · exact sound.named
    · exact textOk checked
  · exact price.bounds
  · obtain ⟨_, rfl⟩ | ⟨value, _, checked⟩ := renewedOk places
    · exact sound.capacity
    · obtain ⟨n, required, checked⟩ := bindOk checked
      obtain ⟨below, _, checked⟩ := bindOk checked
      obtain ⟨_, checked⟩ := guardOk checked
      cases checked
      obtain ⟨_, positive, admits⟩ := capacityOk required
      exact ⟨n, rfl, allowed positive admits⟩

end Tier

namespace Event
variable {settings : Settings} {now next : Moment} {event updated : Event} {tier : Tier}

theorem draftSound {organizer name description venue : Raw} {id : EventId} {date : Option Moment}
    {specs : List TierSpec} (aware : now.isNaive = false)
    (ok : draft settings (some now) organizer id name description venue date specs = .ok event) :
    event.Sound settings now := by
  have drafted := draftOk ok
  obtain ⟨⟨count, ids⟩, _⟩ := drafted.tier
  obtain ⟨moment, _, dated, required⟩ := drafted.date
  obtain ⟨zoned, late⟩ := requireDateOk aware required
  obtain ⟨names, prices, capacities, named, priced, places, tiers⟩ := drafted.tiers
  have many : event.tiers.length = count := by simpa using congrArg List.length ids
  refine ⟨textOk drafted.name, textOk drafted.venue,
    ⟨moment, now, dated, drafted.createdAt, zoned, aware, le_rfl, late⟩, ?_, many ▸ ids, fun tier mem => ?_⟩
  · rw [tiers]
    cases named with
    | nil => exact absurd rfl drafted.some
    | cons _ _ =>
      cases priced
      cases places
      nofun
  · rw [tiers] at mem
    obtain ⟨n, ⟨name, price, capacity⟩, inside, rfl⟩ := Tier.numberedFresh mem
    obtain ⟨first, rest⟩ := List.of_mem_zip inside
    obtain ⟨_, _, checked⟩ := relatedMem named first
    obtain ⟨_, _, required⟩ := relatedMem places (List.of_mem_zip rest).2
    obtain ⟨_, positive, admits⟩ := capacityOk required
    exact ⟨textOk checked, price.bounds, capacity, rfl, allowed positive admits⟩

theorem changeSound {changes : EventChanges} (sound : event.Sound settings now) (aware : now.isNaive = false)
    (ok : event.change settings (some now) changes = .ok updated) : updated.Sound settings now := by
  rw [changeParts] at ok
  obtain ⟨name, named, ok⟩ := bindOk ok
  obtain ⟨venue, placed, ok⟩ := bindOk ok
  obtain ⟨date, dated, ok⟩ := bindOk ok
  cases ok
  refine ⟨?_, ?_, ?_, sound.some, sound.ids, sound.tiers⟩
  · obtain ⟨_, rfl⟩ | ⟨value, _, checked⟩ := renewedOk named
    · exact sound.name
    · exact textOk checked
  · obtain ⟨_, rfl⟩ | ⟨value, _, checked⟩ := renewedOk placed
    · exact sound.venue
    · exact textOk checked
  · obtain ⟨old, made, was, once, zoned, zoned', before, late⟩ := sound.date
    obtain ⟨_, rfl⟩ | ⟨value, _, checked⟩ := renewedOk dated
    · exact ⟨old, made, was, once, zoned, zoned', before, late⟩
    · obtain ⟨_, required, checked⟩ := bindOk checked
      cases checked
      obtain ⟨zoned, late⟩ := requireDateOk aware required
      exact ⟨value, made, rfl, once, zoned, zoned', before, by omega⟩

theorem Sound.numbered (sound : event.Sound settings now) {id : Raw} :
    id ∈ event.tiers.map Tier.id ↔ ∃ n : Nat, n < event.tiers.length ∧ id = .whole n := by
  rw [sound.ids]
  simp only [List.mem_map, List.mem_range]
  exact ⟨fun ⟨n, below, same⟩ => ⟨n, below, same.symm⟩, fun ⟨n, below, same⟩ => ⟨n, below, same.symm⟩⟩

theorem Sound.whole (sound : event.Sound settings now) :
    ∀ other ∈ event.tiers, ∃ n : Int, other.id = .whole n :=
  (wholeIds sound.ids).1

theorem Sound.withTier (sound : event.Sound settings now) (fine : tier.Sound settings)
    (known : tier.id ∈ event.tiers.map Tier.id) : (event.withTier tier).Sound settings now := by
  obtain ⟨n, _, id⟩ := sound.numbered.mp known
  have ids := putTierOld id sound.whole known
  have many : (putTier tier event.tiers).length = event.tiers.length := by
    simpa using congrArg List.length ids
  refine ⟨sound.name, sound.venue, sound.date, ?_, ?_, fun other mem => ?_⟩
  · exact fun none => sound.some (List.length_eq_zero_iff.mp (many.symm.trans (congrArg List.length none)))
  · exact (ids.trans sound.ids).trans (by rw [← many]; rfl)
  · obtain rfl | old := memPutTier mem
    · exact fine
    · exact sound.tiers other old

theorem Sound.nextId (sound : event.Sound settings now) :
    event.nextTierId = .ok (.whole event.tiers.length) :=
  nextTierIdNumbered sound.ids

theorem Sound.tierAdded (sound : event.Sound settings now) (fine : tier.Sound settings)
    (next : event.nextTierId = .ok tier.id) : (event.withTier tier).Sound settings now := by
  have id : tier.id = .whole event.tiers.length := Except.ok.inj (next.symm.trans sound.nextId)
  have free : tier.id ∉ event.tiers.map Tier.id := fun mem => by
    obtain ⟨n, below, is⟩ := sound.numbered.mp mem
    rw [id, Raw.whole.injEq, Int.natCast_inj] at is
    omega
  have added : putTier tier event.tiers = event.tiers ++ [tier] := putTierNew id sound.whole free
  refine ⟨sound.name, sound.venue, sound.date, ?_, ?_, fun other mem => ?_⟩
  · rw [Event.withTier, added]
    simp
  · rw [Event.withTier, added, List.map_append, sound.ids, List.length_append, List.length_singleton,
      List.range_succ, List.map_append, List.map_singleton, List.map_singleton, id]
  · rw [Event.withTier, added] at mem
    rcases List.mem_append.mp mem with old | new
    · exact sound.tiers other old
    · exact List.mem_singleton.mp new ▸ fine

theorem Sound.later (sound : event.Sound settings now) (onward : now.instant ≤ next.instant) :
    event.Sound settings next := by
  obtain ⟨date, made, dated, once, zoned, zoned', before, late⟩ := sound.date
  exact { sound with date := ⟨date, made, dated, once, zoned, zoned', before.trans onward, late⟩ }

theorem Sound.moved (sound : event.Sound settings now) (status : EventStatus) :
    { event with status }.Sound settings now :=
  { sound with }

end Event

structure View.Sound (settings : Settings) (now : Moment) (v : View) : Prop where
  events : ∀ {id event}, v.events.get? id = some event → event.Sound settings now
  unsold : ∀ {id event}, v.events.get? id = some event → event.status = .upcoming →
    v.registrationsOf id = []

namespace View
variable {settings : Settings} {now next : Moment} {v w : View}

theorem emptySound : Tables.empty.view.Sound settings now :=
  ⟨nofun, nofun⟩

theorem Sound.later (sound : v.Sound settings now) (onward : now.instant ≤ next.instant) :
    v.Sound settings next :=
  ⟨fun stored => (sound.events stored).later onward, sound.unsold⟩

theorem Sound.elsewhere (sound : v.Sound settings now) (events : w.events = v.events)
    (registrations : w.registrations = v.registrations) : w.Sound settings now where
  events stored := sound.events (events ▸ stored)
  unsold stored upcoming := by
    rw [registrationsOf, registrations]
    exact sound.unsold (events ▸ stored) upcoming

theorem savedOrOld {id : EventId} {event found : Event}
    (stored : (v.edit (.event event)).events.get? id = some found) :
    (id = event.id ∧ found = event) ∨ v.events.get? id = some found := by
  by_cases here : id = event.id
  · subst here
    cases (Table.getPutSame _ _ _).symm.trans stored
    exact .inl ⟨rfl, rfl⟩
  · exact .inr ((Table.getPutOther _ here _).symm.trans stored)

theorem Sound.saved (sound : v.Sound settings now) {event : Event} (fine : event.Sound settings now)
    (unsold : event.status = .upcoming → v.registrationsOf event.id = []) :
    (v.edit (.event event)).Sound settings now where
  events stored := by
    obtain ⟨_, rfl⟩ | old := savedOrOld stored
    · exact fine
    · exact sound.events old
  unsold stored upcoming := by
    obtain ⟨rfl, rfl⟩ | old := savedOrOld stored
    · exact unsold upcoming
    · exact sound.unsold old upcoming

end View

structure Desk.Shows (desk : Desk Journal) (now : Moment) : Prop where
  clock : desk.clock = some now
  aware : now.isNaive = false

namespace Desk
variable {desk : Desk Journal} {request : Operation} {edits : List Edit} {funds : Funds}
  {told : List Notice} {answer : Answer} {now : Moment}

theorem Effect.sound (effect : desk.Effect request edits funds told answer) (regular : desk.view.Regular)
    (inventory : desk.view.Inventory) (shows : desk.Shows now) (sound : desk.view.Sound desk.settings now) :
    (edits.foldl View.edit desk.view).Sound desk.settings now := by
  have clock := shows.clock
  cases effect with
  | created verified named drafted free =>
    rw [clock] at drafted
    exact sound.saved (Event.draftSound shows.aware drafted) fun _ => View.unplaced inventory free
  | detailsUpdated owns editable some changed =>
    rw [clock] at changed
    have fine := Event.changeSound (sound.events owns.stored) shows.aware changed
    obtain ⟨name, description, venue, date, rfl⟩ := Event.changeOk changed
    exact sound.saved fine fun _ => sound.unsold owns.stored editable
  | tierAdded owns editable next made =>
    have fine := Tier.ofSpecSound made
    obtain ⟨name, price, capacity, _, _, _, rfl⟩ := Tier.ofSpecOk made
    exact sound.saved ((sound.events owns.stored).tierAdded fine next) fun _ => sound.unsold owns.stored editable
  | tierUpdated owns editable found some changed =>
    obtain ⟨mem, _⟩ := Event.tierMem found
    have before := sound.events owns.stored
    obtain ⟨id, _, _⟩ := Tier.changeOk changed
    have fine := before.withTier (Tier.changeSound (before.tiers _ mem) changed) (id ▸ List.mem_map_of_mem mem)
    exact sound.saved fine fun _ => sound.unsold owns.stored editable
  | statusUpdated owns known allowed =>
    have passed := (EventStatus.followsBecome allowed).passed
    exact sound.saved ((sound.events owns.stored).moved _) fun upcoming => absurd upcoming passed
  | cancelled owns allowed =>
    exact sound.saved ((sound.events owns.stored).moved _) nofun
  | @registered attendee given named event tier sold label verified names active found party free places
      sells =>
    obtain ⟨mem, _⟩ := Event.tierMem found
    have before := sound.events names.stored
    obtain ⟨n, is⟩ := (regular.tiers names.stored tier mem).sold
    rw [Tier.sellWhole is] at sells
    cases sells
    have fine : Tier.Sound desk.settings { tier with sold := .whole (n + 1) } := { before.tiers tier mem with }
    have placed : (desk.view.edit (.registration label ⟨event.id, attendee, named, desk.clock⟩)).Sound
        desk.settings now := by
      refine ⟨sound.events, fun {id other} stored upcoming => ?_⟩
      have apart : id ≠ event.id := by
        rintro rfl
        cases stored.symm.trans names.stored
        rw [active] at upcoming
        cases upcoming
      exact (View.registrationsThere free apart).trans (sound.unsold stored upcoming)
    have listed : ((desk.view.edit (.registration label ⟨event.id, attendee, named, desk.clock⟩)).edit
        (.attendee event.id attendee)).Sound desk.settings now := placed.elsewhere rfl rfl
    have known : tier.id ∈ event.tiers.map Tier.id := List.mem_map_of_mem mem
    refine listed.saved (before.withTier fine known) fun upcoming => ?_
    exact absurd (active.symm.trans upcoming) nofun
  | escrowSet verified given free => exact sound.elsewhere rfl rfl
  | paid => exact sound.elsewhere rfl rfl
  | minted verified named someone issues party => exact sound.elsewhere rfl rfl
  | @ticketTransferred source target given label ticket giver taker =>
    obtain ⟨lists, moved⟩ := View.handedOver desk.view label { ticket with owner := target } given giver
      taker
    rw [moved]
    exact sound.elsewhere rfl rfl
  | ticketUsed verified holds own valid => exact sound.elsewhere rfl rfl
  | ticketCancelled verified holds own valid => exact sound.elsewhere rfl rfl

end Desk

theorem bindNever {α β : Type} {value : Except Failure α} {next : α → Except Failure β} {failure : Failure}
    (first : value ≠ .error failure) (later : ∀ a, value = .ok a → next a ≠ .error failure) :
    (value >>= next) ≠ .error failure := by
  cases value with
  | error other => exact fun same => first (congrArg Except.error (Except.error.inj same))
  | ok a => exact later a rfl

theorem renewedNever {α β : Type} {check : α → Except Failure β} {failure : Failure}
    (each : ∀ a, check a ≠ .error failure) (old : β) (given : Option α) :
    renewed check old given ≠ .error failure := by
  cases given with
  | some value => exact each value
  | none => nofun

namespace Raw

theorem readNever (refusal : EventRefusal) (given : Raw) : Quantity.ofRaw given ≠ .error (.event refusal) := by
  unfold Quantity.ofRaw
  split <;> nofun

theorem atMostNever (refusal : EventRefusal) (a b : Raw) : a.isAtMost b ≠ .error (.event refusal) :=
  bindNever (readNever refusal a) fun _ _ => bindNever (readNever refusal b) fun _ _ => nofun

theorem wholePartNever (refusal : EventRefusal) (given : Raw) : given.wholePart ≠ .error (.event refusal) := by
  refine bindNever (readNever refusal given) fun quantity _ => ?_
  unfold Quantity.wholePart
  split <;> nofun

end Raw

theorem Tier.changeEnough {settings : Settings} {tier : Tier} (unsold : tier.sold = .whole 0)
    (changes : TierChanges) : tier.change settings changes ≠ .error (.event .capacityBelowSold) := by
  have text (value : Raw) : requireText value .tierName ≠ .error (.event .capacityBelowSold) := by
    unfold requireText
    split <;> nofun
  have price (value : Raw) : requirePrice value ≠ .error (.event .capacityBelowSold) := by
    unfold requirePrice
    split <;> nofun
  have places (value : Raw) : requireCapacity settings value ≠ .error (.event .capacityBelowSold) := by
    unfold requireCapacity
    split
    · split
      · nofun
      · refine bindNever (bindNever (Raw.atMostNever _ _ _) fun _ _ => nofun) fun admitted _ => ?_
        split <;> nofun
    · nofun
  have capacity (value : Raw) : tier.renewedCapacity settings value ≠ .error (.event .capacityBelowSold) := by
    refine bindNever (places value) fun n required => ?_
    have enough : (Raw.whole n).isBelow tier.sold = .ok false := by
      rw [unsold, Raw.belowWhole, decide_eq_false (by have := (capacityOk required).2.1; omega)]
    refine bindNever (by rw [enough]; nofun) fun below compared => ?_
    cases enough.symm.trans compared
    nofun
  rw [changeParts]
  exact bindNever (renewedNever text _ _) fun _ _ => bindNever (renewedNever price _ _) fun _ _ =>
    bindNever (renewedNever capacity _ _) fun _ _ => nofun

theorem Tables.saveNever (t : Tables) (event : Event) (refusal : EventRefusal) :
    (t.plan (.saveEvent event)).1 ≠ .error (.event refusal) := by
  rw [plan]
  split <;> simp

namespace Registry
open BoxOffice.Action
variable {desk : Desk Journal}

theorem loadEditableNever (tame : desk.Tame) (organizer : Raw) (id : EventId) :
    (loadEditable organizer id).Leads desk (fun failure _ => failure ≠ .event .capacityBelowSold)
      fun event after => after.Tame ∧ desk.view.events.get? id = some event ∧ event.status = .upcoming := by
  have loads : (load id).Leads desk (fun failure _ => failure ≠ .event .capacityBelowSold)
      fun event after => after.Tame ∧ desk.view.events.get? id = some event := by
    unfold load
    refine leadsBind (callNever tame nofun) fun found after ⟨kept, planned, _⟩ => ?_
    have stored : desk.view.events.get? id = found := Except.ok.inj planned
    cases found with
    | some event => exact leadsPure ⟨kept.tame tame, stored⟩
    | none => exact leadsThrow nofun
  have owned : (loadOwned organizer id).Leads desk (fun failure _ => failure ≠ .event .capacityBelowSold)
      fun event after => after.Tame ∧ desk.view.events.get? id = some event := by
    unfold loadOwned
    exact leadsBind loads fun event after found => leadsGuard (fun _ => nofun) fun _ => leadsPure found
  unfold loadEditable
  refine leadsBind owned fun event after ⟨tame, stored⟩ => leadsGuard (fun _ => nofun) fun editable => ?_
  exact leadsPure ⟨tame, stored, by simpa [EventStatus.isEditable] using editable⟩

theorem updateTierEnough (tame : desk.Tame)
    (unsold : ∀ {id event}, desk.view.events.get? id = some event → event.status = .upcoming →
      ∀ tier ∈ event.tiers, tier.sold = .whole 0)
    (organizer given named : Raw) (changes : TierChanges) :
    (updateTier organizer given named changes).Leads desk
      (fun failure _ => failure ≠ .event .capacityBelowSold) fun _ _ => True := by
  unfold updateTier
  refine leadsBind (leadsMono (authenticateEnds _ _ desk) ?_ fun _ _ same => same) ?_
  · rintro failure after (rfl | rfl | rfl) <;> nofun
  rintro _ _ rfl
  refine leadsBind (leadsMono (eventIdEnds given _ _) ?_ fun _ _ same => same) ?_
  · rintro failure after rfl
    nofun
  rintro id _ rfl
  refine leadsBind (atomicallyEnds tame (fun failure disturbs => disturbs.plain _) fun first tame view around => ?_)
    fun made after _ => ?_
  · refine leadsBind (loadEditableNever tame organizer id) fun event after ⟨tame, stored, upcoming⟩ => ?_
    rw [view] at stored
    split
    · exact leadsThrow (by simp)
    rename_i tier found
    split
    · exact leadsPure trivial
    refine bindSettings (bindExcept (fun failure failed => ?_) fun updated _ => ?_)
    · rintro rfl
      exact Tier.changeEnough (unsold stored upcoming tier (Event.tierMem found).1) changes failed
    · exact leadsBind (callNever tame (Tables.saveNever _ _ _)) fun _ _ _ => leadsPure trivial
  · dsimp only
    split
    · exact leadsPure trivial
    refine bindExcept (fun failure failed => ?_) fun part _ => bindLog (by simp) fun after _ => ?_
    · rintro rfl
      exact Raw.wholePartNever _ named failed
    refine leadsBind (leadsMono (notifyHeard _ _) ?_ fun _ _ h => h) fun _ _ _ => ?_
    · rintro failure last ⟨rfl, _⟩
      simp
    · exact leadsPure trivial

end Registry

def Moment.Onward : Option Moment → Option Moment → Prop
  | some last, some next => next.isNaive = false ∧ last.instant ≤ next.instant
  | _, _ => False

instance (last next : Option Moment) : Decidable (Moment.Onward last next) :=
  match last, next with
  | some _, some _ => inferInstanceAs (Decidable (_ ∧ _))
  | some _, none => isFalse id
  | none, _ => isFalse id

theorem Moment.Onward.shows {desk after : Desk Journal} {now : Moment} (onward : Onward desk.clock after.clock)
    (shows : desk.Shows now) : ∃ next, after.Shows next ∧ now.instant ≤ next.instant := by
  rw [shows.clock] at onward
  cases clock : after.clock with
  | none =>
    rw [clock] at onward
    exact onward.elim
  | some next =>
    rw [clock] at onward
    exact ⟨next, ⟨clock, onward.1⟩, onward.2⟩

deriving instance DecidableEq for Settings

namespace Step

/- A run that keeps the settings, under a clock that does not go back. -/
def Orderly : List Step → Desk Journal → Prop
  | [], _ => True
  | step :: rest, desk =>
    (step.take desk).2.settings = desk.settings ∧ Moment.Onward desk.clock (step.take desk).2.clock ∧
      Orderly rest (step.take desk).2

instance orderlyDecidable : (steps : List Step) → (desk : Desk Journal) → Decidable (Orderly steps desk)
  | [], _ => isTrue trivial
  | step :: rest, desk =>
    have := orderlyDecidable rest (step.take desk).2
    inferInstanceAs (Decidable (_ ∧ _ ∧ _))

theorem takeAllSound {steps : List Step} {desk : Desk Journal} {now : Moment}
    (ordinary : ∀ step ∈ steps, step.Ordinary) (orderly : Orderly steps desk) (reached : desk.store.Reached)
    (tame : desk.Tame) (shows : desk.Shows now) (sound : desk.view.Sound desk.settings now) :
    ∃ last, (takeAll steps desk).2.Shows last ∧ (takeAll steps desk).2.view.Sound desk.settings last := by
  induction steps generalizing desk now with
  | nil => exact ⟨now, shows, sound⟩
  | cons step rest ih =>
    obtain ⟨first, ordinary⟩ := List.forall_mem_cons.mp ordinary
    obtain ⟨settings, clock, orderly⟩ := orderly
    obtain ⟨next, shows', onward⟩ := clock.shows shows
    obtain ⟨reached', tame'⟩ := takeReached first reached tame
    have here : (step.take desk).2.view.Sound desk.settings now := by
      obtain same | ⟨request, edits, funds, told, answer, rfl, effect, changed, _⟩ :=
        takeEffective first reached tame
      · exact same ▸ sound
      · exact changed ▸ effect.sound reached.regular reached.inventory shows sound
    rw [← settings] at here ⊢
    exact ih ordinary orderly reached' tame' shows' (here.later onward)

end Step

theorem View.Inventory.unsold {v : View} (inventory : v.Inventory) {id : EventId} {event : Event} {tier : Tier}
    (stored : v.events.get? id = some event) (named : event.id = id) (none : v.registrationsOf id = [])
    (mem : tier ∈ event.tiers) : tier.sold = .whole 0 := by
  subst named
  obtain ⟨_, _, sold, _⟩ := (inventory.stocks stored).stocked tier mem
  rw [sold, soldOf, none]
  rfl

/-- In a run of ordinary steps that keeps the settings, under a clock that does not go back, all stored events
are sound. Before an event opens nobody is registered for it and no place is sold, so that a change of a tier
is never refused for the places that are sold. -/
theorem recordsSound {desk : Desk Journal} (empty : desk.store = .empty) (tame : desk.Tame) {now : Moment}
    (shows : desk.Shows now) {steps : List Step} (ordinary : ∀ step ∈ steps, step.Ordinary)
    (orderly : Step.Orderly steps desk) :
    let after := (Step.takeAll steps desk).2
    ∃ last, after.Shows last ∧ after.view.Sound desk.settings last ∧
      (∀ {id event}, after.view.events.get? id = some event → event.status = .upcoming →
        ∀ tier ∈ event.tiers, tier.sold = .whole 0) ∧
      ∀ organizer given named changes,
        ((Operation.updateTier organizer given named changes).run.perform after).1 ≠
          .error (.event .capacityBelowSold) := by
  intro after
  have start : desk.store.Reached := empty ▸ .empty
  have begins : desk.view.Sound desk.settings now := by
    rw [Desk.view, empty]
    exact View.emptySound
  obtain ⟨reached, tame'⟩ := Step.takeAllReached ordinary start tame
  obtain ⟨last, shows', sound⟩ := Step.takeAllSound ordinary orderly start tame shows begins
  have unsold {id event} (stored : after.view.events.get? id = some event) (upcoming : event.status = .upcoming) :
      ∀ tier ∈ event.tiers, tier.sold = .whole 0 :=
    fun tier mem => reached.inventory.unsold stored (reached.regular.named stored)
      (sound.unsold stored upcoming) mem
  refine ⟨last, shows', sound, unsold, fun organizer given named changes refused => ?_⟩
  have ends := Registry.updateTierEnough tame' unsold organizer given named changes
  unfold Action.Leads at ends
  simp only [Operation.run, Action.performBind] at refused
  split at ends <;> rename_i ran <;> rw [ran] at refused <;> cases refused
  exact ends rfl

theorem recordsSoundGala :
    let steps : List Step :=
      [.operation (.createEvent (.text "host") (.text "gala") (.text "Gala") .nothing (.text "Hall")
        (some ⟨2 * Moment.microsPerDay, some 0⟩) [⟨.text "Stalls", .whole 5, .whole 2⟩]),
      .advance (.whole 60) (.whole 0),
      .operation (.addTicketTier (.text "host") (.text "gala") ⟨.text "Balcony", .text "7.50", .whole 3⟩),
      .breakStore ⟨"save_event", true⟩,
      .operation (.updateTier (.text "host") (.text "gala") (.whole 1) ⟨none, none, some (.whole 4)⟩)]
    let desk : Desk Journal :=
      .opened .empty none (some ⟨0, some 0⟩) .standard (.text "escrow") false true
    let after := (Step.takeAll steps desk).2
    (∀ step ∈ steps, step.Ordinary) ∧ Step.Orderly steps desk ∧
      (∃ last, after.Shows last ∧ after.view.Sound desk.settings last) ∧
      (after.view.events.get? ⟨"gala", rfl⟩).map (fun event => event.tiers.map Tier.id) =
        some [.whole 0, .whole 1] := by
  intro steps desk after
  have ordinary : ∀ step ∈ steps, step.Ordinary := by simp [steps, Step.Ordinary, entryMethod]
  have orderly : Step.Orderly steps desk := by decide +kernel
  have tame : desk.Tame := by
    intro fault mem
    cases mem
  obtain ⟨last, shows, sound, _⟩ := @recordsSound desk rfl tame ⟨0, some 0⟩ ⟨rfl, rfl⟩ steps ordinary orderly
  have tiers : (after.view.events.get? ⟨"gala", rfl⟩).map (fun event => event.tiers.map Tier.id) =
      some [.whole 0, .whole 1] := by
    decide +kernel
  exact ⟨ordinary, orderly, ⟨last, shows, sound⟩, tiers⟩

end BoxOffice
