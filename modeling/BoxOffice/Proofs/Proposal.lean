import BoxOffice.Proofs.Desk.Decision
import BoxOffice.Proofs.Drafting
import BoxOffice.Proofs.Soundness
import BoxOffice.Proofs.Verdict

/-! Proposals of new events, the rules on them in the order in which they are checked, and the event that comes
of a proposal that keeps them all. -/
namespace BoxOffice

structure Proposal where
  organizer : Raw
  id : Raw
  name : Raw
  description : Raw
  venue : Raw
  date : Moment
  tiers : List TierSpec

namespace TierSpec

def Placed (settings : Settings) (spec : TierSpec) : Prop :=
  ∃ n : Int, spec.capacity = .whole n ∧ 0 < n ∧ (Raw.whole n).isBelow settings.maxTierCapacity = .ok true

/- A price that names a number, not negative, in whole hundredths, and below 10 ^ 26. -/
def Priced (spec : TierSpec) : Prop :=
  ∃ n, Money.named? spec.price = some n ∧ 0 ≤ n.value ∧ n.value < 10 ^ 26 ∧ ∃ cents : Int, n.value = cents / 100

end TierSpec

namespace Proposal

def request (p : Proposal) : Operation :=
  .createEvent p.organizer p.id p.name p.description p.venue (some p.date) p.tiers

structure Complete (p : Proposal) : Prop where
  id : ∃ id : EventId, p.id = .text id.text
  name : p.name.words?.isSome = true
  venue : p.venue.words?.isSome = true
  some : p.tiers ≠ []
  tiers : ∀ spec ∈ p.tiers, spec.name.words?.isSome = true

def Timely (settings : Settings) (now : Moment) (p : Proposal) : Prop :=
  p.date.isNaive = false ∧ now.instant + settings.minEventLead < p.date.instant

structure Describes (p : Proposal) (now : Moment) (event : Event) : Prop where
  id : p.id = .text event.id.text
  organizer : event.organizer = p.organizer
  name : event.name = p.name
  description : event.description = if p.description.isBlank then .text "" else p.description
  venue : event.venue = p.venue
  date : ∃ date, event.date = some date ∧ date.isNaive = false ∧ date.instant = p.date.instant
  createdAt : ∃ made, event.createdAt = some made ∧ made.instant = now.instant
  status : event.status = .upcoming
  count : event.tiers.length = p.tiers.length
  tiers : ∀ (i : Nat) (spec : TierSpec), p.tiers[i]? = some spec → ∃ tier, event.tiers[i]? = some tier ∧
    tier.id = .whole i ∧ tier.name = spec.name ∧ tier.capacity = spec.capacity ∧ tier.sold = .whole 0 ∧
    ∃ price, Money.named? spec.price = some price ∧ tier.price.amount.value = price.value

end Proposal

/- The clock and the settings under which every proposal can be ruled on: the earliest date is in the calendar,
and the limit of capacities is a number. -/
structure Settings.Rules (settings : Settings) (now : Moment) : Prop where
  aware : now.isNaive = false
  lead : (now.plus? settings.minEventLead).isSome = true
  limit : ∃ limit, Quantity.ofRaw? settings.maxTierCapacity = some limit ∧ limit ≠ .floating .nan

section
variable {settings : Settings} {now : Moment}

theorem requireTextObeys (value : Raw) (field : TextField) :
    Obeys (requireText value field) [⟨value.words?.isSome = true, .invalidInput⟩] := by
  unfold requireText
  by_cases filled : value.words?.isSome = true
  · rw [if_pos filled]
    exact .kept filled value
  · rw [if_neg filled]
    exact .broken filled rfl

theorem EventId.namedObeys (given : Raw) :
    Obeys (EventId.named given) [⟨∃ id : EventId, given = .text id.text, .invalidInput⟩] := by
  cases named : EventId.named given with
  | ok id => exact .kept ⟨id, EventId.namedText named⟩ id
  | error failure =>
    have nameless : ¬∃ id : EventId, given = .text id.text := by
      rintro ⟨id, rfl⟩
      cases named.symm.trans (EventId.namedSelf id)
    unfold EventId.named at named
    split at named
    · split at named <;> cases named
      exact .broken nameless rfl
    · cases named
      exact .broken nameless rfl

theorem requireDateObeys (rules : settings.Rules now) (date : Moment) :
    Obeys (requireDate settings (some now) date)
      [⟨date.isNaive = false ∧ now.instant + settings.minEventLead < date.instant, .invalidEventDate⟩] := by
  obtain ⟨earliest, planned⟩ := Option.isSome_iff_exists.mp rules.lead
  have later : later (some now) settings.minEventLead = .ok earliest := by
    simp only [later, planned]
  obtain ⟨instant, naive⟩ := laterOk later
  unfold requireDate
  cases zone : date.isNaive with
  | true =>
    refine .broken ?_ rfl
    rintro ⟨is, _⟩
    cases is
  | false =>
    have order : date.order? earliest = some (compare date.instant earliest.instant) := by
      rw [Moment.order?, zone, naive, rules.aware, if_pos rfl]
    simp only [Bool.false_eq_true, if_false, later, order]
    -- Both dates have a zone here, so that their instants decide.
    cases compared : compare date.instant earliest.instant with
    | gt =>
      have after := compare_gt_iff_gt.mp compared
      exact .kept ⟨trivial, by omega⟩ ()
    | eq =>
      have same := compare_eq_iff_eq.mp compared
      exact .broken (fun kept => by omega) rfl
    | lt =>
      have before := compare_lt_iff_lt.mp compared
      exact .broken (fun kept => by omega) rfl

theorem admitsCapacityIff (rules : settings.Rules now) (n : Int) :
    ∃ admitted, settings.admitsCapacity n = .ok admitted ∧
      (admitted = true ↔ (Raw.whole n).isBelow settings.maxTierCapacity = .ok true) := by
  obtain ⟨limit, read, number⟩ := rules.limit
  have counted : Quantity.ofRaw settings.maxTierCapacity = .ok limit := by
    rw [Quantity.ofRaw, read]
  refine ⟨!limit.isAtMost (.whole n), ?_, ?_⟩
  · simp only [Settings.admitsCapacity, Raw.isAtMost, counted, Quantity.ofRawWhole, bind, Except.bind, pure, Except.pure]
  · simp only [Raw.isBelow, counted, Quantity.ofRawWhole, bind, Except.bind, pure, Except.pure,
      Quantity.belowNotAtMost number, Except.ok.injEq]

theorem requireCapacityObeys (rules : settings.Rules now) (spec : TierSpec) :
    Obeys (requireCapacity settings spec.capacity) [⟨spec.Placed settings, .invalidTicketCount⟩] := by
  unfold TierSpec.Placed
  cases spec.capacity with
  | whole n =>
    obtain ⟨admitted, admits, below⟩ := admitsCapacityIff rules n
    simp only [requireCapacity, admits]
    by_cases positive : n ≤ 0
    · rw [if_pos positive]
      refine .broken ?_ rfl
      rintro ⟨_, ⟨⟩, more, _⟩
      omega
    · rw [if_neg positive]
      cases admitted with
      | true => exact .kept ⟨n, rfl, by omega, below.mp rfl⟩ n
      | false =>
        refine .broken ?_ rfl
        rintro ⟨_, ⟨⟩, _, less⟩
        cases below.mpr less
  | nothing | truth _ | fraction _ | text _ | list _ | record _ =>
    refine .broken ?_ rfl
    rintro ⟨_, is, _⟩
    cases is

theorem requirePriceObeys (spec : TierSpec) :
    Obeys (requirePrice spec.price) [⟨spec.Priced, .invalidPrice⟩] := by
  unfold requirePrice
  obtain ⟨m, named, read⟩ | ⟨fault, read, faulty⟩ := Money.ofRawCases spec.price
  · have priced : spec.Priced := ⟨m.amount, named, Money.faultlessValue.mp m.sound⟩
    simp only [read]
    exact .kept priced m
  · have free : ¬spec.Priced := by
      rintro ⟨n, named, worth⟩
      exact faulty n named (Money.faultlessValue.mpr worth)
    simp only [read]
    exact .broken free rfl

theorem requirePriceOk {value : Raw} {price : Money} (ok : requirePrice value = .ok price) :
    Money.named? value = some price.amount := by
  unfold requirePrice at ok
  obtain ⟨m, named, read⟩ | ⟨fault, read, _⟩ := Money.ofRawCases value
  · simp only [read] at ok
    cases ok
    exact named
  · simp only [read] at ok
    cases ok

end

namespace Proposal
variable {settings : Settings} {now : Moment} {p : Proposal} {event : Event}

def draft (settings : Settings) (now : Option Moment) (p : Proposal) : Except Failure Event := do
  let id ← EventId.named p.id
  Event.draft settings now p.organizer id p.name p.description p.venue (some p.date) p.tiers

theorem draftObeys (rules : settings.Rules now) (p : Proposal) :
    Obeys (p.draft settings (some now))
      [⟨p.Complete, .invalidInput⟩, ⟨p.Timely settings now, .invalidEventDate⟩,
        ⟨∀ spec ∈ p.tiers, spec.Placed settings, .invalidTicketCount⟩,
        ⟨∀ spec ∈ p.tiers, spec.Priced, .invalidPrice⟩] := by
  have checked : Obeys (p.draft settings (some now))
      [⟨∃ id : EventId, p.id = .text id.text, .invalidInput⟩, ⟨p.name.words?.isSome = true, .invalidInput⟩,
        ⟨p.venue.words?.isSome = true, .invalidInput⟩, ⟨¬p.tiers.isEmpty = true, .invalidInput⟩,
        ⟨∀ spec ∈ p.tiers, spec.name.words?.isSome = true, .invalidInput⟩,
        ⟨p.Timely settings now, .invalidEventDate⟩, ⟨∀ spec ∈ p.tiers, spec.Placed settings, .invalidTicketCount⟩,
        ⟨∀ spec ∈ p.tiers, spec.Priced, .invalidPrice⟩] := by
    refine (EventId.namedObeys p.id).bind fun id _ => ?_
    refine (requireTextObeys p.name .name).bind fun name _ => ?_
    refine (requireTextObeys p.venue .venue).bind fun venue _ => ?_
    refine .guard .noTiers fun _ => ?_
    refine (Obeys.mapM (fun spec => requireTextObeys spec.name .tierName) p.tiers).bind fun names _ => ?_
    refine (requireDateObeys rules p.date).bind fun _ _ => ?_
    refine (Obeys.mapM (requireCapacityObeys rules) p.tiers).bind fun capacities _ => ?_
    exact (Obeys.mapM requirePriceObeys p.tiers).bind fun prices _ => .none _
  -- The first five are refused alike, and no other rule is checked between them.
  refine checked.join.join.join.join.restate ⟨?_, fun complete => ?_⟩
  · rintro ⟨⟨⟨⟨id, name⟩, venue⟩, some⟩, tiers⟩
    exact ⟨id, name, venue, mt List.isEmpty_iff.mpr some, tiers⟩
  · exact ⟨⟨⟨⟨complete.id, complete.name⟩, complete.venue⟩, mt List.isEmpty_iff.mp complete.some⟩, complete.tiers⟩

theorem draftDescribes (rules : settings.Rules now) (drafted : p.draft settings (some now) = .ok event) :
    p.Describes now event := by
  obtain ⟨id, named, drafted⟩ := bindOk drafted
  have made := Event.draftOk drafted
  obtain ⟨_, given, dated, checked⟩ := made.date
  cases given
  obtain ⟨_, bare, tiers, _, listed, same⟩ := Event.draftTiered.mp drafted
  have own : event.tiers = tiers := congrArg Event.tiers same
  exact {
    id := made.id ▸ EventId.namedText named
    organizer := made.organizer
    name := requireTextSame made.name
    description := made.description
    venue := requireTextSame made.venue
    date := ⟨p.date, dated, (requireDateOk rules.aware checked).1, rfl⟩
    createdAt := ⟨now, made.createdAt, rfl⟩
    status := made.status
    count := (Event.draftNumbered drafted).1
    tiers := fun i spec there => by
      obtain ⟨tier, found, checked⟩ := Tier.ofSpecsAt listed there
      obtain ⟨name, capacity, price, named, places, priced, rfl⟩ := Tier.ofSpecIff.mp checked
      refine ⟨_, own ▸ found, by rw [Tier.fresh, Int.zero_add], requireTextSame named, (capacityOk places).1.symm, rfl,
        price.amount, requirePriceOk priced, rfl⟩ }

theorem Describes.settled (describes : p.Describes now event) : p.Describes now event.settled := by
  obtain ⟨date, dated, zoned, starts⟩ := describes.date
  obtain ⟨made, created, instant⟩ := describes.createdAt
  exact { describes with
    date := ⟨date.settled, by rw [Event.settled, dated, Option.map_some], rfl, by rw [Moment.settledInstant, starts]⟩
    createdAt := ⟨made.settled, by rw [Event.settled, created, Option.map_some], by rw [Moment.settledInstant, instant]⟩
    count := by rw [Event.settled, List.length_map, describes.count]
    tiers := fun i spec there => by
      obtain ⟨tier, found, id, name, capacity, sold, price, named, worth⟩ := describes.tiers i spec there
      have value : tier.price.hundredths.amount.value = tier.price.amount.value := by
        rw [Money.valueOfCents, Money.valueOfCents, Money.centsOfHundredths]
      refine ⟨tier.settled, ?_, id, name, capacity, sold, price, named, value.trans worth⟩
      rw [Event.settled, List.getElem?_map, found, Option.map_some] }

end Proposal

end BoxOffice
