import Mathlib.Data.List.Forall2
import BoxOffice.Desk.Registry

/-! What the rules on events and tiers let through, and what a change of one tier does to a list of
tiers. -/
namespace BoxOffice

theorem bindOk {α β : Type} {value : Except Failure α} {next : α → Except Failure β} {b : β}
    (ok : (value >>= next) = .ok b) : ∃ a, value = .ok a ∧ next a = .ok b := by
  cases value with
  | error failure => cases ok
  | ok a => exact ⟨a, rfl, ok⟩

theorem bindOkIff {α β : Type} {value : Except Failure α} {next : α → Except Failure β} {b : β} :
    (value >>= next) = .ok b ↔ ∃ a, value = .ok a ∧ next a = .ok b := by
  refine ⟨bindOk, ?_⟩
  rintro ⟨a, rfl, there⟩
  exact there

theorem guardOk {α : Type} {c : Prop} [Decidable c] {failure : Failure} {next : Unit → Except Failure α}
    {a : α} (ok : (if c then (throw failure : Except Failure Unit) >>= next else next ()) = .ok a) :
    ¬c ∧ next () = .ok a := by
  split at ok
  · cases ok
  · exact ⟨by assumption, ok⟩

theorem mapMOk {α β : Type} {check : α → Except Failure β} {items : List α} {checked : List β}
    (ok : items.mapM check = .ok checked) : List.Forall₂ (fun a b => check a = .ok b) items checked := by
  induction items generalizing checked with
  | nil =>
    cases ok
    exact .nil
  | cons item rest ih =>
    rw [List.mapM_cons] at ok
    obtain ⟨first, here, ok⟩ := bindOk ok
    obtain ⟨others, later, ok⟩ := bindOk ok
    cases ok
    exact .cons here (ih later)

theorem relatedMem {α β : Type} {r : α → β → Prop} {items : List α} {others : List β}
    (related : List.Forall₂ r items others) {b : β} (mem : b ∈ others) : ∃ a ∈ items, r a b := by
  induction related with
  | nil => cases mem
  | cons here _ ih =>
    rcases List.mem_cons.mp mem with rfl | later
    · exact ⟨_, List.mem_cons_self, here⟩
    · obtain ⟨a, inside, there⟩ := ih later
      exact ⟨a, List.mem_cons_of_mem _ inside, there⟩

def renewed {α β : Type} (check : α → Except Failure β) (old : β) : Option α → Except Failure β
  | some value => check value
  | none => .ok old

theorem renewedOk {α β : Type} {check : α → Except Failure β} {old new : β} {given : Option α}
    (ok : renewed check old given = .ok new) :
    (given = none ∧ new = old) ∨ ∃ value, given = some value ∧ check value = .ok new := by
  cases given with
  | none => exact .inl ⟨rfl, (Except.ok.inj ok).symm⟩
  | some value => exact .inr ⟨value, rfl, ok⟩

theorem requireTextSame {given name : Raw} {field : TextField} (ok : requireText given field = .ok name) :
    name = given := by
  unfold requireText at ok
  split at ok
  · exact (Except.ok.inj ok).symm
  · cases ok

theorem capacityOk {settings : Settings} {given : Raw} {capacity : Int}
    (ok : requireCapacity settings given = .ok capacity) :
    given = .whole capacity ∧ 0 < capacity ∧ settings.admitsCapacity capacity = .ok true := by
  unfold requireCapacity at ok
  split at ok
  · rename_i n
    obtain ⟨positive, ok⟩ := guardOk ok
    obtain ⟨admitted, admits, ok⟩ := bindOk ok
    split at ok
    · rename_i yes
      cases ok
      exact ⟨rfl, by omega, yes ▸ admits⟩
    · cases ok
  · cases ok

namespace Tier

theorem ofSpecOk {settings : Settings} {id : Raw} {spec : TierSpec} {tier : Tier}
    (ok : ofSpec settings id spec = .ok tier) :
    ∃ name price capacity, requireText spec.name .tierName = .ok name ∧
      requireCapacity settings spec.capacity = .ok capacity ∧ requirePrice spec.price = .ok price ∧
      tier = fresh id name price capacity := by
  obtain ⟨name, named, ok⟩ := bindOk ok
  obtain ⟨capacity, places, ok⟩ := bindOk ok
  obtain ⟨price, priced, ok⟩ := bindOk ok
  exact ⟨name, price, capacity, named, places, priced, (Except.ok.inj ok).symm⟩

def renewedCapacity (settings : Settings) (tier : Tier) (value : Raw) : Except Failure Raw := do
  let capacity := Raw.whole (← requireCapacity settings value)
  if ← capacity.isBelow tier.sold then throw (.event .capacityBelowSold)
  return capacity

theorem changeParts (settings : Settings) (changes : TierChanges) (tier : Tier) :
    tier.change settings changes = do
      let name ← renewed (requireText · .tierName) tier.name changes.name
      let price ← renewed requirePrice tier.price changes.price
      let capacity ← renewed (tier.renewedCapacity settings) tier.capacity changes.capacity
      return { tier with name, price, capacity } := by
  obtain ⟨name, price, capacity⟩ := changes
  have last (name : Raw) (price : Money) (value : Raw) :
      (tier.renewedCapacity settings value >>= fun capacity =>
        (return { tier with name, price, capacity } : Except Failure Tier)) =
      (do
        let capacity := Raw.whole (← requireCapacity settings value)
        if ← capacity.isBelow tier.sold then throw (.event .capacityBelowSold)
        return { tier with name, price, capacity }) := by
    unfold renewedCapacity
    simp only [bind_assoc]
    congr 1
    funext n
    congr 1
    funext below
    cases below <;> rfl
  cases name <;> cases price <;> cases capacity <;> simp only [change, renewed, last] <;> rfl

theorem changeOk {settings : Settings} {changes : TierChanges} {tier updated : Tier}
    (ok : tier.change settings changes = .ok updated) :
    updated.id = tier.id ∧ updated.sold = tier.sold ∧
      (updated.capacity = tier.capacity ∨ ∃ capacity : Int, 0 < capacity ∧
        updated.capacity = .whole capacity ∧ (Raw.whole capacity).isBelow tier.sold = .ok false) := by
  rw [changeParts] at ok
  obtain ⟨name, _, ok⟩ := bindOk ok
  obtain ⟨price, _, ok⟩ := bindOk ok
  obtain ⟨capacity, places, ok⟩ := bindOk ok
  cases ok
  refine ⟨rfl, rfl, ?_⟩
  obtain ⟨_, same⟩ | ⟨value, _, checked⟩ := renewedOk places
  · exact .inl same
  · obtain ⟨n, required, checked⟩ := bindOk checked
    obtain ⟨below, compared, checked⟩ := bindOk checked
    obtain ⟨enough, checked⟩ := guardOk checked
    cases checked
    have not : below = false := by simpa using enough
    exact .inr ⟨n, (capacityOk required).2.1, rfl, not ▸ compared⟩

theorem numberedIds (first : Int) (parts : List (Raw × Money × Int)) :
    (numbered first parts).map id = (List.range parts.length).map fun n => .whole (first + n) := by
  induction parts generalizing first with
  | nil => rfl
  | cons part rest ih =>
    obtain ⟨name, price, capacity⟩ := part
    simp only [numbered, List.map_cons, ih, List.length_cons, List.range_succ_eq_map, List.map_map]
    congr 1
    · simp [fresh]
    · apply List.map_congr_left
      intro n _
      simp only [Function.comp, Raw.whole.injEq]
      omega

theorem numberedFresh {first : Int} {parts : List (Raw × Money × Int)} {tier : Tier}
    (mem : tier ∈ numbered first parts) :
    ∃ n part, part ∈ parts ∧ tier = fresh (.whole n) part.1 part.2.1 part.2.2 := by
  induction parts generalizing first with
  | nil => cases mem
  | cons part rest ih =>
    obtain ⟨name, price, capacity⟩ := part
    rcases List.mem_cons.mp mem with rfl | later
    · exact ⟨first, _, List.mem_cons_self, rfl⟩
    · obtain ⟨n, part, inside, same⟩ := ih later
      exact ⟨n, part, List.mem_cons_of_mem _ inside, same⟩

end Tier

namespace Event

structure Drafted (settings : Settings) (now : Option Moment) (organizer : Raw) (id : EventId)
    (name description venue : Raw) (date : Option Moment) (specs : List TierSpec) (event : Event) :
    Prop where
  id : event.id = id
  organizer : event.organizer = organizer
  name : requireText name .name = .ok event.name
  venue : requireText venue .venue = .ok event.venue
  description : event.description = if description.isBlank then .text "" else description
  date : ∃ moment, date = some moment ∧ event.date = some moment ∧
    requireDate settings now moment = .ok ()
  createdAt : event.createdAt = now
  status : event.status = .upcoming
  some : specs ≠ []
  tiers : ∃ names prices capacities,
    List.Forall₂ (fun spec name => requireText spec.name .tierName = .ok name) specs names ∧
    List.Forall₂ (fun spec price => requirePrice spec.price = .ok price) specs prices ∧
    List.Forall₂ (fun spec capacity => requireCapacity settings spec.capacity = .ok capacity) specs
      capacities ∧ event.tiers = Tier.numbered 0 (names.zip (prices.zip capacities))

theorem draftOk {settings : Settings} {now : Option Moment} {organizer : Raw} {id : EventId}
    {name description venue : Raw} {date : Option Moment} {specs : List TierSpec} {event : Event}
    (ok : draft settings now organizer id name description venue date specs = .ok event) :
    Drafted settings now organizer id name description venue date specs event := by
  unfold draft at ok
  obtain ⟨name, named, ok⟩ := bindOk ok
  obtain ⟨venue, placed, ok⟩ := bindOk ok
  obtain ⟨some, ok⟩ := guardOk ok
  obtain ⟨names, tierNames, ok⟩ := bindOk ok
  obtain ⟨moment, given, ok⟩ := bindOk ok
  obtain ⟨_, dated, ok⟩ := bindOk ok
  obtain ⟨capacities, places, ok⟩ := bindOk ok
  obtain ⟨prices, priced, ok⟩ := bindOk ok
  cases ok
  have given : date = .some moment := by
    cases date with
    | none => cases given
    | some date => exact congrArg _ (Except.ok.inj given)
  exact ⟨rfl, rfl, named, placed, rfl, ⟨moment, given, rfl, dated⟩, rfl, rfl, by simpa using some,
    names, prices, capacities, mapMOk tierNames, mapMOk priced, mapMOk places, rfl⟩

theorem Drafted.tier {settings : Settings} {now : Option Moment} {organizer : Raw} {id : EventId}
    {name description venue : Raw} {date : Option Moment} {specs : List TierSpec} {event : Event}
    (drafted : Drafted settings now organizer id name description venue date specs event) :
    (∃ count : Nat, event.tiers.map Tier.id = (List.range count).map fun n => .whole n) ∧
      ∀ tier ∈ event.tiers, ∃ n name price capacity, 0 < capacity ∧
        tier = .fresh (.whole n) name price capacity := by
  obtain ⟨names, prices, capacities, _, _, places, tiers⟩ := drafted.tiers
  rw [tiers]
  refine ⟨⟨_, by simpa using Tier.numberedIds 0 (names.zip (prices.zip capacities))⟩, fun tier mem => ?_⟩
  obtain ⟨n, ⟨name, price, capacity⟩, inside, same⟩ := Tier.numberedFresh mem
  have listed : capacity ∈ capacities := (List.of_mem_zip (List.of_mem_zip inside).2).2
  obtain ⟨spec, _, required⟩ := relatedMem places listed
  exact ⟨n, name, price, capacity, (capacityOk required).2.1, same⟩

def renewedDate (settings : Settings) (now : Option Moment) (date : Moment) :
    Except Failure (Option Moment) := do
  requireDate settings now date
  return some date

theorem changeParts (settings : Settings) (now : Option Moment) (changes : EventChanges)
    (event : Event) :
    event.change settings now changes = do
      let name ← renewed (requireText · .name) event.name changes.name
      let venue ← renewed (requireText · .venue) event.venue changes.venue
      let date ← renewed (renewedDate settings now) event.date changes.date
      let description := changes.description.getD event.description
      return { event with name, description, venue, date } := by
  obtain ⟨name, description, venue, date⟩ := changes
  cases name <;> cases venue <;> cases date <;> simp only [change, renewed, renewedDate, bind_assoc] <;> rfl

theorem changeOk {settings : Settings} {now : Option Moment} {changes : EventChanges}
    {event updated : Event} (ok : event.change settings now changes = .ok updated) :
    ∃ name description venue date, updated = { event with name, description, venue, date } := by
  rw [changeParts] at ok
  obtain ⟨name, _, ok⟩ := bindOk ok
  obtain ⟨venue, _, ok⟩ := bindOk ok
  obtain ⟨date, _, ok⟩ := bindOk ok
  exact ⟨name, _, venue, date, (Except.ok.inj ok).symm⟩

theorem putTierAt {tier old : Tier} {before rest : List Tier}
    (apart : ∀ other ∈ before, other.id.same tier.id = false) (same : old.id.same tier.id = true) :
    putTier tier (before ++ old :: rest) = before ++ tier :: rest := by
  induction before with
  | nil => simp [putTier, same]
  | cons first before ih =>
    obtain ⟨here, apart⟩ := List.forall_mem_cons.mp apart
    simp [putTier, here, ih apart]

theorem putTierEnd {tier : Tier} {tiers : List Tier}
    (apart : ∀ other ∈ tiers, other.id.same tier.id = false) : putTier tier tiers = tiers ++ [tier] := by
  induction tiers with
  | nil => rfl
  | cons first rest ih =>
    obtain ⟨here, apart⟩ := List.forall_mem_cons.mp apart
    simp [putTier, here, ih apart]

theorem putTierPlace (tier : Tier) (tiers : List Tier) :
    (∃ before old rest, tiers = before ++ old :: rest ∧ (∀ other ∈ before, other.id.same tier.id = false) ∧
      old.id.same tier.id = true ∧ putTier tier tiers = before ++ tier :: rest) ∨
    (∀ other ∈ tiers, other.id.same tier.id = false) ∧ putTier tier tiers = tiers ++ [tier] := by
  cases found : tiers.find? (·.id.same tier.id) with
  | none =>
    have apart : ∀ other ∈ tiers, other.id.same tier.id = false := by simpa using found
    exact .inr ⟨apart, putTierEnd apart⟩
  | some old =>
    obtain ⟨same, before, rest, rfl, apart⟩ := List.find?_eq_some_iff_append.mp found
    have apart : ∀ other ∈ before, other.id.same tier.id = false := by simpa using apart
    exact .inl ⟨before, old, rest, rfl, apart, same, putTierAt apart same⟩

theorem memPutTier {tier other : Tier} {tiers : List Tier} (mem : other ∈ putTier tier tiers) :
    other = tier ∨ other ∈ tiers := by
  obtain ⟨before, old, rest, rfl, _, _, put⟩ | ⟨_, put⟩ := putTierPlace tier tiers
  · rw [put, List.mem_append, List.mem_cons] at mem
    rcases mem with mem | rfl | mem
    · exact .inr (List.mem_append_left _ mem)
    · exact .inl rfl
    · exact .inr (List.mem_append_right _ (List.mem_cons_of_mem _ mem))
  · rw [put, List.mem_append, List.mem_singleton] at mem
    exact mem.symm

end Event
end BoxOffice
