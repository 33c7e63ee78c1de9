import BoxOffice.Proofs.Interchange.Fits

/-! New events, tier by tier. A draft checks the names of all tiers, then all capacities and then all prices, and
numbers what it has put together; it comes to the same as making the tiers one after the other. -/
namespace BoxOffice

theorem consOk {α β : Type} {check : α → Except Failure β} {item : α} {items : List α} {made : List β} :
    (item :: items).mapM check = .ok made ↔
      ∃ first others, check item = .ok first ∧ items.mapM check = .ok others ∧ made = first :: others := by
  simp only [List.mapM_cons, bindOkIff, pure, Except.pure, Except.ok.injEq]
  constructor
  · rintro ⟨first, here, others, later, rfl⟩
    exact ⟨first, others, here, later, rfl⟩
  · rintro ⟨first, others, here, later, rfl⟩
    exact ⟨first, here, others, later, rfl⟩

namespace Tier
variable {settings : Settings} {first : Int} {specs more : List TierSpec} {spec : TierSpec}
  {tiers : List Tier} {tier : Tier}

def ofSpecs (settings : Settings) : Int → List TierSpec → Except Failure (List Tier)
  | _, [] => .ok []
  | first, spec :: rest => do
    let tier ← ofSpec settings (.whole first) spec
    let others ← ofSpecs settings (first + 1) rest
    return tier :: others

theorem ofSpecsCons : ofSpecs settings first (spec :: specs) = .ok tiers ↔
    ∃ tier others, ofSpec settings (.whole first) spec = .ok tier ∧
      ofSpecs settings (first + 1) specs = .ok others ∧ tiers = tier :: others := by
  simp only [ofSpecs, bindOkIff, pure, Except.pure, Except.ok.injEq]
  constructor
  · rintro ⟨tier, here, others, later, rfl⟩
    exact ⟨tier, others, here, later, rfl⟩
  · rintro ⟨tier, others, here, later, rfl⟩
    exact ⟨tier, here, others, later, rfl⟩

theorem ofSpecIff {id : Raw} : ofSpec settings id spec = .ok tier ↔
    ∃ name capacity price, requireText spec.name .tierName = .ok name ∧
      requireCapacity settings spec.capacity = .ok capacity ∧ requirePrice spec.price = .ok price ∧
      tier = fresh id name price capacity := by
  simp only [ofSpec, bindOkIff, pure, Except.pure, Except.ok.injEq]
  constructor
  · rintro ⟨name, named, capacity, places, price, priced, rfl⟩
    exact ⟨name, capacity, price, named, places, priced, rfl⟩
  · rintro ⟨name, capacity, price, named, places, priced, rfl⟩
    exact ⟨name, named, capacity, places, price, priced, rfl⟩

theorem ofSpecsIds (made : ofSpecs settings first specs = .ok tiers) :
    tiers.map Tier.id = (List.range specs.length).map fun n : Nat => .whole (first + n) := by
  induction specs generalizing first tiers with
  | nil =>
    cases made
    rfl
  | cons spec specs ih =>
    obtain ⟨tier, others, here, later, rfl⟩ := ofSpecsCons.mp made
    obtain ⟨name, capacity, price, _, _, _, rfl⟩ := ofSpecIff.mp here
    rw [List.map_cons, ih later, List.length_cons, List.range_succ_eq_map, List.map_cons, List.map_map]
    congr 1
    · simp [fresh]
    · refine List.map_congr_left fun n _ => congrArg Raw.whole ?_
      rw [Nat.cast_succ]
      omega

theorem ofSpecsAt (made : ofSpecs settings first specs = .ok tiers) {i : Nat} (there : specs[i]? = some spec) :
    ∃ tier, tiers[i]? = some tier ∧ ofSpec settings (.whole (first + i)) spec = .ok tier := by
  induction specs generalizing first tiers i with
  | nil => simp at there
  | cons head rest ih =>
    obtain ⟨tier, others, here, later, rfl⟩ := ofSpecsCons.mp made
    cases i with
    | zero =>
      obtain rfl : head = spec := by simpa using there
      exact ⟨tier, rfl, by simpa using here⟩
    | succ i =>
      obtain ⟨tier', listed, made⟩ := ih later (by simpa using there)
      have place : first + 1 + i = first + (i + 1 : Nat) := by omega
      exact ⟨tier', by simpa using listed, place ▸ made⟩

theorem ofSpecsAppend : ofSpecs settings first (specs ++ more) = .ok tiers ↔
    ∃ before after, ofSpecs settings first specs = .ok before ∧
      ofSpecs settings (first + specs.length) more = .ok after ∧ tiers = before ++ after := by
  induction specs generalizing first tiers with
  | nil => simp [ofSpecs]
  | cons spec specs ih =>
    have next : first + (spec :: specs).length = first + 1 + specs.length := by
      rw [List.length_cons, Nat.cast_succ]
      omega
    rw [List.cons_append, ofSpecsCons, next]
    constructor
    · rintro ⟨tier, others, here, later, rfl⟩
      obtain ⟨before, after, early, late, rfl⟩ := ih.mp later
      exact ⟨tier :: before, after, ofSpecsCons.mpr ⟨tier, before, here, early, rfl⟩, late, rfl⟩
    · rintro ⟨_, after, early, late, rfl⟩
      obtain ⟨tier, before, here, others, rfl⟩ := ofSpecsCons.mp early
      exact ⟨tier, before ++ after, here, ih.mpr ⟨before, after, others, late, rfl⟩, rfl⟩

theorem ofSpecsPasses : ofSpecs settings first specs = .ok tiers ↔
    ∃ names capacities prices, (specs.mapM fun spec => requireText spec.name .tierName) = .ok names ∧
      (specs.mapM fun spec => requireCapacity settings spec.capacity) = .ok capacities ∧
      (specs.mapM fun spec => requirePrice spec.price) = .ok prices ∧
      tiers = numbered first (names.zip (prices.zip capacities)) := by
  -- By induction on the tiers, since what the three checks let through is put together by position.
  induction specs generalizing first tiers with
  | nil =>
    refine ⟨fun made => ?_, fun made => ?_⟩
    · cases made
      exact ⟨[], [], [], rfl, rfl, rfl, rfl⟩
    · obtain ⟨_, _, _, named, places, priced, rfl⟩ := made
      cases named
      rfl
  | cons spec specs ih =>
    simp only [ofSpecsCons, consOk, ofSpecIff]
    constructor
    · rintro ⟨_, others, ⟨name, capacity, price, named, places, priced, rfl⟩, later, rfl⟩
      obtain ⟨names, capacities, prices, allNamed, allPlaces, allPriced, rfl⟩ := ih.mp later
      exact ⟨name :: names, capacity :: capacities, price :: prices, ⟨name, names, named, allNamed, rfl⟩,
        ⟨capacity, capacities, places, allPlaces, rfl⟩, ⟨price, prices, priced, allPriced, rfl⟩, rfl⟩
    · rintro ⟨_, _, _, ⟨name, names, named, allNamed, rfl⟩, ⟨capacity, capacities, places, allPlaces, rfl⟩,
        ⟨price, prices, priced, allPriced, rfl⟩, rfl⟩
      exact ⟨_, _, ⟨name, capacity, price, named, places, priced, rfl⟩,
        ih.mpr ⟨names, capacities, prices, allNamed, allPlaces, allPriced, rfl⟩, rfl⟩

end Tier

namespace Event
variable {settings : Settings} {now : Option Moment} {organizer : Raw} {id : EventId}
  {name description venue : Raw} {date : Option Moment} {specs more : List TierSpec} {event : Event}

def untiered (settings : Settings) (now : Option Moment) (organizer : Raw) (id : EventId)
    (name description venue : Raw) (date : Option Moment) : Except Failure Event := do
  let name ← requireText name .name
  let venue ← requireText venue .venue
  let date ← requireGiven date
  requireDate settings now date
  let description := if description.isBlank then .text "" else description
  return ⟨id, organizer, name, description, venue, some date, now, .initial, []⟩

theorem draftTiered : draft settings now organizer id name description venue date specs = .ok event ↔
    specs ≠ [] ∧ ∃ bare tiers, untiered settings now organizer id name description venue date = .ok bare ∧
      Tier.ofSpecs settings 0 specs = .ok tiers ∧ event = { bare with tiers } := by
  have listed : specs.isEmpty = true ↔ specs = [] := List.isEmpty_iff
  simp only [draft, untiered, bindOkIff, Tier.ofSpecsPasses, pure, Except.pure, Except.ok.injEq]
  constructor
  · rintro ⟨name, named, venue, placed, ok⟩
    obtain ⟨some, ok⟩ := guardOk ok
    simp only [bindOkIff] at ok
    obtain ⟨names, tierNames, date, given, _, dated, capacities, places, prices, priced, same⟩ := ok
    cases same
    exact ⟨mt listed.mpr some, _, _, ⟨name, named, venue, placed, date, given, (), dated, rfl⟩,
      ⟨names, capacities, prices, tierNames, places, priced, rfl⟩, rfl⟩
  · rintro ⟨some, _, _, ⟨name, named, venue, placed, date, given, _, dated, rfl⟩,
      ⟨names, capacities, prices, tierNames, places, priced, rfl⟩, rfl⟩
    refine ⟨name, named, venue, placed, ?_⟩
    rw [if_neg (mt listed.mp some)]
    simp only [bindOkIff]
    exact ⟨names, tierNames, date, given, (), dated, capacities, places, prices, priced, rfl⟩

theorem draftMore (some : specs ≠ []) :
    draft settings now organizer id name description venue date (specs ++ more) = .ok event ↔
      ∃ begun others, draft settings now organizer id name description venue date specs = .ok begun ∧
        Tier.ofSpecs settings specs.length more = .ok others ∧
        event = { begun with tiers := begun.tiers ++ others } := by
  simp only [draftTiered, Tier.ofSpecsAppend, Int.zero_add]
  constructor
  · rintro ⟨_, bare, _, checked, ⟨tiers, others, made, later, rfl⟩, rfl⟩
    exact ⟨_, others, ⟨some, bare, tiers, checked, made, rfl⟩, later, rfl⟩
  · rintro ⟨_, others, ⟨_, bare, tiers, checked, made, rfl⟩, later, rfl⟩
    exact ⟨List.append_ne_nil_of_left_ne_nil some more, bare, _, checked, ⟨tiers, others, made, later, rfl⟩, rfl⟩

theorem draftNumbered
    (drafted : draft settings now organizer id name description venue date specs = .ok event) :
    event.tiers.length = specs.length ∧
      event.tiers.map Tier.id = (List.range event.tiers.length).map fun n : Nat => .whole n := by
  obtain ⟨_, bare, tiers, _, made, rfl⟩ := draftTiered.mp drafted
  have ids := Tier.ofSpecsIds made
  have length : tiers.length = specs.length := by simpa using congrArg List.length ids
  refine ⟨length, ?_⟩
  simpa [length] using ids

end Event
end BoxOffice
