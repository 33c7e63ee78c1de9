import BoxOffice.Proofs.Serving

/-! What an organizer amends of an event that has not opened. Each amendment says which fields it sets; so one
after the other they merge, and where they set other fields, or other tiers, their order does not count. -/
namespace BoxOffice

section
variable {α : Type} {first second : Option α} {old : α}

theorem getDApart (apart : first = none ∨ second = none) :
    second.getD (first.getD old) = first.getD (second.getD old) := by
  obtain rfl | rfl := apart <;> rfl

theorem orApart (apart : first = none ∨ second = none) (old : Option α) :
    second.or (first.or old) = first.or (second.or old) := by
  obtain rfl | rfl := apart <;> rfl

theorem getDTwice : first.getD (first.getD old) = first.getD old := by
  cases first <;> rfl

theorem memOr {value : α} (mem : value ∈ second.or first) : value ∈ second ∨ value ∈ first := by
  cases second with
  | none => exact .inr mem
  | some other => exact .inl mem

theorem renewedPlain {check : α → Except Failure α} {new : α} {given : Option α}
    (plain : ∀ {value new}, check value = .ok new → new = value) :
    renewed check old given = .ok new ↔ (∀ value ∈ given, check value = .ok value) ∧ new = given.getD old := by
  cases given with
  | none => simp [renewed, eq_comm]
  | some value =>
    simp only [renewed, Option.mem_def, Option.some.injEq, forall_eq', Option.getD_some]
    constructor
    · intro ok
      obtain rfl := plain ok
      exact ⟨ok, rfl⟩
    · rintro ⟨ok, rfl⟩
      exact ok

theorem renewedText {field : TextField} {old new : Raw} {given : Option Raw} :
    renewed (requireText · field) old given = .ok new ↔
      (∀ value ∈ given, requireText value field = .ok value) ∧ new = given.getD old :=
  renewedPlain requireTextSame

end

namespace EventChanges

def applied (changes : EventChanges) (event : Event) : Event :=
  { event with
    name := changes.name.getD event.name
    description := changes.description.getD event.description
    venue := changes.venue.getD event.venue
    date := changes.date.or event.date }

structure Valid (settings : Settings) (now : Option Moment) (changes : EventChanges) : Prop where
  name : ∀ value ∈ changes.name, requireText value .name = .ok value
  venue : ∀ value ∈ changes.venue, requireText value .venue = .ok value
  date : ∀ date ∈ changes.date, requireDate settings now date = .ok ()

def merge (first second : EventChanges) : EventChanges where
  name := second.name.or first.name
  description := second.description.or first.description
  venue := second.venue.or first.venue
  date := second.date.or first.date

structure Apart (first second : EventChanges) : Prop where
  name : first.name = none ∨ second.name = none
  description : first.description = none ∨ second.description = none
  venue : first.venue = none ∨ second.venue = none
  date : first.date = none ∨ second.date = none

variable {settings : Settings} {now : Option Moment} {changes first second : EventChanges} {event : Event}

theorem validMerge (valid : first.Valid settings now) (valid' : second.Valid settings now) :
    (first.merge second).Valid settings now where
  name value mem := (memOr mem).elim (valid'.name value) (valid.name value)
  venue value mem := (memOr mem).elim (valid'.venue value) (valid.venue value)
  date value mem := (memOr mem).elim (valid'.date value) (valid.date value)

theorem appliedMerge : (first.merge second).applied event = second.applied (first.applied event) := by
  simp only [applied, merge, Option.getD_or, Option.or_assoc]

theorem appliedApart (apart : first.Apart second) :
    second.applied (first.applied event) = first.applied (second.applied event) := by
  simp only [applied, getDApart apart.name, getDApart apart.description, getDApart apart.venue,
    orApart apart.date]

theorem appliedTwice : changes.applied (changes.applied event) = changes.applied event := by
  simp only [applied, getDTwice, ← Option.or_assoc, Option.or_self]

theorem emptyNone (empty : changes.isEmpty = true) : changes = ⟨none, none, none, none⟩ := by
  obtain ⟨name, description, venue, date⟩ := changes
  simp only [isEmpty, Bool.and_eq_true, Option.isNone_iff_eq_none] at empty
  obtain ⟨⟨⟨rfl, rfl⟩, rfl⟩, rfl⟩ := empty
  rfl

theorem appliedEmpty (empty : changes.isEmpty = true) : changes.applied event = event := by
  rw [emptyNone empty]
  rfl

theorem validEmpty (empty : changes.isEmpty = true) : changes.Valid settings now := by
  rw [emptyNone empty]
  exact ⟨nofun, nofun, nofun⟩

end EventChanges

theorem Event.changeIff {settings : Settings} {now : Option Moment} {changes : EventChanges} {event updated : Event} :
    event.change settings now changes = .ok updated ↔
      changes.Valid settings now ∧ updated = changes.applied event := by
  have dates {old new : Option Moment} {given : Option Moment} :
      renewed (renewedDate settings now) old given = .ok new ↔
        (∀ date ∈ given, requireDate settings now date = .ok ()) ∧ new = given.or old := by
    cases given with
    | none => simp [renewed, eq_comm]
    | some date =>
      simp only [renewed, renewedDate, bindOkIff, Option.mem_def, Option.some.injEq, forall_eq', pure, Except.pure,
        Except.ok.injEq]
      constructor
      · rintro ⟨_, ok, rfl⟩
        exact ⟨ok, rfl⟩
      · rintro ⟨ok, rfl⟩
        exact ⟨(), ok, rfl⟩
  simp only [changeParts, bindOkIff, renewedText, dates, pure, Except.pure, Except.ok.injEq]
  constructor
  · rintro ⟨_, ⟨name, rfl⟩, _, ⟨venue, rfl⟩, _, ⟨date, rfl⟩, rfl⟩
    exact ⟨⟨name, venue, date⟩, rfl⟩
  · rintro ⟨⟨name, venue, date⟩, rfl⟩
    exact ⟨_, ⟨name, rfl⟩, _, ⟨venue, rfl⟩, _, ⟨date, rfl⟩, rfl⟩

namespace TierChanges

def applied (changes : TierChanges) (tier : Tier) : Tier :=
  { tier with
    name := changes.name.getD tier.name
    price := (changes.price.bind fun given => (Money.ofRaw given).toOption).getD tier.price
    capacity := changes.capacity.getD tier.capacity }

structure Valid (settings : Settings) (tier : Tier) (changes : TierChanges) : Prop where
  name : ∀ value ∈ changes.name, requireText value .tierName = .ok value
  price : ∀ value ∈ changes.price, ∃ price, Money.ofRaw value = .ok price
  capacity : ∀ value ∈ changes.capacity, tier.renewedCapacity settings value = .ok value

def merge (first second : TierChanges) : TierChanges where
  name := second.name.or first.name
  price := second.price.or first.price
  capacity := second.capacity.or first.capacity

structure Apart (first second : TierChanges) : Prop where
  name : first.name = none ∨ second.name = none
  price : first.price = none ∨ second.price = none
  capacity : first.capacity = none ∨ second.capacity = none

def appliedTo (named : Raw) (changes : TierChanges) (tier : Tier) : Tier :=
  if tier.id.same named then changes.applied tier else tier

variable {settings : Settings} {changes first second : TierChanges} {tier other : Tier} {named given : Raw}

@[simp]
theorem appliedToId : (changes.appliedTo named tier).id = tier.id := by
  unfold appliedTo
  split <;> rfl

@[simp]
theorem appliedToSold : (changes.appliedTo named tier).sold = tier.sold := by
  unfold appliedTo
  split <;> rfl

theorem validSold (same : other.sold = tier.sold) (valid : changes.Valid settings tier) :
    changes.Valid settings other := by
  refine ⟨valid.name, valid.price, fun value mem => ?_⟩
  rw [Tier.renewedCapacity, same]
  exact valid.capacity value mem

theorem validMerge (valid : first.Valid settings tier) (valid' : second.Valid settings tier) :
    (first.merge second).Valid settings tier where
  name value mem := (memOr mem).elim (valid'.name value) (valid.name value)
  price value mem := (memOr mem).elim (valid'.price value) (valid.price value)
  capacity value mem := (memOr mem).elim (valid'.capacity value) (valid.capacity value)

theorem appliedMerge (valid : second.Valid settings tier) :
    (first.merge second).applied tier = second.applied (first.applied tier) := by
  have price : ((second.price.or first.price).bind fun given => (Money.ofRaw given).toOption) =
      (second.price.bind fun given => (Money.ofRaw given).toOption).or
        (first.price.bind fun given => (Money.ofRaw given).toOption) := by
    cases given : second.price with
    | none => simp
    | some value =>
      obtain ⟨price, is⟩ := valid.price value given
      simp [is, Except.toOption]
  simp only [applied, merge, price, Option.getD_or]

theorem appliedApart (apart : first.Apart second) :
    second.applied (first.applied tier) = first.applied (second.applied tier) := by
  have price : (first.price.bind fun given => (Money.ofRaw given).toOption) = none ∨
      (second.price.bind fun given => (Money.ofRaw given).toOption) = none :=
    apart.price.imp (fun none => by rw [none]; rfl) fun none => by rw [none]; rfl
  simp only [applied, getDApart apart.name, getDApart price, getDApart apart.capacity]

theorem appliedTwice : changes.applied (changes.applied tier) = changes.applied tier := by
  simp only [applied, getDTwice]

theorem emptyNone (empty : changes.isEmpty = true) : changes = ⟨none, none, none⟩ := by
  obtain ⟨name, price, capacity⟩ := changes
  simp only [isEmpty, Bool.and_eq_true, Option.isNone_iff_eq_none] at empty
  obtain ⟨⟨rfl, rfl⟩, rfl⟩ := empty
  rfl

theorem appliedEmpty (empty : changes.isEmpty = true) : changes.applied tier = tier := by
  rw [emptyNone empty]
  rfl

theorem validEmpty (empty : changes.isEmpty = true) : changes.Valid settings tier := by
  rw [emptyNone empty]
  exact ⟨nofun, nofun, nofun⟩

theorem appliedHere (hits : tier.id.same named = true) : changes.appliedTo named tier = changes.applied tier :=
  if_pos hits

theorem appliedElsewhere (misses : tier.id.same named = false) : changes.appliedTo named tier = tier :=
  if_neg (Bool.eq_false_iff.mp misses)

theorem appliedToTwice : changes.appliedTo named (changes.appliedTo named tier) = changes.appliedTo named tier := by
  cases hits : tier.id.same named with
  | true =>
    have again : (changes.applied tier).id.same named = true := hits
    rw [appliedHere hits, appliedHere again, appliedTwice]
  | false => rw [appliedElsewhere hits, appliedElsewhere hits]

theorem appliedToApart (apart : tier.id.same named = true → tier.id.same given = true → first.Apart second) :
    second.appliedTo given (first.appliedTo named tier) = first.appliedTo named (second.appliedTo given tier) := by
  cases hits : tier.id.same named with
  | true =>
    cases hits' : tier.id.same given with
    | true =>
      have second' : (first.applied tier).id.same given = true := hits'
      have first' : (second.applied tier).id.same named = true := hits
      rw [appliedHere hits, appliedHere hits', appliedHere second', appliedHere first', appliedApart (apart hits hits')]
    | false =>
      have second' : (first.applied tier).id.same given = false := hits'
      rw [appliedHere hits, appliedElsewhere hits', appliedElsewhere second', appliedHere hits]
  | false =>
    have later : (second.appliedTo given tier).id.same named = false := by rw [appliedToId, hits]
    rw [appliedElsewhere hits, appliedElsewhere later]

theorem appliedToMerge (same : tier.id.same named = tier.id.same given)
    (valid : tier.id.same named = true → second.Valid settings tier) :
    (first.merge second).appliedTo named tier = second.appliedTo given (first.appliedTo named tier) := by
  cases hits : tier.id.same named with
  | true =>
    have again : (first.applied tier).id.same given = true := same ▸ hits
    rw [appliedHere hits, appliedHere hits, appliedHere again, appliedMerge (valid hits)]
  | false => rw [appliedElsewhere hits, appliedElsewhere hits, appliedElsewhere (same ▸ hits)]

end TierChanges

theorem Tier.changeIff {settings : Settings} {changes : TierChanges} {tier updated : Tier} :
    tier.change settings changes = .ok updated ↔
      changes.Valid settings tier ∧ updated = changes.applied tier := by
  have prices {old new : Money} {given : Option Raw} : renewed requirePrice old given = .ok new ↔
      (∀ value ∈ given, ∃ price, Money.ofRaw value = .ok price) ∧
        new = (given.bind fun value => (Money.ofRaw value).toOption).getD old := by
    cases given with
    | none => simp [renewed, eq_comm]
    | some value => cases is : Money.ofRaw value <;> simp [renewed, requirePrice, is, Except.toOption, eq_comm]
  have plain {value new : Raw} (ok : tier.renewedCapacity settings value = .ok new) : new = value := by
    obtain ⟨n, required, ok⟩ := bindOk ok
    obtain ⟨below, _, ok⟩ := bindOk ok
    obtain ⟨_, ok⟩ := guardOk ok
    rw [(capacityOk required).1]
    exact (Except.ok.inj ok).symm
  simp only [changeParts, bindOkIff, renewedText, prices, renewedPlain plain, pure, Except.pure, Except.ok.injEq]
  constructor
  · rintro ⟨_, ⟨name, rfl⟩, _, ⟨price, rfl⟩, _, ⟨capacity, rfl⟩, rfl⟩
    exact ⟨⟨name, price, capacity⟩, rfl⟩
  · rintro ⟨⟨name, price, capacity⟩, rfl⟩
    exact ⟨_, ⟨name, rfl⟩, _, ⟨price, rfl⟩, _, ⟨capacity, rfl⟩, rfl⟩

inductive Amendment
  | details (changes : EventChanges)
  | tier (named : Raw) (changes : TierChanges)

def Amendment.request (organizer : Raw) (id : EventId) : Amendment → Operation
  | details changes => .updateEventDetails organizer (.text id.text) changes
  | tier named changes => .updateTier organizer (.text id.text) named changes

def Amendment.isEmpty : Amendment → Bool
  | details changes => changes.isEmpty
  | tier _ changes => changes.isEmpty

namespace Event
variable {event : Event} {named other : Raw} {tier old : Tier} {settings : Settings} {now : Option Moment}

def amended (event : Event) : Amendment → Event
  | .details changes => changes.applied event
  | .tier named changes =>
    { event with tiers := event.tiers.map (changes.appliedTo named) }

def Admits (settings : Settings) (now : Option Moment) (event : Event) : Amendment → Prop
  | .details changes => changes.Valid settings now
  | .tier named changes => ∃ tier, event.tier? named = some tier ∧ changes.Valid settings tier

theorem namesOne (counted : event.Counted) (found : event.tier? named = some tier) (mem : old ∈ event.tiers) :
    old.id.same named = true ↔ old = tier := by
  obtain ⟨there, hits⟩ := tierMem found
  refine ⟨fun same => ?_, fun is => is ▸ hits⟩
  obtain ⟨n, _, _, own⟩ := counted.tiers tier there
  obtain ⟨m, _, _, counts⟩ := counted.tiers old mem
  rw [own.id, Raw.sameWhole] at hits
  rw [counts.id, Raw.sameWhole, hits] at same
  exact List.inj_on_of_nodup_map counted.once mem there (counts.id.trans (same.symm.trans own.id.symm))

theorem withTierApplied (counted : event.Counted) (found : event.tier? named = some tier) (changes : TierChanges) :
    event.withTier (changes.applied tier) = event.amended (.tier named changes) := by
  obtain ⟨there, _⟩ := tierMem found
  obtain ⟨n, _, _, own⟩ := counted.tiers tier there
  have whole : ∀ other ∈ event.tiers, ∃ m : Int, other.id = .whole m := fun other mem => by
    obtain ⟨m, _, _, counts⟩ := counted.tiers other mem
    exact ⟨m, counts.id⟩
  have known : (changes.applied tier).id ∈ event.tiers.map Tier.id := List.mem_map.mpr ⟨tier, there, rfl⟩
  have id : (changes.applied tier).id = .whole n := own.id
  rw [withTier, putTierOnce id whole counted.once known, amended]
  refine congrArg (fun tiers => { event with tiers }) (List.map_congr_left fun old mem => ?_)
  have one : old.id = (changes.applied tier).id ↔ old = tier :=
    ⟨fun same => List.inj_on_of_nodup_map counted.once mem there same, fun is => is ▸ rfl⟩
  have named := namesOne counted found mem
  rw [TierChanges.appliedTo]
  by_cases is : old = tier
  · rw [if_pos (one.mpr is), if_pos (named.mpr is), is]
  · rw [if_neg (mt one.mp is), if_neg (mt named.mp is)]

theorem tierAmended (event : Event) (first : Amendment) (named : Raw) : ∃ f : Tier → Tier,
    (∀ tier, (f tier).sold = tier.sold) ∧ (event.amended first).tier? named = (event.tier? named).map f := by
  cases first with
  | details changes => exact ⟨fun tier => tier, fun _ => rfl, Option.map_id'.symm⟩
  | tier other changes =>
    refine ⟨changes.appliedTo other, fun _ => TierChanges.appliedToSold, ?_⟩
    rw [tier?, amended, List.find?_map]
    refine congrArg (Option.map _) (congrArg (List.find? · event.tiers) (funext fun tier => ?_))
    rw [Function.comp_apply, TierChanges.appliedToId]

theorem admitsAmended {first second : Amendment} :
    (event.amended first).Admits settings now second ↔ event.Admits settings now second := by
  cases second with
  | details changes => exact Iff.rfl
  | tier named changes =>
    obtain ⟨f, sold, found⟩ := tierAmended event first named
    rw [Admits, Admits, found]
    constructor
    · rintro ⟨_, is, valid⟩
      obtain ⟨tier, there, rfl⟩ := Option.map_eq_some_iff.mp is
      exact ⟨tier, there, TierChanges.validSold (sold tier).symm valid⟩
    · rintro ⟨tier, there, valid⟩
      exact ⟨f tier, by rw [there, Option.map_some], TierChanges.validSold (sold tier) valid⟩

theorem amendedTwice (amendment : Amendment) : (event.amended amendment).amended amendment = event.amended amendment := by
  cases amendment with
  | details changes => exact EventChanges.appliedTwice
  | tier named changes =>
    simp only [amended, List.map_map]
    refine congrArg (fun tiers => { event with tiers }) (List.map_congr_left fun tier _ => ?_)
    exact TierChanges.appliedToTwice

inductive Merges (event : Event) : Amendment → Amendment → Amendment → Prop
  | details (first second : EventChanges) :
      Merges event (.details first) (.details second) (.details (first.merge second))
  | tier {named other : Raw} (one : event.tier? named = event.tier? other) (first second : TierChanges) :
      Merges event (.tier named first) (.tier other second) (.tier named (first.merge second))

inductive Apart (event : Event) : Amendment → Amendment → Prop
  | details {first second : EventChanges} (apart : first.Apart second) :
      Apart event (.details first) (.details second)
  | fields {named other : Raw} {first second : TierChanges} (apart : first.Apart second) :
      Apart event (.tier named first) (.tier other second)
  | tiers {named other : Raw} {first second : TierChanges} (different : event.tier? named ≠ event.tier? other) :
      Apart event (.tier named first) (.tier other second)
  | detailsTier {named : Raw} {first : EventChanges} {second : TierChanges} :
      Apart event (.details first) (.tier named second)
  | tierDetails {named : Raw} {first : TierChanges} {second : EventChanges} :
      Apart event (.tier named first) (.details second)

variable {first second merged : Amendment}

theorem admitsMerged (merges : event.Merges first second merged) (admits : event.Admits settings now first)
    (admits' : event.Admits settings now second) : event.Admits settings now merged := by
  cases merges with
  | details first second => exact EventChanges.validMerge admits admits'
  | tier one first second =>
    obtain ⟨tier, found, valid⟩ := admits
    obtain ⟨_, found', valid'⟩ := admits'
    cases found.symm.trans (one.trans found')
    exact ⟨tier, found, TierChanges.validMerge valid valid'⟩

theorem amendedMerged (counted : event.Counted) (merges : event.Merges first second merged)
    (admits : event.Admits settings now first) (admits' : event.Admits settings now second) :
    event.amended merged = (event.amended first).amended second := by
  cases merges with
  | details first second => exact EventChanges.appliedMerge
  | tier one first second =>
    obtain ⟨tier, found, _⟩ := admits
    obtain ⟨_, found', valid⟩ := admits'
    cases found.symm.trans (one.trans found')
    simp only [amended, List.map_map]
    refine congrArg (fun tiers => { event with tiers }) (List.map_congr_left fun old mem => ?_)
    have here := namesOne counted found mem
    have same := Bool.eq_iff_iff.mpr (here.trans (namesOne counted found' mem).symm)
    exact TierChanges.appliedToMerge same fun hits => here.mp hits ▸ valid

theorem amendedApart (counted : event.Counted) (apart : event.Apart first second)
    (admits : event.Admits settings now first) (admits' : event.Admits settings now second) :
    (event.amended second).amended first = (event.amended first).amended second := by
  cases apart with
  | details apart => exact (EventChanges.appliedApart apart).symm
  | fields apart =>
    simp only [amended, List.map_map]
    refine congrArg (fun tiers => { event with tiers }) (List.map_congr_left fun old _ => ?_)
    exact (TierChanges.appliedToApart fun _ _ => apart).symm
  | tiers different =>
    obtain ⟨tier, found, _⟩ := admits
    obtain ⟨tier', found', _⟩ := admits'
    rw [found, found', ne_eq, Option.some.injEq] at different
    simp only [amended, List.map_map]
    refine congrArg (fun tiers => { event with tiers }) (List.map_congr_left fun old mem => ?_)
    refine (TierChanges.appliedToApart fun hits hits' => absurd ?_ different).symm
    exact ((namesOne counted found mem).mp hits).symm.trans ((namesOne counted found' mem).mp hits')
  | detailsTier => rfl
  | tierDetails => rfl

end Event

structure TierChanges.Leaves (changes : TierChanges) (old new : Tier) : Prop where
  id : new.id = old.id
  sold : new.sold = old.sold
  name : changes.name = none → new.name = old.name
  price : changes.price = none → new.price = old.price
  capacity : changes.capacity = none → new.capacity = old.capacity

structure EventChanges.Leaves (changes : EventChanges) (old new : Event) : Prop where
  name : changes.name = none → new.name = old.name
  description : changes.description = none → new.description = old.description
  venue : changes.venue = none → new.venue = old.venue
  date : changes.date = none → new.date = old.date
  rest : { new with name := old.name, description := old.description, venue := old.venue, date := old.date } = old

def Event.Leaves (old new : Event) : Amendment → Prop
  | .details changes => changes.Leaves old new
  | .tier named changes => { new with tiers := old.tiers } = old ∧
      List.Forall₂ (fun tier later => if tier.id.same named then changes.Leaves tier later else later = tier)
        old.tiers new.tiers

theorem Event.amendedLeaves (event : Event) (amendment : Amendment) :
    event.Leaves (event.amended amendment) amendment := by
  cases amendment with
  | details changes =>
    exact {
      name := fun none => by simp [amended, EventChanges.applied, none]
      description := fun none => by simp [amended, EventChanges.applied, none]
      venue := fun none => by simp [amended, EventChanges.applied, none]
      date := fun none => by simp [amended, EventChanges.applied, none]
      rest := rfl }
  | tier named changes =>
    refine ⟨rfl, List.forall₂_map_right_iff.mpr (List.forall₂_same.mpr fun tier _ => ?_)⟩
    split <;> rename_i hits
    · rw [TierChanges.appliedHere hits]
      exact {
        id := rfl
        sold := rfl
        name := fun none => by simp [TierChanges.applied, none]
        price := fun none => by simp [TierChanges.applied, none]
        capacity := fun none => by simp [TierChanges.applied, none] }
    · exact TierChanges.appliedElsewhere (Bool.eq_false_iff.mpr hits)

theorem Event.amendedEmpty (event : Event) {amendment : Amendment} (empty : amendment.isEmpty = true) :
    event.amended amendment = event := by
  cases amendment with
  | details changes => exact EventChanges.appliedEmpty empty
  | tier named changes =>
    have kept : event.tiers.map (changes.appliedTo named) = event.tiers := by
      refine (List.map_congr_left fun tier _ => ?_).trans (List.map_id event.tiers)
      rw [TierChanges.appliedTo, TierChanges.appliedEmpty empty, ite_self]
      rfl
    rw [amended, kept]

end BoxOffice
