import BoxOffice.Proofs.Desk.Runs
import BoxOffice.Proofs.Store.Table

/-! The inventory of places. The places sold of a tier, the stored registrations and the list of attendees
are three records of one thing; they agree in every store that requests reach. -/
namespace BoxOffice

namespace Event

variable {tier other : Tier} {tiers : List Tier} {n : Int}

theorem putTierWhole (id : tier.id = .whole n) (whole : ∀ other ∈ tiers, ∃ m : Int, other.id = .whole m) :
    (∃ before old rest, tiers = before ++ old :: rest ∧ old.id = tier.id ∧
      putTier tier tiers = before ++ tier :: rest) ∨
    tier.id ∉ tiers.map Tier.id ∧ putTier tier tiers = tiers ++ [tier] := by
  obtain ⟨before, old, rest, rfl, _, same, put⟩ | ⟨apart, put⟩ := putTierPlace tier tiers
  · obtain ⟨m, is⟩ := whole old (by simp)
    exact .inl ⟨before, old, rest, rfl, (Raw.sameWholes is id).mp same, put⟩
  · refine .inr ⟨fun known => ?_, put⟩
    obtain ⟨other, mem, same⟩ := List.mem_map.mp known
    obtain ⟨m, is⟩ := whole other mem
    exact absurd ((Raw.sameWholes is id).mpr same) (by simp [apart other mem])

theorem putTierOld (id : tier.id = .whole n) (whole : ∀ other ∈ tiers, ∃ m : Int, other.id = .whole m)
    (known : tier.id ∈ tiers.map Tier.id) : (putTier tier tiers).map Tier.id = tiers.map Tier.id := by
  obtain ⟨before, old, rest, rfl, same, put⟩ | ⟨free, _⟩ := putTierWhole id whole
  · simp [put, same]
  · exact absurd known free

theorem putTierNew (id : tier.id = .whole n) (whole : ∀ other ∈ tiers, ∃ m : Int, other.id = .whole m)
    (free : tier.id ∉ tiers.map Tier.id) : putTier tier tiers = tiers ++ [tier] := by
  obtain ⟨before, old, rest, rfl, same, _⟩ | ⟨_, put⟩ := putTierWhole id whole
  · exact absurd (by simp [same]) free
  · exact put

theorem apartOfOnce {before rest : List Tier} {old : Tier} (once : ((before ++ old :: rest).map Tier.id).Nodup) :
    ∀ other ∈ before ++ rest, other.id ≠ old.id := by
  rw [List.map_append, List.map_cons, List.nodup_middle, ← List.map_append] at once
  exact fun other mem same => (List.nodup_cons.mp once).1 (same ▸ List.mem_map_of_mem mem)

theorem putTierPerm (id : tier.id = .whole n) (whole : ∀ other ∈ tiers, ∃ m : Int, other.id = .whole m)
    (once : (tiers.map Tier.id).Nodup) :
    (putTier tier tiers).Perm (tier :: tiers.filter fun other => other.id ≠ tier.id) := by
  obtain ⟨before, old, rest, rfl, same, put⟩ | ⟨free, put⟩ := putTierWhole id whole
  · have others : (before ++ old :: rest).filter (fun other => other.id ≠ tier.id) = before ++ rest := by
      rw [List.filter_append, List.filter_cons_of_neg (by simpa using same), ← List.filter_append]
      exact List.filter_eq_self.mpr fun other mem => decide_eq_true (same ▸ apartOfOnce once other mem)
    rw [put, others]
    exact List.perm_middle
  · have others : tiers.filter (fun other => other.id ≠ tier.id) = tiers :=
      List.filter_eq_self.mpr fun other mem =>
        decide_eq_true fun same => free (List.mem_map.mpr ⟨other, mem, same⟩)
    rw [put, others]
    exact List.perm_append_singleton tier tiers

theorem memPutTierOnce (id : tier.id = .whole n) (whole : ∀ other ∈ tiers, ∃ m : Int, other.id = .whole m)
    (once : (tiers.map Tier.id).Nodup) (mem : other ∈ putTier tier tiers) :
    other = tier ∨ (other ∈ tiers ∧ other.id ≠ tier.id) := by
  rw [(putTierPerm id whole once).mem_iff, List.mem_cons, List.mem_filter, decide_eq_true_iff] at mem
  exact mem

theorem wholeIds
    (ids : tiers.map Tier.id = (List.range tiers.length).map fun n : Nat => .whole n) :
    (∀ tier ∈ tiers, ∃ m : Int, tier.id = .whole m) ∧ (tiers.map Tier.id).Nodup := by
  constructor
  · intro tier mem
    have listed := List.mem_map_of_mem (f := Tier.id) mem
    rw [ids] at listed
    obtain ⟨n, _, is⟩ := List.mem_map.mp listed
    exact ⟨n, is.symm⟩
  · rw [ids]
    exact List.nodup_range.map fun m n same => Int.ofNat_inj.mp (Raw.whole.inj same)

end Event

namespace View

def registrationsOf (v : View) (id : EventId) : List Registration :=
  v.registrations.values.filter fun r => r.event == id

def soldOf (v : View) (id : EventId) (tier : Raw) : Nat :=
  (v.registrationsOf id).countP fun r => tier.same r.tier

def Stocked (v : View) (id : EventId) (tier : Tier) : Prop :=
  ∃ capacity : Int, tier.capacity = .whole capacity ∧ tier.sold = .whole (v.soldOf id tier.id) ∧
    v.soldOf id tier.id ≤ capacity

structure Stocks (v : View) (event : Event) : Prop where
  ids : (event.tiers.map Tier.id).Nodup
  stocked : ∀ tier ∈ event.tiers, v.Stocked event.id tier

structure Inventory (v : View) : Prop where
  stocks : ∀ {id event}, v.events.get? id = some event → v.Stocks event
  keyed : ∀ {key r}, (key, r) ∈ v.registrations.entries →
    key.1 = r.event ∧ Label.ofRaw? r.attendee = some key.2
  once : (v.registrations.entries.map Prod.fst).Nodup
  placed : ∀ r ∈ v.registrations.values, ∃ event, v.events.get? r.event = some event ∧
    ∃ tier ∈ event.tiers, tier.id.same r.tier = true
  listed : ∀ id, v.attendees id = (v.registrationsOf id).map Registration.attendee

variable {v w : View}

theorem emptyInventory : Tables.empty.view.Inventory where
  stocks := nofun
  keyed := nofun
  once := List.nodup_nil
  placed := nofun
  listed _ := rfl

theorem stocksElsewhere {event : Event} (same : w.registrations = v.registrations) (stocks : v.Stocks event) :
    w.Stocks event := by
  refine ⟨stocks.ids, fun tier mem => ?_⟩
  have := stocks.stocked tier mem
  rw [Stocked, soldOf, registrationsOf, ← same] at this
  exact this

theorem inventoryElsewhere (inventory : v.Inventory) (events : w.events = v.events)
    (registrations : w.registrations = v.registrations) (attendees : w.attendees = v.attendees) :
    w.Inventory where
  stocks stored := stocksElsewhere registrations (inventory.stocks (events ▸ stored))
  keyed mem := inventory.keyed (registrations ▸ mem)
  once := registrations ▸ inventory.once
  placed r mem := by
    rw [registrations] at mem
    rw [events]
    exact inventory.placed r mem
  listed id := by
    rw [attendees, registrationsOf, registrations]
    exact inventory.listed id

theorem inventoryEvent (inventory : v.Inventory) {event : Event} (stocks : v.Stocks event)
    (all : ∀ old, v.events.get? event.id = some old →
      ∀ tier ∈ old.tiers, ∃ other ∈ event.tiers, other.id = tier.id) :
    (v.edit (.event event)).Inventory where
  stocks {id found} stored := by
    have sold : (v.edit (.event event)).registrations = v.registrations := rfl
    by_cases same : id = event.id
    · subst same
      simp only [edit, Table.getPutSame, Option.some.injEq] at stored
      exact stored ▸ stocksElsewhere sold stocks
    · simp only [edit, Table.getPutOther _ same] at stored
      exact stocksElsewhere sold (inventory.stocks stored)
  keyed := inventory.keyed
  once := inventory.once
  placed r mem := by
    obtain ⟨old, stored, tier, listed, named⟩ := inventory.placed r mem
    by_cases same : r.event = event.id
    · rw [same] at stored ⊢
      obtain ⟨other, there, id⟩ := all old stored tier listed
      exact ⟨event, Table.getPutSame _ _ _, other, there, id ▸ named⟩
    · refine ⟨old, ?_, tier, listed, named⟩
      simp only [edit, Table.getPutOther _ same]
      exact stored
  listed := inventory.listed

theorem stocksPut {event : Event} {tier : Tier} {n : Int} (whole : ∀ other ∈ event.tiers, other.Regular)
    (ids : (event.tiers.map Tier.id).Nodup) (id : tier.id = .whole n)
    (known : tier.id ∈ event.tiers.map Tier.id) (own : v.Stocked event.id tier)
    (others : ∀ other ∈ event.tiers, other.id ≠ tier.id → v.Stocked event.id other) :
    v.Stocks (event.withTier tier) := by
  have numbered : ∀ other ∈ event.tiers, ∃ m : Int, other.id = .whole m := fun other mem => (whole other mem).id
  refine ⟨?_, fun other mem => ?_⟩
  · rw [Event.withTier, Event.putTierOld id numbered known]
    exact ids
  · obtain rfl | ⟨there, apart⟩ := Event.memPutTierOnce id numbered ids mem
    · exact own
    · exact others other there apart

theorem inventoryChanged (inventory : v.Inventory) {event : Event} {tier : Tier} {n : Int}
    (whole : ∀ other ∈ event.tiers, other.Regular) (stored : v.events.get? event.id = some event)
    (id : tier.id = .whole n) (known : tier.id ∈ event.tiers.map Tier.id)
    (own : v.Stocked event.id tier) : (v.edit (.event (event.withTier tier))).Inventory := by
  obtain ⟨ids, stocked⟩ := inventory.stocks stored
  refine inventoryEvent inventory (stocksPut whole ids id known own fun other mem _ => stocked other mem) ?_
  intro old there other mem
  rw [show (event.withTier tier).id = event.id from rfl, stored] at there
  cases there
  have kept := Event.putTierOld id (fun other mem => (whole other mem).id) known
  have listed : other.id ∈ (Event.putTier tier event.tiers).map Tier.id :=
    kept ▸ List.mem_map_of_mem mem
  exact List.mem_map.mp listed

theorem inventoryAdded (inventory : v.Inventory) {event : Event} {tier : Tier} {n : Int}
    (whole : ∀ other ∈ event.tiers, other.Regular) (stored : v.events.get? event.id = some event)
    (id : tier.id = .whole n) (free : ∀ other ∈ event.tiers, other.id ≠ .whole n)
    (own : v.Stocked event.id tier) : (v.edit (.event (event.withTier tier))).Inventory := by
  obtain ⟨ids, stocked⟩ := inventory.stocks stored
  have absent : tier.id ∉ event.tiers.map Tier.id := fun mem => by
    obtain ⟨other, there, same⟩ := List.mem_map.mp mem
    exact free other there (same.trans id)
  have added : Event.putTier tier event.tiers = event.tiers ++ [tier] :=
    Event.putTierNew id (fun other mem => (whole other mem).id) absent
  refine inventoryEvent inventory ⟨?_, fun other mem => ?_⟩ fun old there other mem => ?_
  · rw [Event.withTier, added, List.map_append]
    exact List.Nodup.append ids (List.nodup_singleton _) (by simpa using absent)
  · rw [Event.withTier, added] at mem
    rcases List.mem_append.mp mem with old | new
    · exact stocked other old
    · exact List.mem_singleton.mp new ▸ own
  · rw [show (event.withTier tier).id = event.id from rfl, stored] at there
    cases there
    have listed : other ∈ Event.putTier tier event.tiers := added ▸ List.mem_append_left _ mem
    exact ⟨other, listed, rfl⟩

theorem unplaced (inventory : v.Inventory) {id : EventId} (free : v.events.get? id = none) :
    v.registrationsOf id = [] := by
  refine List.filter_eq_nil_iff.mpr fun r mem same => ?_
  obtain ⟨event, stored, _⟩ := inventory.placed r mem
  rw [beq_iff_eq.mp same, free] at stored
  cases stored

theorem unsold (inventory : v.Inventory) (regular : v.Regular) {event : Event}
    (stored : v.events.get? event.id = some event) {n : Int}
    (free : ∀ tier ∈ event.tiers, tier.id ≠ .whole n) : v.soldOf event.id (.whole n) = 0 := by
  refine List.countP_eq_zero.mpr fun r mem same => ?_
  obtain ⟨listed, here⟩ := List.mem_filter.mp mem
  obtain ⟨found, there, tier, inside, named⟩ := inventory.placed r listed
  rw [beq_iff_eq.mp here, stored] at there
  cases there
  obtain ⟨m, id⟩ := (regular.tiers stored tier inside).id
  rw [id] at named
  have key := (Raw.sameWhole.mp named).symm.trans (Raw.sameWhole.mp same)
  exact free tier inside (id.trans key)

theorem registrationsNew {r : Registration} {label : Label}
    (free : v.registrations.get? (r.event, label) = none) (id : EventId) :
    (v.edit (.registration label r)).registrationsOf id =
      v.registrationsOf id ++ if r.event == id then [r] else [] := by
  have all : (v.edit (.registration label r)).registrations.values = v.registrations.values ++ [r] :=
    Table.putNewValues free r
  rw [registrationsOf, all, List.filter_append, registrationsOf, List.filter_singleton]
  cases r.event == id <;> rfl

theorem registrationsHere {r : Registration} {label : Label}
    (free : v.registrations.get? (r.event, label) = none) :
    (v.edit (.registration label r)).registrationsOf r.event = v.registrationsOf r.event ++ [r] := by
  rw [registrationsNew free, beq_self_eq_true, if_pos rfl]

theorem registrationsThere {r : Registration} {label : Label}
    (free : v.registrations.get? (r.event, label) = none) {id : EventId} (apart : id ≠ r.event) :
    (v.edit (.registration label r)).registrationsOf id = v.registrationsOf id := by
  rw [registrationsNew free, if_neg (by simpa using Ne.symm apart), List.append_nil]

theorem soldHere {r : Registration} {label : Label} (free : v.registrations.get? (r.event, label) = none)
    (named : Raw) : (v.edit (.registration label r)).soldOf r.event named =
      v.soldOf r.event named + if named.same r.tier then 1 else 0 := by
  rw [soldOf, soldOf, registrationsHere free, List.countP_append, List.countP_singleton]

theorem stocksTaken {event : Event} {r : Registration} {label : Label} {tier : Tier} {n : Int}
    (whole : ∀ other ∈ event.tiers, other.Regular) (stocks : v.Stocks event) (own : event.id = r.event)
    (mem : tier ∈ event.tiers) (id : tier.id = .whole n) (key : r.tier.key = .whole n)
    (free : v.registrations.get? (r.event, label) = none)
    (places : tier.isSoldOut = .ok false) :
    (v.edit (.registration label r)).Stocks
      (event.withTier { tier with sold := .whole (v.soldOf event.id tier.id + 1) }) := by
  have more (named : Raw) : (v.edit (.registration label r)).soldOf event.id named =
      v.soldOf event.id named + if named.same r.tier then 1 else 0 := own ▸ soldHere free named
  -- The registration names the one tier of its id, so it alone has one more sold.
  refine stocksPut whole stocks.ids id (List.mem_map.mpr ⟨tier, mem, rfl⟩) ?_ fun other there apart => ?_
  · obtain ⟨capacity, limit, count, _⟩ := stocks.stocked tier mem
    have room : (v.soldOf event.id tier.id : Int) < capacity := by
      rw [Tier.isSoldOutWhole limit count] at places
      simpa using places
    have one : tier.id.same r.tier = true := by
      rw [id]
      exact Raw.sameWhole.mpr key
    refine ⟨capacity, limit, ?_⟩
    simp only [more, one, if_true]
    exact ⟨rfl, room⟩
  · obtain ⟨m, is⟩ := (whole other there).id
    have none : other.id.same r.tier = false := by
      rw [is, Bool.eq_false_iff]
      intro same
      exact apart (is.trans ((Raw.sameWhole.mp same).symm.trans (key.trans id.symm)))
    obtain ⟨capacity, limit, count, enough⟩ := stocks.stocked other there
    refine ⟨capacity, limit, ?_⟩
    simp only [more, none, Bool.false_eq_true, if_false, Nat.add_zero]
    exact ⟨count, enough⟩

theorem inventoryRegistered (inventory : v.Inventory) (regular : v.Regular) {event : Event}
    {r : Registration} {label : Label} {tier sold : Tier} (own : event.id = r.event)
    (stored : v.events.get? event.id = some event) (found : event.tier? r.tier = some tier)
    (party : Label.ofRaw? r.attendee = some label)
    (free : v.registrations.get? (r.event, label) = none) (places : tier.isSoldOut = .ok false)
    (sells : tier.sell = .ok sold) :
    (((v.edit (.registration label r)).edit (.attendee r.event r.attendee)).edit
      (.event (event.withTier sold))).Inventory := by
  have whole := regular.tiers stored
  have numbered : ∀ other ∈ event.tiers, ∃ m : Int, other.id = .whole m := fun other mem => (whole other mem).id
  obtain ⟨mem, named⟩ := Event.tierMem found
  obtain ⟨n, id, key⟩ := Event.namedWhole found whole
  obtain ⟨_, _, count, _⟩ := (inventory.stocks stored).stocked tier mem
  have stocks := stocksTaken whole (inventory.stocks stored) own mem id key free places
  rw [Tier.sellWhole count] at sells
  cases sells
  generalize made : ({ tier with sold := .whole (v.soldOf event.id tier.id + 1) } : Tier) = sold at stocks ⊢
  have same : sold.id = tier.id := by rw [← made]
  -- The ids stay in their places, so what named a tier of the event names one still.
  have kept : (Event.putTier sold event.tiers).map Tier.id = event.tiers.map Tier.id :=
    Event.putTierOld (same.trans id) numbered (same ▸ List.mem_map_of_mem mem)
  let after := ((v.edit (.registration label r)).edit (.attendee r.event r.attendee)).edit
    (.event (event.withTier sold))
  have entries : after.registrations.entries = v.registrations.entries ++ [((r.event, label), r)] :=
    Table.putNew free r
  have values : after.registrations.values = v.registrations.values ++ [r] := Table.putNewValues free r
  have stillNamed {given : Raw} : (∃ other ∈ event.tiers, other.id.same given = true) →
      ∃ other ∈ (event.withTier sold).tiers, other.id.same given = true := by
    rintro ⟨other, there, hits⟩
    have listed : other.id ∈ (Event.putTier sold event.tiers).map Tier.id :=
      kept ▸ List.mem_map_of_mem there
    obtain ⟨new, inside, is⟩ := List.mem_map.mp listed
    exact ⟨new, inside, is ▸ hits⟩
  refine ⟨fun {other found} there => ?_, fun {key r'} inside => ?_, Table.putNewOnce free inventory.once r,
    fun r' inside => ?_, fun other => ?_⟩
  · by_cases here : other = event.id
    · subst here
      rw [show after.events.get? event.id = some (event.withTier sold) from Table.getPutSame _ _ _] at there
      cases there
      exact stocksElsewhere (show after.registrations = (v.edit (.registration label r)).registrations
        from rfl) stocks
    · rw [show after.events.get? other = v.events.get? other from Table.getPutOther _ here _] at there
      obtain ⟨ids, stocked⟩ := inventory.stocks there
      refine ⟨ids, fun tier listed => ?_⟩
      have before := stocked tier listed
      have apart : found.id ≠ r.event := by
        rw [regular.named there, ← own]
        exact here
      rw [Stocked, soldOf, ← registrationsThere free apart] at before
      exact before
  · rw [entries] at inside
    rcases List.mem_append.mp inside with old | new
    · exact inventory.keyed old
    · cases List.mem_singleton.mp new
      exact ⟨rfl, party⟩
  · rw [values] at inside
    rcases List.mem_append.mp inside with old | new
    · obtain ⟨was, there, named⟩ := inventory.placed r' old
      by_cases here : r'.event = event.id
      · rw [here] at there ⊢
        cases stored.symm.trans there
        exact ⟨_, Table.getPutSame _ _ _, stillNamed named⟩
      · exact ⟨was, (Table.getPutOther _ here _).trans there, named⟩
    · cases List.mem_singleton.mp new
      rw [← own]
      exact ⟨_, Table.getPutSame _ _ _, stillNamed ⟨tier, mem, named⟩⟩
  · rw [show after.attendees = Function.update v.attendees r.event (v.attendees r.event ++ [r.attendee])
      from rfl]
    by_cases here : other = r.event
    · subst here
      rw [Function.update_self, inventory.listed]
      exact ((congrArg _ (registrationsHere free)).trans List.map_append).symm
    · rw [Function.update_of_ne here, inventory.listed]
      exact congrArg _ (registrationsThere free here).symm

end View

namespace Desk.Effect
open View
variable {desk : Desk Journal} {request : Operation} {edits : List Edit} {funds : Funds}
  {told : List Notice} {answer : Answer}

theorem inventory (effect : desk.Effect request edits funds told answer) (regular : desk.view.Regular)
    (inventory : desk.view.Inventory) : (edits.foldl View.edit desk.view).Inventory := by
  have sameTiers {event updated : Event} (stored : desk.view.events.get? event.id = some event)
      (id : updated.id = event.id) (tiers : updated.tiers = event.tiers) :
      (desk.view.edit (.event updated)).Inventory := by
    obtain ⟨ids, stocked⟩ := inventory.stocks stored
    refine inventoryEvent inventory ⟨tiers ▸ ids, fun tier mem => id ▸ stocked tier (tiers ▸ mem)⟩ ?_
    intro old there tier mem
    rw [id, stored] at there
    cases there
    exact ⟨tier, tiers ▸ mem, rfl⟩
  cases effect with
  | created verified named drafted free =>
    obtain ⟨⟨count, ids⟩, fresh⟩ := (Event.draftOk drafted).tier
    refine inventoryEvent inventory ⟨?_, fun tier mem => ?_⟩ fun old stored => ?_
    · rw [ids]
      exact List.Nodup.map (fun a b same => by simpa only [Raw.whole.injEq, Int.natCast_inj] using same)
        List.nodup_range
    · obtain ⟨n, name, price, capacity, positive, rfl⟩ := fresh tier mem
      refine ⟨capacity, rfl, ?_⟩
      simp only [soldOf, unplaced inventory free]
      exact ⟨rfl, by simpa using Int.le_of_lt positive⟩
    · rw [free] at stored
      cases stored
  | detailsUpdated owns editable some changed =>
    obtain ⟨name, description, venue, date, rfl⟩ := Event.changeOk changed
    exact sameTiers owns.stored rfl rfl
  | tierAdded owns editable next made =>
    obtain ⟨n, same, above⟩ := Event.nextTierIdWhole (regular.tiers owns.stored)
    cases next.symm.trans same
    obtain ⟨name, price, capacity, _, required, _, rfl⟩ := Tier.ofSpecOk made
    have free : ∀ other ∈ _, Tier.id other ≠ .whole n := fun other mem id =>
      Int.lt_irrefl n (above other mem n id)
    have none : desk.view.soldOf _ (Tier.fresh (.whole n) name price capacity).id = 0 :=
      unsold inventory regular owns.stored free
    refine inventoryAdded inventory (regular.tiers owns.stored) owns.stored rfl free ⟨capacity, rfl, ?_⟩
    rw [none]
    exact ⟨rfl, Int.le_of_lt (capacityOk required).2.1⟩
  | @tierUpdated organizer given tierId changes event tier updated owns editable found some changed =>
    have fine := regular.tiers owns.stored
    obtain ⟨mem, _⟩ := Event.tierMem found
    obtain ⟨n, whole⟩ := (fine tier mem).id
    obtain ⟨id, sold, capacity⟩ := Tier.changeOk changed
    obtain ⟨old, places, count, enough⟩ := (inventory.stocks owns.stored).stocked tier mem
    have own : desk.view.Stocked event.id updated := by
      rw [Stocked, id, sold]
      obtain same | ⟨new, _, is, compared⟩ := capacity
      · exact ⟨old, same.trans places, count, enough⟩
      · rw [count, Raw.belowWhole] at compared
        exact ⟨new, is, count, by simpa using compared⟩
    exact inventoryChanged inventory fine owns.stored (id.trans whole)
      (id ▸ List.mem_map_of_mem mem) own
  | statusUpdated owns known allowed => exact sameTiers owns.stored rfl rfl
  | cancelled owns allowed => exact sameTiers owns.stored rfl rfl
  | registered verified names active found party free places sells =>
    exact inventoryRegistered inventory regular rfl names.stored found party free places sells
  | escrowSet verified given free => exact inventoryElsewhere inventory rfl rfl rfl
  | paid => exact inventoryElsewhere inventory rfl rfl rfl
  | minted verified named someone issues party => exact inventoryElsewhere inventory rfl rfl rfl
  | @ticketTransferred source target given label ticket giver taker =>
    obtain ⟨lists, moved⟩ := View.handedOver desk.view label { ticket with owner := target } given giver
      taker
    rw [moved]
    exact inventoryElsewhere inventory rfl rfl rfl
  | ticketUsed verified holds own valid => exact inventoryElsewhere inventory rfl rfl rfl
  | ticketCancelled verified holds own valid => exact inventoryElsewhere inventory rfl rfl rfl

end Desk.Effect
end BoxOffice
