import Mathlib
import BoxOffice.Proofs.Desk.Growth
import BoxOffice.Proofs.Desk.Quiet
import BoxOffice.Proofs.Inventory

/-! Who is on the list of an event: those whom requests have registered, in the order of the requests. What
is asked about the places of a store that a run reaches gets answers that agree with one another. -/
namespace BoxOffice

def Operation.newcomer (id : EventId) : Operation → Option Raw
  | registerForEvent attendee given _ => if given = .text id.text then some attendee else none
  | _ => none

def Step.newcomer (id : EventId) (taken : Step × Step.Record) : Option Raw :=
  match taken.1, taken.2.outcome with
  | .operation request, .ok _ | .operation request, .error .receiverFailed => request.newcomer id
  | _, _ => none

theorem EventId.textInjective {a b : EventId} (same : a.text = b.text) : a = b := by
  cases a
  cases b
  cases same
  rfl

namespace Desk
variable {desk : Desk Journal} {request : Operation} {edits : List Edit} {funds : Funds}
  {told : List Notice} {answer : Answer}

theorem Effect.attendees (effect : desk.Effect request edits funds told answer) (id : EventId) :
    (edits.foldl View.edit desk.view).attendees id =
      desk.view.attendees id ++ (request.newcomer id).toList := by
  cases effect with
  | @registered attendee given named event tier sold label verified names =>
    rw [Operation.newcomer, names.named]
    by_cases same : id = event.id
    · subst same
      rw [if_pos rfl]
      exact Function.update_self ..
    · rw [if_neg fun text => same (EventId.textInjective (Raw.text.inj text).symm), Option.toList_none,
        List.append_nil]
      exact Function.update_of_ne same ..
  | @ticketTransferred source target given label ticket giver taker =>
    obtain ⟨lists, moved⟩ := View.handedOver desk.view label { ticket with owner := target } given giver
      taker
    rw [moved]
    exact (List.append_nil _).symm
  | _ => exact (List.append_nil _).symm

theorem Finds.newcomer (finds : desk.Finds request answer) (id : EventId) : request.newcomer id = none := by
  cases finds <;> rfl

end Desk

theorem attendeesGrow (id : EventId) : Grows (Operation.newcomer id) fun v => v.attendees id :=
  ⟨fun finds => finds.newcomer id, fun _ effect => effect.attendees id⟩

theorem Step.takeAllAttendees {steps : List Step} {desk : Desk Journal}
    (ordinary : ∀ step ∈ steps, step.Ordinary) (reached : desk.store.Reached) (tame : desk.Tame)
    (id : EventId) : (takeAll steps desk).2.view.attendees id =
      desk.view.attendees id ++ (steps.zip (takeAll steps desk).1).filterMap (newcomer id) :=
  (attendeesGrow id).takeAll ordinary reached tame

namespace View
variable {v : View}

theorem sumHits {β : Type} (hits : β → Bool) (sorts : List β) :
    (sorts.map fun sort => if hits sort then 1 else 0).sum = sorts.countP hits := by
  induction sorts with
  | nil => rfl
  | cons sort sorts ih => rw [List.map_cons, List.sum_cons, ih, List.countP_cons, Nat.add_comm]

theorem sumCounts {α β : Type} (hits : β → α → Bool) (sorts : List β) (items : List α)
    (one : ∀ item ∈ items, sorts.countP (hits · item) = 1) :
    (sorts.map fun sort => items.countP (hits sort)).sum = items.length := by
  induction items with
  | nil => simp
  | cons item rest ih =>
    have later := ih fun item mem => one item (List.mem_cons_of_mem _ mem)
    have here : (sorts.map fun sort => if hits sort item then 1 else 0).sum = 1 :=
      (sumHits (hits · item) sorts).trans (one item List.mem_cons_self)
    simp only [List.countP_cons, List.sum_map_add, later, here, List.length_cons]

theorem soldTotal (inventory : v.Inventory) (regular : v.Regular) {event : Event}
    (stored : v.events.get? event.id = some event) :
    (event.tiers.map fun tier => v.soldOf event.id tier.id).sum = (v.attendees event.id).length := by
  rw [inventory.listed, List.length_map]
  refine sumCounts (fun (tier : Tier) (r : Registration) => tier.id.same r.tier) event.tiers _ fun r mem => ?_
  obtain ⟨listed, here⟩ := List.mem_filter.mp mem
  obtain ⟨found, there, tier, inside, named⟩ := inventory.placed r listed
  rw [beq_iff_eq.mp here, stored] at there
  cases there
  obtain ⟨n, id⟩ := (regular.tiers stored tier inside).id
  rw [id] at named
  have key := Raw.sameWhole.mp named
  -- Whole ids that a value equals are one id, and that one occurs once.
  have once := List.count_eq_one_of_mem (inventory.stocks stored).ids (List.mem_map.mpr ⟨tier, inside, id⟩)
  rw [List.count, List.countP_map] at once
  refine (List.countP_congr fun other there => ?_).trans once
  obtain ⟨m, is⟩ := (regular.tiers stored other there).id
  rw [Function.comp_apply, is, Raw.sameWhole, key, beq_iff_eq]
  exact eq_comm

theorem registeredOnce (inventory : v.Inventory) : v.registrations.values.Pairwise fun a b =>
    a.event = b.event → a.attendee.alike b.attendee = false := by
  refine List.pairwise_map.mpr ((List.pairwise_map.mp inventory.once).imp_of_mem ?_)
  intro a b inA inB apart event
  obtain ⟨ownA, namedA⟩ := inventory.keyed inA
  obtain ⟨ownB, namedB⟩ := inventory.keyed inB
  rw [Bool.eq_false_iff]
  intro alike
  exact apart (Prod.ext (ownA.trans (event.trans ownB.symm)) ((Label.alikeIffLabel namedA namedB).mp alike))

theorem listedOnce (inventory : v.Inventory) (id : EventId) :
    (v.attendees id).Pairwise fun a b => a.alike b = false := by
  rw [inventory.listed]
  refine List.pairwise_map.mpr ((registeredOnce inventory).filter _ |>.imp_of_mem ?_)
  intro a b inA inB apart
  have here := beq_iff_eq.mp (List.mem_filter.mp inA).2
  have there := beq_iff_eq.mp (List.mem_filter.mp inB).2
  exact apart (here.trans there.symm)

theorem registeredListed (inventory : v.Inventory) (id : EventId) {given : Raw} {label : Label}
    (party : Label.ofRaw? given = some label) :
    v.registrations.contains (id, label) = (v.attendees id).any (·.alike given) := by
  rw [Bool.eq_iff_iff, List.any_eq_true, inventory.listed]
  constructor
  · intro known
    obtain ⟨r, found⟩ := Option.isSome_iff_exists.mp known
    obtain ⟨own, named⟩ := inventory.keyed (Table.memOfGet found)
    have stored : r ∈ v.registrations.values := List.mem_map.mpr ⟨_, Table.memOfGet found, rfl⟩
    have listed : r ∈ v.registrationsOf id := List.mem_filter.mpr ⟨stored, by simpa using own.symm⟩
    exact ⟨r.attendee, List.mem_map_of_mem listed, (Label.alikeIffLabel named party).mpr rfl⟩
  · rintro ⟨attendee, mem, alike⟩
    obtain ⟨r, inside, rfl⟩ := List.mem_map.mp mem
    obtain ⟨listed, here⟩ := List.mem_filter.mp inside
    obtain ⟨⟨⟨event, other⟩, r⟩, entry, rfl⟩ := List.mem_map.mp listed
    obtain ⟨rfl, named⟩ := inventory.keyed entry
    obtain rfl := (Label.alikeIffLabel named party).mp alike
    rw [← beq_iff_eq.mp here]
    exact Option.isSome_iff_exists.mpr ⟨_, Table.getOfMem inventory.once entry⟩

end View

/- What the store of a desk has on the places of one of its events: how many are sold of each tier and of
all together, and what is answered when nothing disturbs the calls. -/
structure Desk.Places (desk : Desk Journal) (event : Event) : Prop where
  sold : ∀ tier ∈ event.tiers, ∃ capacity sold : Int, tier.capacity = .whole capacity ∧
    tier.sold = .whole sold ∧ 0 ≤ sold ∧ sold ≤ capacity ∧
    sold = (desk.view.registrations.values.countP fun r => r.event = event.id ∧ tier.id.same r.tier)
  total : ∃ counts : List Nat, event.tiers.map Tier.sold = counts.map (fun n : Nat => .whole n) ∧
    (desk.view.attendees event.id).length = counts.sum
  attendees : ((Operation.getAttendees (.text event.id.text)).run.perform { desk with storeFaults := [] }).1 =
    .ok (.values (desk.view.attendees event.id))
  isRegistered : ∀ given label, Label.ofRaw? given = some label →
    ((Operation.isRegistered (.text event.id.text) given).run.perform { desk with storeFaults := [] }).1 =
      .ok (.flag ((desk.view.attendees event.id).any (·.alike given)))

/-- The three records of who takes part where, as they stand to each other. -/
structure Desk.Accounts (desk : Desk Journal) : Prop where
  places : ∀ {id event}, desk.view.events.get? id = some event → event.id = id ∧ desk.Places event
  placed : ∀ r ∈ desk.view.registrations.values, ∃ event, desk.view.events.get? r.event = some event ∧
    ∃ tier ∈ event.tiers, tier.id.same r.tier = true
  once : desk.view.registrations.values.Pairwise fun a b =>
    a.event = b.event → a.attendee.alike b.attendee = false
  listed : ∀ id, desk.view.attendees id =
    (desk.view.registrations.values.filter fun r => r.event = id).map Registration.attendee
  listedOnce : ∀ id, (desk.view.attendees id).Pairwise fun a b => a.alike b = false

theorem Desk.Ready.accounts {desk : Desk Journal} (ready : desk.Ready) (inventory : desk.view.Inventory) :
    desk.Accounts where
  places {id event} stored := by
    obtain rfl := ready.regular.named stored
    refine ⟨rfl, fun tier mem => ?_, ?_, Operation.performAttendees rfl stored, fun given label party => ?_⟩
    · obtain ⟨capacity, limit, count, enough⟩ := (inventory.stocks stored).stocked tier mem
      refine ⟨capacity, _, limit, count, Int.natCast_nonneg _, enough, ?_⟩
      rw [View.soldOf, View.registrationsOf, List.countP_filter]
      exact congrArg Nat.cast (List.countP_congr fun r _ => by simp [and_comm])
    · refine ⟨event.tiers.map fun tier => desk.view.soldOf event.id tier.id, ?_,
        (View.soldTotal inventory ready.regular stored).symm⟩
      rw [List.map_map]
      refine List.map_congr_left fun tier mem => ?_
      obtain ⟨_, _, count, _⟩ := (inventory.stocks stored).stocked tier mem
      exact count
    · rw [← View.registeredListed inventory event.id party]
      exact Operation.performIsRegistered rfl stored party
  placed := inventory.placed
  once := View.registeredOnce inventory
  listed id := (inventory.listed id).trans rfl
  listedOnce := View.listedOnce inventory

theorem Journal.Reached.inventory {store : Journal} (reached : store.Reached) :
    store.tables.view.Inventory :=
  reached.keeps View.emptyInventory fun regular inventory effect => effect.inventory regular inventory

/-- After any run of ordinary steps from an empty store the records of places agree, and on the list of an
event stand those whom the run registered for it, in the order of the run. -/
theorem placesAccounted {desk : Desk Journal} (empty : desk.store = .empty) (tame : desk.Tame)
    {steps : List Step} (ordinary : ∀ step ∈ steps, step.Ordinary) :
    (Step.takeAll steps desk).2.Accounts ∧
      ∀ id, (Step.takeAll steps desk).2.view.attendees id =
        (steps.zip (Step.takeAll steps desk).1).filterMap (Step.newcomer id) := by
  have reached : desk.store.Reached := empty ▸ .empty
  obtain ⟨reached', tame'⟩ := Step.takeAllReached ordinary reached tame
  refine ⟨(reached'.ready tame').accounts reached'.inventory, fun id => ?_⟩
  have none : desk.view.attendees id = [] := by
    rw [Desk.view, empty]
    rfl
  rw [Step.takeAllAttendees ordinary reached tame id, none, List.nil_append]

theorem placesAccountedGala :
    let steps : List Step :=
      [.operation (.createEvent (.text "host") (.text "gala") (.text "Gala") .nothing (.text "Hall")
        (some ⟨2 * Moment.microsPerDay, some 0⟩) [⟨.text "Stalls", .text "5", .whole 1⟩]),
      .operation (.updateEventStatus (.text "host") (.text "gala") (.text "active")),
      .breakStore ⟨"save_event", true⟩,
      .operation (.registerForEvent (.text "ann") (.text "gala") (.whole 0)),
      .operation (.registerForEvent (.text "bob") (.text "gala") (.whole 0))]
    let desk : Desk Journal :=
      .opened .empty none (some ⟨0, some 0⟩) .standard (.text "escrow") false true
    (∀ step ∈ steps, step.Ordinary) ∧ (Step.takeAll steps desk).2.Accounts ∧
      (Step.takeAll steps desk).2.view.attendees ⟨"gala", rfl⟩ = [.text "bob"] := by
  intro steps desk
  have ordinary : ∀ step ∈ steps, step.Ordinary := by simp [steps, Step.Ordinary, entryMethod]
  obtain ⟨accounts, listed⟩ := @placesAccounted desk rfl nofun steps ordinary
  have taken : (steps.zip (Step.takeAll steps desk).1).filterMap (Step.newcomer ⟨"gala", rfl⟩) =
      [.text "bob"] := by
    decide +kernel
  exact ⟨ordinary, accounts, (listed _).trans taken⟩

end BoxOffice
