import BoxOffice.Proofs.Inventory
import BoxOffice.Proofs.Ownership

/-! What becomes of one record when a request takes effect: it stays, it is altered in one of a few ways by
somebody who may do so, or it is new. -/
namespace BoxOffice

namespace EventStatus

inductive Follows : EventStatus → EventStatus → Prop
  | opened : Follows upcoming active
  | completed : Follows active completed
  | calledOff : Follows upcoming cancelled
  | brokenOff : Follows active cancelled

def Closed (status : EventStatus) : Prop :=
  status = completed ∨ status = cancelled

theorem followsBecome {old new : EventStatus} (allowed : old.canBecome new = true) : old.Follows new := by
  unfold canBecome at allowed
  split at allowed
  · exact .opened
  · exact .completed
  · cases allowed

theorem followsCancel {old : EventStatus} (allowed : old.canCancel = true) : old.Follows cancelled := by
  cases old with
  | upcoming => exact .calledOff
  | active => exact .brokenOff
  | completed | cancelled => cases allowed

theorem Follows.notClosed {old new : EventStatus} (follows : old.Follows new) : ¬old.Closed := by
  cases follows <;> simp [Closed]

theorem Follows.passed {old new : EventStatus} (follows : old.Follows new) : new ≠ upcoming := by
  cases follows <;> nofun

end EventStatus

structure Offer where
  id : Raw
  name : Raw
  price : Money
  capacity : Raw
  deriving DecidableEq, Repr

namespace Tier

def offer (tier : Tier) : Offer :=
  ⟨tier.id, tier.name, tier.price, tier.capacity⟩

def taken (tier : Tier) : Raw × Raw :=
  (tier.id, tier.sold)

end Tier

namespace Event
variable {event later : Event} {tier updated : Tier} {named : Raw}

def Sells (named : Raw) (event later : Event) : Prop :=
  ∃ position tier, ∃ sold : Int, event.tiers[position]? = some tier ∧ tier.id.same named = true ∧
    tier.sold = .whole sold ∧
    later = { event with
      tiers := event.tiers.set position { tier with sold := .whole (sold + 1) } }

theorem putTierFound (found : event.tier? named = some tier)
    (whole : ∀ other ∈ event.tiers, ∃ n : Int, other.id = .whole n) (kept : updated.id = tier.id) :
    ∃ position, event.tiers[position]? = some tier ∧
      putTier updated event.tiers = event.tiers.set position updated := by
  obtain ⟨n, is⟩ := whole tier (tierMem found).1
  obtain ⟨alone, before, rest, tiers, above⟩ := List.find?_eq_some_iff_append.mp found
  have apart : ∀ other ∈ before, other.id.same updated.id = false := by
    intro other mem
    obtain ⟨m, has⟩ := whole other (tiers ▸ List.mem_append_left _ mem)
    refine Bool.eq_false_iff.mpr fun same => ?_
    rw [Raw.sameWholes has (kept.trans is), kept] at same
    have missed := above other mem
    rw [same, alone] at missed
    cases missed
  have here : tier.id.same updated.id = true := (Raw.sameWholes is (kept.trans is)).mpr kept.symm
  refine ⟨before.length, by simp [tiers], ?_⟩
  rw [tiers, putTierAt apart here]
  simp

theorem mapSet {β : Type} {position : Nat} {tiers : List Tier} (there : tiers[position]? = some tier)
    (f : Tier → β) (same : f updated = f tier) : (tiers.set position updated).map f = tiers.map f := by
  have place : (tiers.map f)[position]? = some (f updated) := by
    rw [List.getElem?_map, there, same]
    rfl
  obtain ⟨_, same⟩ := List.getElem?_eq_some_iff.mp place
  rw [List.map_set, ← same, List.set_getElem_self]

end Event

def Operation.editor : Operation → Option Raw
  | updateEventDetails organizer _ _ | addTicketTier organizer _ _ | updateTier organizer _ _ _
  | updateEventStatus organizer _ _ | cancelEvent organizer _ => some organizer
  | _ => none

def Operation.event? : Operation → Option Raw
  | createEvent _ event _ _ _ _ _ | updateEventDetails _ event _ | addTicketTier _ event _
  | updateTier _ event _ _ | updateEventStatus _ event _ | cancelEvent _ event
  | registerForEvent _ event _ | payForTicket _ event _ | mintTicket _ event _ => some event
  | _ => none

def Operation.ticket? : Operation → Option Raw
  | transferTicket _ _ id | useTicket _ id | cancelTicket _ id => some id
  | _ => none

/-- The ways in which a request changes a stored event: its organizer edits it before it opens or leads it to
its next stage, or an attendee takes a place while it is open. -/
inductive Desk.Alters (desk : Desk Journal) (request : Operation) (event : Event) : Event → Prop
  | edited {organizer given name description venue date tiers} (asks : request.editor = some organizer)
      (about : request.event? = some given) (owns : desk.Owns organizer given event)
      (editable : event.status = .upcoming)
      (taken : event.tiers.map Tier.taken <+: tiers.map Tier.taken) :
      Alters desk request event { event with name, description, venue, date, tiers }
  | moved {organizer given status} (asks : request.editor = some organizer)
      (about : request.event? = some given) (owns : desk.Owns organizer given event)
      (follows : event.status.Follows status) : Alters desk request event { event with status }
  | sold {attendee given named later} (asks : request = .registerForEvent attendee given named)
      (verified : desk.Verified attendee) (names : desk.Names given event)
      (active : event.status = .active) (sells : event.Sells named later) :
      Alters desk request event later

inductive Desk.Handles (desk : Desk Journal) (label : Label) (ticket : Ticket) : Operation → Ticket → Prop
  | handed {source target given} (verified : desk.Verified source) (named : Label.ofRaw? given = some label)
      (own : ticket.owner.same source = true) (valid : ticket.status = .valid) :
      Handles desk label ticket (.transferTicket source target given) { ticket with owner := target }
  | used {organizer given} (verified : desk.Verified organizer) (named : Label.ofRaw? given = some label)
      (own : ticket.organizer.same organizer = true) (valid : ticket.status = .valid) :
      Handles desk label ticket (.useTicket organizer given) { ticket with status := .used }
  | cancelled {caller given} (verified : desk.Verified caller) (named : Label.ofRaw? given = some label)
      (own : ticket.owner.same caller = true) (valid : ticket.status = .valid) :
      Handles desk label ticket (.cancelTicket caller given) { ticket with status := .cancelled }

inductive Turn {α : Type} (changes : α → α → Prop) (made : α → Prop) : Option α → Option α → Prop
  | kept {record} : Turn changes made record record
  | changed {old new} (change : changes old new) : Turn changes made (some old) (some new)
  | made {new} (fresh : made new) : Turn changes made none (some new)

namespace Turn
variable {α : Type} {changes : α → α → Prop} {made : α → Prop} {before after : Option α} {old : α}

theorem stored (turn : Turn changes made before after) (there : before = some old) :
    after = some old ∨ ∃ new, after = some new ∧ changes old new := by
  subst there
  cases turn with
  | kept => exact .inl rfl
  | changed change => exact .inr ⟨_, rfl, change⟩

theorem same (turn : Turn changes made before after) (steady : ∀ old new, before = some old → ¬changes old new)
    (none : ∀ new, ¬made new) : after = before := by
  cases turn with
  | kept => rfl
  | changed change => exact absurd change (steady _ _ rfl)
  | made fresh => exact absurd fresh (none _)

end Turn

namespace Desk
variable {desk : Desk Journal} {request : Operation} {edits : List Edit} {funds : Funds}
  {told : List Notice} {answer : Answer}

theorem Alters.named {event later : Event} (alters : desk.Alters request event later) :
    later.id = event.id ∧ request.event? = some (.text event.id.text) := by
  cases alters with
  | edited asks about owns => exact ⟨rfl, about.trans (congrArg some owns.named)⟩
  | moved asks about owns => exact ⟨rfl, about.trans (congrArg some owns.named)⟩
  | sold asks verified names active sells =>
    obtain ⟨_, _, _, _, _, _, rfl⟩ := sells
    subst asks
    exact ⟨rfl, congrArg some names.named⟩

theorem Handles.named {label : Label} {ticket later : Ticket}
    (handles : desk.Handles label ticket request later) :
    ∃ given, request.ticket? = some given ∧ Label.ofRaw? given = some label := by
  cases handles with
  | handed verified named => exact ⟨_, rfl, named⟩
  | used verified named => exact ⟨_, rfl, named⟩
  | cancelled verified named => exact ⟨_, rfl, named⟩

theorem turnSaved {event later : Event} (stored : desk.view.events.get? event.id = some event)
    (alters : desk.Alters request event later) (id : EventId) :
    Turn (desk.Alters request) (fun _ => request.event? = some (.text id.text)) (desk.view.events.get? id)
      ((desk.view.edit (.event later)).events.get? id) := by
  have same := alters.named.1
  by_cases here : id = event.id
  · subst here
    rw [stored, ← same, View.edit, Table.getPutSame]
    exact .changed alters
  · rw [View.edit, Table.getPutOther _ (same ▸ here)]
    exact .kept

theorem Effect.eventTurns (effect : desk.Effect request edits funds told answer)
    (regular : desk.view.Regular) (id : EventId) :
    Turn (desk.Alters request) (fun _ => request.event? = some (.text id.text)) (desk.view.events.get? id)
      ((edits.foldl View.edit desk.view).events.get? id) := by
  cases effect with
  | @created organizer given name description venue date specs event verified named drafted free =>
    by_cases here : id = event.id
    · subst here
      have put : ([Edit.event event].foldl View.edit desk.view).events.get? event.id = some event :=
        Table.getPutSame _ _ _
      rw [free, put]
      exact .made (congrArg some named)
    · have put : ([Edit.event event].foldl View.edit desk.view).events.get? id = desk.view.events.get? id :=
        Table.getPutOther _ here _
      rw [put]
      exact .kept
  | @detailsUpdated organizer given changes event updated owns editable some changed =>
    obtain ⟨name, description, venue, date, rfl⟩ := Event.changeOk changed
    exact turnSaved owns.stored (.edited rfl rfl owns editable (List.prefix_refl _)) id
  | @tierAdded organizer given spec event next tier owns editable is made =>
    have whole := fun other mem => (regular.tiers owns.stored other mem).id
    obtain ⟨n, same, above⟩ := Event.nextTierIdWhole (regular.tiers owns.stored)
    cases is.symm.trans same
    obtain ⟨name, price, capacity, _, _, _, rfl⟩ := Tier.ofSpecOk made
    have free : (Tier.fresh (.whole n) name price capacity).id ∉ event.tiers.map Tier.id := fun mem => by
      obtain ⟨other, listed, ids⟩ := List.mem_map.mp mem
      exact (above other listed n ids).false
    have added : event.tiers.map Tier.taken <+:
        (event.withTier (.fresh (.whole n) name price capacity)).tiers.map Tier.taken := by
      rw [Event.withTier, Event.putTierNew rfl whole free, List.map_append]
      exact List.prefix_append _ _
    exact turnSaved owns.stored (.edited rfl rfl owns editable added) id
  | @tierUpdated organizer given named changes event tier updated owns editable found some changed =>
    obtain ⟨kept, sold, _⟩ := Tier.changeOk changed
    obtain ⟨position, there, put⟩ :=
      Event.putTierFound found (fun other mem => (regular.tiers owns.stored other mem).id) kept
    have taken : event.tiers.map Tier.taken <+: (event.withTier updated).tiers.map Tier.taken := by
      rw [Event.withTier, put, Event.mapSet there Tier.taken (Prod.ext kept sold)]
    exact turnSaved owns.stored (.edited rfl rfl owns editable taken) id
  | statusUpdated owns known allowed =>
    exact turnSaved owns.stored (.moved rfl rfl owns (EventStatus.followsBecome allowed)) id
  | cancelled owns allowed =>
    exact turnSaved owns.stored (.moved rfl rfl owns (EventStatus.followsCancel allowed)) id
  | @registered attendee given named event tier sold label verified names active found party free places
      sells =>
    obtain ⟨mem, same⟩ := Event.tierMem found
    obtain ⟨n, is⟩ := (regular.tiers names.stored tier mem).sold
    rw [Tier.sellWhole is] at sells
    cases sells
    have kept : { tier with sold := .whole (n + 1) }.id = tier.id := rfl
    obtain ⟨position, there, put⟩ :=
      Event.putTierFound found (fun other mem => (regular.tiers names.stored other mem).id) kept
    have sells : event.Sells named (event.withTier { tier with sold := .whole (n + 1) }) := by
      refine ⟨position, tier, n, there, same, is, ?_⟩
      rw [Event.withTier, put]
    exact turnSaved names.stored (.sold rfl verified names active sells) id
  | ticketTransferred =>
    rw [View.handedTo]
    exact .kept
  | _ => exact .kept

theorem turnHandled {label : Label} {ticket later : Ticket}
    (stored : desk.view.tickets.get? label = some ticket) (handles : desk.Handles label ticket request later)
    {made : Ticket → Prop} (other : Label) : Turn (fun old new => desk.Handles other old request new) made
      (desk.view.tickets.get? other) ((desk.view.edit (.ticket label later)).tickets.get? other) := by
  by_cases here : other = label
  · subst here
    rw [stored, View.edit, Table.getPutSame]
    exact .changed handles
  · rw [View.edit, Table.getPutOther _ here]
    exact .kept

theorem Effect.ticketTurns (effect : desk.Effect request edits funds told answer)
    (ownership : desk.view.Ownership) (label : Label) :
    Turn (fun old new => desk.Handles label old request new)
      (fun ticket => ticket.status = .valid ∧ request.ticket? = none) (desk.view.tickets.get? label)
      ((edits.foldl View.edit desk.view).tickets.get? label) := by
  cases effect with
  | @minted organizer given owner id party verified named someone issues =>
    by_cases here : label = .numbered desk.nextTicket
    · subst here
      have free : desk.view.tickets.get? (.numbered desk.nextTicket) = none := ownership.series.fresh
      simp only [List.foldl_cons, List.foldl_nil, View.edit, free, Table.getPutSame]
      exact .made ⟨rfl, rfl⟩
    · simp only [List.foldl_cons, List.foldl_nil, View.edit, Table.getPutOther _ here]
      exact .kept
  | ticketTransferred verified differ someone holds own valid =>
    rw [View.handedTo]
    exact turnHandled holds.stored (.handed verified holds.named own valid) label
  | ticketUsed verified holds own valid =>
    exact turnHandled holds.stored (.used verified holds.named own valid) label
  | ticketCancelled verified holds own valid =>
    exact turnHandled holds.stored (.cancelled verified holds.named own valid) label
  | _ => exact .kept

end Desk
end BoxOffice
