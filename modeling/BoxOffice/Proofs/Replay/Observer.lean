import BoxOffice.Proofs.Desk.Hearing
import BoxOffice.Proofs.History.Alteration
import BoxOffice.Proofs.Store.Reference

/-! An observer who hears notices one after the other and keeps what they tell of events and tickets. Whatever
does not go with what is known already is not believed, so a replay that comes to an end has found no contradiction. -/
namespace BoxOffice

structure Playbill where
  organizer : Raw
  name : Raw
  venue : Raw
  date : Option Moment
  status : EventStatus
  offers : List Offer
  deriving DecidableEq, Repr

structure Stub where
  event : EventId
  owner : Raw
  status : TicketStatus
  deriving DecidableEq, Repr

def Event.playbill (event : Event) : Playbill :=
  ⟨event.organizer, event.name, event.venue, event.date, event.status, event.tiers.map Tier.offer⟩

def Ticket.stub (ticket : Ticket) : Stub :=
  ⟨ticket.event, ticket.owner, ticket.status⟩

structure Observer where
  events : Table EventId Playbill
  tickets : Table Label Stub
  deriving DecidableEq, Repr

namespace Observer

def unaware : Observer :=
  ⟨.empty, .empty⟩

def onEvent (known : Observer) (id : EventId) (change : Playbill → Option Playbill) : Option Observer := do
  let playbill ← known.events.get? id
  let changed ← change playbill
  return { known with events := known.events.put id changed }

def onTicket (known : Observer) (given : Raw) (change : Stub → Option Stub) : Option Observer := do
  let label ← Label.ofRaw? given
  let stub ← known.tickets.get? label
  if stub.status = .valid then
    let changed ← change stub
    return { known with tickets := known.tickets.put label changed }
  else none

/-- What the observer knows after one more notice, if it can be believed. -/
def hear (known : Observer) : Notice → Option Observer
  | .eventCreated id organizer name venue date tiers =>
    match known.events.get? id with
    | some _ => none
    | none =>
      let playbill : Playbill := ⟨organizer, name, venue, date, .initial, tiers.map Tier.offer⟩
      some { known with events := known.events.put id playbill }
  | .eventUpdated event =>
    known.onEvent event.id fun playbill => some { event.playbill with status := playbill.status }
  | .eventStatusChanged id old new =>
    known.onEvent id fun playbill => if playbill.status = old then some { playbill with status := new } else none
  | .eventCancelled id => do
    let playbill ← known.events.get? id
    if playbill.status = .cancelled then return known else none
  | .attendeeRegistered .. | .paymentReceived .. => some known
  | .ticketMinted id event owner =>
    match known.tickets.get? (.numbered id) with
    | some _ => none
    | none => some { known with tickets := known.tickets.put (.numbered id) ⟨event, owner, .initial⟩ }
  | .ticketTransferred id source target =>
    known.onTicket id fun stub =>
      if stub.owner.same source = true then some { stub with owner := target } else none
  | .ticketUsed id _ => known.onTicket id fun stub => some { stub with status := .used }
  | .ticketCancelled id owner =>
    known.onTicket id fun stub =>
      if stub.owner.same owner = true then some { stub with status := .cancelled } else none

def replay (told : List Notice) : Option Observer :=
  told.foldlM hear unaware

end Observer

namespace Observer
variable {known next : Observer} {told : List Notice}

theorem onEventStored {id : EventId} {change : Playbill → Option Playbill} {playbill changed : Playbill}
    (stored : known.events.get? id = some playbill) (changes : change playbill = some changed) :
    known.onEvent id change = some { known with events := known.events.put id changed } := by
  simp [onEvent, stored, changes]

theorem onTicketStored {given : Raw} {label : Label} {change : Stub → Option Stub}
    {stub changed : Stub} (named : Label.ofRaw? given = some label)
    (stored : known.tickets.get? label = some stub) (valid : stub.status = .valid)
    (changes : change stub = some changed) :
    known.onTicket given change = some { known with tickets := known.tickets.put label changed } := by
  simp [onTicket, named, stored, valid, changes]

theorem hearOne {notice : Notice} (heard : known.hear notice = some next) :
    [notice].foldlM hear known = some next := by
  rw [List.foldlM_cons, heard]
  rfl

theorem hearCancelled {id : EventId} (heard : known.hear (.eventCancelled id) = some next) : next = known := by
  simp only [hear, Option.bind_eq_bind, Option.bind_eq_some_iff] at heard
  obtain ⟨playbill, _, heard⟩ := heard
  split at heard
  · exact (Option.some.inj heard).symm
  · cases heard

theorem replayConcat (told more : List Notice) : replay (told ++ more) = (replay told).bind (more.foldlM hear) :=
  List.foldlM_append

theorem replayCancelled {id : EventId} (heard : replay (told ++ [.eventCancelled id]) = some next) :
    replay told = some next := by
  rw [replayConcat, Option.bind_eq_some_iff] at heard
  obtain ⟨known, before, heard⟩ := heard
  rw [List.foldlM_cons, Option.bind_eq_bind, Option.bind_eq_some_iff] at heard
  obtain ⟨last, heard, same⟩ := heard
  cases same
  rw [hearCancelled heard]
  exact before

end Observer

namespace View
variable {v : View}

def observed (v : View) : Observer :=
  ⟨v.events.mapValues Event.playbill, v.tickets.mapValues Ticket.stub⟩

theorem observedEvent {id : EventId} {event : Event} (stored : v.events.get? id = some event) :
    v.observed.events.get? id = some event.playbill := by
  rw [observed, Table.getMapValues, stored]
  rfl

theorem observedTicket {label : Label} {ticket : Ticket} (stored : v.tickets.get? label = some ticket) :
    v.observed.tickets.get? label = some ticket.stub := by
  rw [observed, Table.getMapValues, stored]
  rfl

theorem observedEventNone {id : EventId} (free : v.events.get? id = none) :
    v.observed.events.get? id = none := by
  rw [observed, Table.getMapValues, free]
  rfl

theorem observedTicketNone {label : Label} (free : v.tickets.get? label = none) :
    v.observed.tickets.get? label = none := by
  rw [observed, Table.getMapValues, free]
  rfl

theorem observedSaved (v : View) (event : Event) : (v.edit (.event event)).observed =
    { v.observed with events := v.observed.events.put event.id event.playbill } := by
  rw [observed, edit, Table.putMapValues]
  rfl

theorem observedKept (v : View) (label : Label) (ticket : Ticket) : (v.edit (.ticket label ticket)).observed =
    { v.observed with tickets := v.observed.tickets.put label ticket.stub } := by
  rw [observed, edit, Table.putMapValues]
  rfl

theorem observedSame {event later : Event} (stored : v.events.get? event.id = some event)
    (id : later.id = event.id) (same : later.playbill = event.playbill) :
    (v.edit (.event later)).observed = v.observed := by
  have kept : (v.events.put event.id later).mapValues Event.playbill = v.events.mapValues Event.playbill :=
    congrArg Table.mk (Table.putKnown stored (fun entry => (entry.1, entry.2.playbill)) (by rw [same]))
  rw [observed, edit, id, kept]
  rfl

end View

namespace Desk
variable {desk : Desk Journal} {request : Operation} {edits : List Edit} {funds : Funds}
  {told : List Notice} {answer : Answer}

open Observer

theorem hearUpdated {event updated : Event} (stored : desk.view.events.get? event.id = some event)
    (id : updated.id = event.id) (status : updated.status = event.status) :
    desk.view.observed.hear (.eventUpdated updated) = some (desk.view.edit (.event updated)).observed := by
  have known := View.observedEvent stored
  rw [← id] at known
  have playbill : { updated.playbill with status := event.playbill.status } = updated.playbill := by
    rw [Event.playbill, Event.playbill, status]
  rw [View.observedSaved]
  exact onEventStored known (congrArg some playbill)

theorem hearStatus {event : Event} (stored : desk.view.events.get? event.id = some event)
    (status : EventStatus) :
    desk.view.observed.hear (.eventStatusChanged event.id event.status status) =
      some (desk.view.edit (.event { event with status })).observed := by
  rw [View.observedSaved]
  exact onEventStored (View.observedEvent stored) (if_pos rfl)

theorem Effect.observed (effect : desk.Effect request edits funds told answer) (regular : desk.view.Regular)
    (ownership : desk.view.Ownership) :
    told.foldlM hear desk.view.observed = some (edits.foldl View.edit desk.view).observed := by
  cases effect with
  | @created organizer given name description venue date specs event verified named drafted free =>
    have made := Event.draftOk drafted
    have playbill : event.playbill =
        ⟨organizer, event.name, event.venue, event.date, .initial, event.tiers.map Tier.offer⟩ := by
      rw [Event.playbill, made.organizer, made.status]
      rfl
    have saved := View.observedSaved desk.view event
    rw [playbill] at saved
    simp only [List.foldlM_cons, hear, View.observedEventNone free]
    exact congrArg some saved.symm
  | detailsUpdated owns editable some changed =>
    obtain ⟨name, description, venue, date, rfl⟩ := Event.changeOk changed
    exact hearOne (hearUpdated owns.stored rfl rfl)
  | tierAdded owns => exact hearOne (hearUpdated owns.stored rfl rfl)
  | tierUpdated owns => exact hearOne (hearUpdated owns.stored rfl rfl)
  | statusUpdated owns => exact hearOne (hearStatus owns.stored _)
  | @cancelled organizer given event owns =>
    have now : (desk.view.edit (.event { event with status := .cancelled })).events.get? event.id =
        some { event with status := .cancelled } := Table.getPutSame _ _ _
    rw [List.foldlM_cons, hearStatus owns.stored]
    simp only [Option.bind_eq_bind, Option.bind_some, List.foldlM_cons, hear, View.observedEvent now]
    rfl
  | @registered attendee given named event tier sold label verified names active found party free places
      sells =>
    obtain ⟨n, is⟩ := (regular.tiers names.stored tier (Event.tierMem found).1).sold
    rw [Tier.sellWhole is] at sells
    cases sells
    let one : Tier := { tier with sold := .whole (n + 1) }
    have id : one.id = tier.id := rfl
    obtain ⟨position, there, put⟩ :=
      Event.putTierFound found (fun other mem => (regular.tiers names.stored other mem).id) id
    have offers : (event.withTier one).tiers.map Tier.offer = event.tiers.map Tier.offer := by
      rw [Event.withTier, put]
      exact Event.mapSet there Tier.offer rfl
    have same : (event.withTier one).playbill = event.playbill := congrArg (Playbill.mk _ _ _ _ _) offers
    have kept : (desk.view.edit (.event (event.withTier one))).observed = desk.view.observed :=
      View.observedSame names.stored rfl same
    exact congrArg some kept.symm
  | escrowSet => rfl
  | paid => rfl
  | @minted organizer given owner id party verified named someone issues =>
    let ticket : Ticket := ⟨.whole desk.nextTicket, id, organizer, owner, desk.clock, .valid⟩
    have free : desk.view.tickets.get? (.numbered desk.nextTicket) = none := ownership.series.fresh
    have kept := View.observedKept desk.view (.numbered desk.nextTicket) ticket
    simp only [List.foldlM_cons, hear, View.observedTicketNone free]
    exact congrArg some kept.symm
  | @ticketTransferred source target given label ticket giver taker verified differ someone holds own valid =>
    have heard : desk.view.observed.hear (.ticketTransferred given source target) =
        some (desk.view.edit (.ticket label { ticket with owner := target })).observed := by
      rw [View.observedKept]
      exact onTicketStored holds.named (View.observedTicket holds.stored) valid (if_pos own)
    rw [View.handedTo]
    exact hearOne heard
  | @ticketUsed organizer given label ticket verified holds own valid =>
    have heard : desk.view.observed.hear (.ticketUsed given organizer) =
        some (desk.view.edit (.ticket label { ticket with status := .used })).observed := by
      rw [View.observedKept]
      exact onTicketStored holds.named (View.observedTicket holds.stored) valid rfl
    exact hearOne heard
  | @ticketCancelled caller given label ticket verified holds own valid =>
    have heard : desk.view.observed.hear (.ticketCancelled given caller) =
        some (desk.view.edit (.ticket label { ticket with status := .cancelled })).observed := by
      rw [View.observedKept]
      exact onTicketStored holds.named (View.observedTicket holds.stored) valid (if_pos own)
    exact hearOne heard

end Desk

theorem replayStory : Story fun view told => Observer.replay told = some view.observed where
  told reached now effect := by
    rw [Observer.replayConcat, now]
    exact effect.observed reached.regular reached.ownership
  untold _ _ _ now := Observer.replayCancelled now

end BoxOffice
