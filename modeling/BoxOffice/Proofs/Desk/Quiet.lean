import BoxOffice.Proofs.Desk.Runs

/-! What requests answer at a desk where nothing waits to disturb the calls of the store. -/
namespace BoxOffice

namespace Action

section
variable {σ : Type} [RecordStore σ] {desk : Desk σ}

theorem performCall (quiet : desk.storeFaults = []) (c : StoreCall) :
    (call c).perform desk =
      ((RecordStore.call c desk.store).1, { desk with store := (RecordStore.call c desk.store).2 }) := by
  have still : struck? desk c.method = none := by simp [struck?, quiet]
  have done : (undisturbed c).perform desk =
      ((RecordStore.call c desk.store).1, { desk with store := (RecordStore.call c desk.store).2 }) := rfl
  rw [call, disturbed, performBind, performGet, ← done]
  simp only [still]
  rw [performBind, performGet]
  simp only [quiet, List.isEmpty_nil, if_true]

theorem performOpening (quiet : desk.storeFaults = []) (free : RecordStore.barrier σ (fun _ => none) = none) :
    opening.perform desk = (.ok (), desk) := by
  have still : struck? desk blockMethod = none := by simp [struck?, quiet]
  have waits : waiting desk = fun _ => none := by
    funext method
    simp [waiting, struck?, quiet]
  rw [opening, performBind, disturbed, performBind, performGet]
  simp only [still]
  rw [performPure]
  simp only
  rw [performBind, performGet]
  simp only [waits, free]
  rfl

theorem performFound (quiet : desk.storeFaults = []) {id : EventId} {found : Option Event}
    (answered : RecordStore.call (.getEvent id) desk.store = (.ok found, desk.store)) :
    (Registry.load id).perform desk = (found.elim (.error (.eventMissing id)) .ok, desk) := by
  rw [Registry.load, performBind, performCall quiet, answered]
  cases found <;> rfl

end

variable {desk : Desk Journal}

theorem performRead (quiet : desk.storeFaults = []) {c : StoreCall} {answer : c.Answer}
    (planned : desk.store.tables.plan c = (.ok answer, [])) :
    (call c).perform desk = (.ok answer, desk) := by
  rw [performCall quiet]
  simp only [RecordStore.call, Journal.call, planned, List.foldl_nil]

theorem performLoad (quiet : desk.storeFaults = []) {id : EventId} {event : Event}
    (stored : desk.view.events.get? id = some event) :
    (Registry.load id).perform desk = (.ok event, desk) := by
  have answered : RecordStore.call (.getEvent id) desk.store = (.ok (some event), desk.store) :=
    congrArg (fun found => (Except.ok found, desk.store)) stored
  exact performFound quiet answered

theorem performEventId {σ : Type} (id : EventId) (refusal : Failure) :
    (eventId (.text id.text) refusal : Action σ EventId) = pure id := by
  simp only [eventId, EventId.ofTextSelf]

theorem performGetEvent (quiet : desk.storeFaults = []) {event : Event}
    (stored : desk.view.events.get? event.id = some event) :
    (Registry.get (.text event.id.text)).perform desk = (.ok event, desk) := by
  rw [Registry.get, Registry.eventId, performEventId, pure_bind, performLoad quiet stored]

theorem performAtomically {α : Type} (quiet : desk.storeFaults = []) {body : Action Journal α} {value : α}
    (done : body.perform { desk with store := desk.store.enter } =
      (.ok value, { desk with store := desk.store.enter })) :
    (atomically body).perform desk = (.ok value, { desk with store := desk.store.enter.leave }) := by
  rw [atomically, performBind, performOpening quiet rfl]
  simp only
  rw [block, performStep]
  simp only [RecordStore.enter, done]
  rfl

end Action

namespace Operation
open BoxOffice.Action
variable {desk : Desk Journal}

theorem performAttendees (quiet : desk.storeFaults = []) {event : Event}
    (stored : desk.view.events.get? event.id = some event) :
    ((getAttendees (.text event.id.text)).run.perform desk).1 =
      .ok (.values (desk.view.attendees event.id)) := by
  have read : (call (.listAttendees event.id)).perform desk = (.ok (desk.view.attendees event.id), desk) :=
    performRead quiet rfl
  rw [run, Allocation.attendees, performBind, performBind, performGetEvent quiet stored]
  simp only [read]
  rfl

theorem performIsRegistered (quiet : desk.storeFaults = []) {event : Event} {given : Raw} {label : Label}
    (stored : desk.view.events.get? event.id = some event) (party : Label.ofRaw? given = some label) :
    ((isRegistered (.text event.id.text) given).run.perform desk).1 =
      .ok (.flag (desk.view.registrations.contains (event.id, label))) := by
  have planned : desk.store.tables.plan (.isRegistered event.id given) =
      (.ok (desk.view.registrations.contains (event.id, label)), []) := by
    simp only [Tables.plan, Checked.label, party]
    rfl
  rw [run, Allocation.isRegistered, performBind, performBind, performGetEvent quiet stored]
  simp only [performRead quiet planned]
  rfl

theorem performPayment (quiet : desk.storeFaults = []) {given : Raw} {label : Label} {payment : Payment}
    (named : Label.ofRaw? given = some label) (stored : desk.view.payments.get? label = some payment) :
    ((getPayment given).run.perform desk).1 = .ok (.payment payment) := by
  have planned : desk.store.tables.plan (.getPayment given) = (.ok (some payment), []) := by
    simp only [Tables.plan, Checked.label, named]
    exact congrArg (fun found => (Except.ok found, [])) stored
  rw [run, Escrow.payment, performBind, performBind, performRead quiet planned]
  rfl

theorem performRevenue (quiet : desk.storeFaults = []) (id : EventId) :
    ((getEventRevenue (.text id.text)).run.perform desk).1 = .ok (.amount (desk.revenueOf id)) := by
  have read : (call (.getRevenue id)).perform desk = (.ok (desk.revenueOf id), desk) := performRead quiet rfl
  rw [run, Escrow.revenue, Escrow.eventId, performEventId, pure_bind, performBind, read]
  rfl

theorem performEventPayments (quiet : desk.storeFaults = []) (id : EventId) :
    ((getEventPayments (.text id.text)).run.perform desk).1 =
      .ok (.values (desk.view.eventPayments id)) := by
  have read : (call (.listEventPayments id)).perform desk = (.ok (desk.view.eventPayments id), desk) :=
    performRead quiet rfl
  rw [run, Escrow.eventPayments, Escrow.eventId, performEventId, pure_bind, performBind, read]
  rfl

theorem performSetUp (quiet : desk.storeFaults = []) {config : EscrowConfig}
    (set : desk.view.escrow = some config) (admin currency : Raw) :
    ((setUpEscrow admin currency).run.perform desk).1 = .ok (.config config) := by
  have planned : desk.store.tables.plan .getEscrow = (.ok (some config), []) :=
    congrArg (fun found => (Except.ok found, [])) set
  have read := @performRead { desk with store := desk.store.enter } quiet .getEscrow _ planned
  rw [run, performBind, Escrow.setUp, performBind, @performAtomically desk _ quiet _ (config, false)]
  · rfl
  · rw [performBind, read]
    rfl

theorem performTicket (quiet : desk.storeFaults = []) {given : Raw} {label : Label} {ticket : Ticket}
    (named : Label.ofRaw? given = some label) (stored : desk.view.tickets.get? label = some ticket) :
    ((getTicket given).run.perform desk).1 = .ok (.ticket ticket) := by
  have planned : desk.store.tables.plan (.getTicket given) = (.ok (some ticket), []) := by
    simp only [Tables.plan, Checked.label, named]
    exact congrArg (fun found => (Except.ok found, [])) stored
  rw [run, Admission.load, performBind, performBind, performRead quiet planned]
  rfl

theorem performOwnerTickets (quiet : desk.storeFaults = []) {owner : Raw} {label : Label}
    (party : Label.ofRaw? owner = some label) :
    ∃ ids, ((getOwnerTickets owner).run.perform desk).1 = .ok (.values ids) ∧
      ids.map Raw.key = desk.view.ownerTickets label := by
  have planned : desk.store.tables.plan (.listOwnerTickets owner) =
      (.ok (desk.store.tables.ownerTickets.items label), []) := by
    simp only [Tables.plan, Checked.label, party]
    rfl
  refine ⟨desk.store.tables.ownerTickets.items label, ?_, rfl⟩
  rw [run, Admission.ownerTickets, performBind, performRead quiet planned]
  rfl

theorem performEventTickets (quiet : desk.storeFaults = []) (id : EventId) :
    ((getEventTickets (.text id.text)).run.perform desk).1 =
      .ok (.values (desk.view.eventTickets id)) := by
  have read : (call (.listEventTickets id)).perform desk = (.ok (desk.view.eventTickets id), desk) :=
    performRead quiet rfl
  rw [run, Admission.eventTickets, Admission.eventId, performEventId, pure_bind, performBind, read]
  rfl

end Operation
end BoxOffice
