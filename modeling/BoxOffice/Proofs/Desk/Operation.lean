import BoxOffice.Proofs.Desk.Admission
import BoxOffice.Proofs.Desk.Allocation
import BoxOffice.Proofs.Desk.Escrow

/-! Every request ends in one of the ways there are, and leaves a desk that is ready for the next. The
stores that are reached from the empty one by requests alone. -/
namespace BoxOffice

namespace Operation
open BoxOffice.Action
variable {start : Desk Journal}

theorem concluded {α : Type} {a : Action Journal α} {request : Operation} {answer : α → Answer}
    (concludes : a.Concludes start request answer) :
    (a >>= fun value => (pure (answer value) : Action Journal Answer)).Concludes start request id :=
  leadsBind concludes fun _ _ ends => leadsPure ends

theorem runEnds (ready : start.Ready) (request : Operation) :
    (request.run : Action Journal Answer).Concludes start request id := by
  cases request with
  | createEvent organizer event name description venue date tiers =>
    exact concluded (Registry.createEnds ready organizer event name description venue date tiers)
  | updateEventDetails organizer event changes =>
    exact concluded (Registry.updateDetailsEnds ready organizer event changes)
  | addTicketTier organizer event tier => exact concluded (Registry.addTierEnds ready organizer event tier)
  | updateTier organizer event tier changes =>
    exact concluded (Registry.updateTierEnds ready organizer event tier changes)
  | updateEventStatus organizer event status =>
    exact concluded (Registry.updateStatusEnds ready organizer event status)
  | cancelEvent organizer event => exact concluded (Registry.cancelEnds ready organizer event)
  | getEvent event => exact concluded (Registry.getEnds ready event)
  | getEventStatus event => exact concluded (Registry.statusEnds ready event)
  | listEvents organizer => exact concluded (Registry.listEnds ready organizer)
  | registerForEvent attendee event tier =>
    exact concluded (Allocation.registerEnds ready attendee event tier)
  | isRegistered event attendee => exact concluded (Allocation.isRegisteredEnds ready event attendee)
  | getAttendees event => exact concluded (Allocation.attendeesEnds ready event)
  | setUpEscrow admin currency => exact concluded (Escrow.setUpEnds ready admin currency)
  | getEscrow => exact concluded (Escrow.configEnds ready)
  | payForTicket payer event amount =>
    exact concluded (leadsMono (Escrow.payEnds ready payer event amount) (fun _ _ h => h.1) fun _ _ h => h)
  | getPayment given => exact concluded (Escrow.paymentEnds ready given)
  | getEventRevenue event => exact concluded (Escrow.revenueEnds ready event)
  | getEventPayments event => exact concluded (Escrow.eventPaymentsEnds ready event)
  | mintTicket organizer event owner => exact concluded (Admission.mintEnds ready organizer event owner)
  | transferTicket source target given =>
    exact concluded (Admission.transferEnds ready source target given)
  | useTicket organizer given => exact concluded (Admission.useEnds ready organizer given)
  | cancelTicket caller given => exact concluded (Admission.cancelEnds ready caller given)
  | getTicket given => exact concluded (Admission.loadEnds ready given)
  | getOwnerTickets owner => exact concluded (Admission.ownerTicketsEnds ready owner)
  | getEventTickets event => exact concluded (Admission.eventTicketsEnds ready event)

theorem ends (ready : start.Ready) (request : Operation) :
    start.Ends request (request.run.perform start).1 (request.run.perform start).2 := by
  have leads := runEnds ready request
  unfold Concludes Leads at leads
  split at leads <;> rename_i ran <;> rw [ran] <;> exact leads

end Operation

namespace Desk
variable {start after : Desk Journal} {request : Operation} {outcome : Except Failure Answer}

theorem Took.ready {view : View} {funds : Funds} {told : List Notice}
    (took : start.Took view funds told after) (regular : view.Regular) : after.Ready :=
  ⟨took.tame, took.idle, took.view ▸ regular⟩

theorem Ends.ready (ends : start.Ends request outcome after) (ready : start.Ready) : after.Ready := by
  cases ends with
  | refused other book took => exact took.ready ready.regular
  | found finds took => exact took.ready ready.regular
  | done effect took => exact took.ready (effect.regular ready.regular)
  | unheard effect some early took => exact took.ready (effect.regular ready.regular)

theorem Ends.around (ends : start.Ends request outcome after) : start.Around after := by
  cases ends with
  | refused other book took => exact took.toAround
  | found finds took => exact took.toAround
  | done effect took => exact took.toAround
  | unheard effect some early took => exact took.toAround

theorem Ends.keeps {holds : View → Prop} (ends : start.Ends request outcome after) (now : holds start.view)
    (later : ∀ {edits funds told answer}, start.Effect request edits funds told answer →
      holds (edits.foldl View.edit start.view)) : holds after.view := by
  cases ends with
  | refused other book took => exact took.view ▸ now
  | found finds took => exact took.view ▸ now
  | done effect took => exact took.view ▸ later effect
  | unheard effect some early took => exact took.view ▸ later effect

theorem Ends.effective (ends : start.Ends request outcome after) :
    after.view = start.view ∨ ∃ edits funds told answer, start.Effect request edits funds told answer ∧
      after.view = edits.foldl View.edit start.view ∧
      (outcome = .ok answer ∨ outcome = .error .receiverFailed) := by
  cases ends with
  | refused other book took => exact .inl took.view
  | found finds took => exact .inl took.view
  | done effect took => exact .inr ⟨_, _, _, _, effect, took.view, .inl rfl⟩
  | unheard effect some early took => exact .inr ⟨_, _, _, _, effect, took.view, .inr rfl⟩

end Desk

/-- Stores that requests reach from the empty one, at any desks whose journal is left alone: whoever is
let in, whatever the clock and the settings say, and whichever calls of the store are disturbed. -/
inductive Journal.Reached : Journal → Prop
  | empty : Reached .empty
  | operation {desk : Desk Journal} (request : Operation) (reached : Reached desk.store)
      (tame : desk.Tame) : Reached (request.run.perform desk).2.store

namespace Journal

theorem emptyRegular : Tables.empty.view.Regular :=
  ⟨nofun, nofun, nofun⟩

theorem Reached.ready {desk : Desk Journal} (reached : desk.store.Reached) (tame : desk.Tame) :
    desk.Ready := by
  generalize made : desk.store = store at reached
  induction reached generalizing desk with
  | empty =>
    refine ⟨tame, ?_, ?_⟩
    · rw [made]
      exact .outside _
    · rw [Desk.view, made]
      exact emptyRegular
  | @operation before request reached tame' ih =>
    have after := ((request.ends (ih tame' rfl)).ready (ih tame' rfl))
    refine ⟨tame, made ▸ after.idle, ?_⟩
    rw [Desk.view, made]
    exact after.regular

theorem Reached.regular {store : Journal} (reached : store.Reached) : store.tables.view.Regular := by
  induction reached with
  | empty => exact emptyRegular
  | operation request reached tame =>
    have ready := reached.ready tame
    exact ((request.ends ready).ready ready).regular

theorem Reached.keeps {holds : View → Prop} {store : Journal} (reached : store.Reached)
    (first : holds Tables.empty.view)
    (next : ∀ {desk : Desk Journal} {request edits funds told answer}, desk.view.Regular → holds desk.view →
      desk.Effect request edits funds told answer → holds (edits.foldl View.edit desk.view)) :
    holds store.tables.view := by
  induction reached with
  | empty => exact first
  | operation request reached tame ih =>
    have ready := reached.ready tame
    exact (request.ends ready).keeps ih fun effect => next ready.regular ih effect

end Journal
end BoxOffice
