import BoxOffice.Proofs.History.Alteration
import BoxOffice.Proofs.Takings

/-! Who may change which record. A request changes the records it names, for a verified caller who is entitled
to the change, and leaves all others as they are; a caller who is not verified changes nothing. -/
namespace BoxOffice

/- Whoever asks for a change, but for the setting up of the escrow, which answers anybody once it is done. -/
def Operation.caller : Operation → Option Raw
  | createEvent caller _ _ _ _ _ _ | updateEventDetails caller _ _ | addTicketTier caller _ _
  | updateTier caller _ _ _ | updateEventStatus caller _ _ | cancelEvent caller _
  | registerForEvent caller _ _ | payForTicket caller _ _ | mintTicket caller _ _
  | transferTicket caller _ _ | useTicket caller _ | cancelTicket caller _ => some caller
  | _ => none

namespace Action
variable {σ α β : Type} {desk : Desk σ} {failure : Failure}

theorem performFails {first : Action σ α} (failed : first.perform desk = (.error failure, desk))
    (next : α → Action σ β) : (first >>= next).perform desk = (.error failure, desk) := by
  rw [performBind, failed]

theorem performUnverified {caller : Raw} (unknown : (desk.verifier.getD .trustedHost).verify caller = .ok false)
    (refusal : Failure) : (authenticate caller refusal).perform desk = (.error refusal, desk) := by
  rw [authenticate, performBind, performGet]
  simp only [performBind, performExcept, unknown]
  rfl

end Action

namespace View

structure Spared (v w : View) (id : EventId) : Prop where
  event : w.events.get? id = v.events.get? id
  attendees : w.attendees id = v.attendees id
  registrations : ∀ party, w.registrations.get? (id, party) = v.registrations.get? (id, party)
  payments : w.eventPayments id = v.eventPayments id
  revenue : w.revenue.get? id = v.revenue.get? id
  tickets : w.eventTickets id = v.eventTickets id

structure Filed (v w : View) : Prop where
  payments : ∀ label payment, v.payments.get? label = some payment → w.payments.get? label = some payment
  registrations : ∀ key registration, v.registrations.get? key = some registration →
    w.registrations.get? key = some registration

end View

/-- What may become of the records when a request is made: events and tickets change as they may where the
request names them, and all else of what is stored stays as it is. -/
structure Desk.Permits (desk : Desk Journal) (request : Operation) (after : View) : Prop where
  event : ∀ id event, desk.view.events.get? id = some event → after.events.get? id ≠ some event →
    ∃ later, after.events.get? id = some later ∧ request.event? = some (.text id.text) ∧
      desk.Alters request event later
  ticket : ∀ label ticket, desk.view.tickets.get? label = some ticket →
    after.tickets.get? label ≠ some ticket →
    ∃ later, after.tickets.get? label = some later ∧ desk.Handles label ticket request later
  filed : desk.view.Filed after
  otherEvents : ∀ id, request.event? ≠ some (.text id.text) → desk.view.Spared after id
  otherTickets : ∀ label ticket, desk.view.tickets.get? label = some ticket →
    (∀ given, request.ticket? = some given → Label.ofRaw? given ≠ some label) →
    after.tickets.get? label = some ticket
  escrow : (∀ admin currency, request ≠ .setUpEscrow admin currency) → after.escrow = desk.view.escrow

namespace Desk
variable {desk : Desk Journal} {request : Operation} {edits : List Edit} {funds : Funds}
  {told : List Notice} {answer : Answer}

theorem Effect.spared (effect : desk.Effect request edits funds told answer) (regular : desk.view.Regular)
    {id : EventId} (other : request.event? ≠ some (.text id.text)) :
    desk.view.Spared (edits.foldl View.edit desk.view) id := by
  have event : (edits.foldl View.edit desk.view).events.get? id = desk.view.events.get? id := by
    refine (effect.eventTurns regular id).same (fun old new stored alters => ?_) fun _ named => other named
    have named := alters.named.2
    rw [regular.named stored] at named
    exact other named
  have apart {given : Raw} {named : EventId} (same : request.event? = some given)
      (is : given = .text named.text) : id ≠ named := by
    rintro rfl
    exact other (is ▸ same)
  cases effect with
  | registered verified names =>
    have here := apart rfl names.named
    refine ⟨event, Function.update_of_ne here _ _, fun party => ?_, rfl, rfl, rfl⟩
    exact Table.getPutOther _ (fun same => here (Prod.mk.inj same).1) _
  | paid verified named =>
    have here := apart rfl named
    exact ⟨event, rfl, fun _ => rfl, Function.update_of_ne here _ _, Table.getPutOther _ here _, rfl⟩
  | minted verified named =>
    exact ⟨event, rfl, fun _ => rfl, rfl, rfl, Function.update_of_ne (apart rfl named) _ _⟩
  | ticketTransferred =>
    rw [View.handedTo] at event ⊢
    exact ⟨event, rfl, fun _ => rfl, rfl, rfl, rfl⟩
  | _ => exact ⟨event, rfl, fun _ => rfl, rfl, rfl, rfl⟩

theorem Effect.filed (effect : desk.Effect request edits funds told answer) (takings : desk.view.Takings) :
    desk.view.Filed (edits.foldl View.edit desk.view) := by
  cases effect with
  | registered verified names active found party free =>
    refine ⟨fun _ _ stored => stored, fun key registration stored => ?_⟩
    refine (Table.getPutOther _ ?_ _).trans stored
    rintro rfl
    cases free.symm.trans stored
  | paid =>
    refine ⟨fun label payment stored => ?_, fun _ _ stored => stored⟩
    refine (Table.getPutOther _ ?_ _).trans stored
    rintro rfl
    cases takings.series.fresh.symm.trans stored
  | ticketTransferred =>
    rw [View.handedTo]
    exact ⟨fun _ _ stored => stored, fun _ _ stored => stored⟩
  | _ => exact ⟨fun _ _ stored => stored, fun _ _ stored => stored⟩

theorem Effect.escrowSame (effect : desk.Effect request edits funds told answer)
    (other : ∀ admin currency, request ≠ .setUpEscrow admin currency) :
    (edits.foldl View.edit desk.view).escrow = desk.view.escrow := by
  cases effect with
  | escrowSet => exact absurd rfl (other _ _)
  | ticketTransferred => rw [View.handedTo]; rfl
  | _ => rfl

theorem permitsRest (desk : Desk Journal) (request : Operation) : desk.Permits request desk.view where
  event _ _ stored changed := absurd stored changed
  ticket _ _ stored changed := absurd stored changed
  filed := ⟨fun _ _ stored => stored, fun _ _ stored => stored⟩
  otherEvents _ _ := ⟨rfl, rfl, fun _ => rfl, rfl, rfl, rfl⟩
  otherTickets _ _ stored _ := stored
  escrow _ := rfl

theorem Effect.permits (effect : desk.Effect request edits funds told answer)
    (reached : desk.store.Reached) : desk.Permits request (edits.foldl View.edit desk.view) where
  event id event stored changed := by
    obtain same | ⟨later, there, alters⟩ := (effect.eventTurns reached.regular id).stored stored
    · exact absurd same changed
    · have named := alters.named.2
      rw [reached.regular.named stored] at named
      exact ⟨later, there, named, alters⟩
  ticket label ticket stored changed := by
    obtain same | ⟨later, there, handles⟩ := (effect.ticketTurns reached.ownership label).stored stored
    · exact absurd same changed
    · exact ⟨later, there, handles⟩
  filed := effect.filed reached.takings
  otherEvents _ other := effect.spared reached.regular other
  otherTickets label ticket stored other := by
    obtain same | ⟨later, there, handles⟩ := (effect.ticketTurns reached.ownership label).stored stored
    · exact same
    · obtain ⟨given, about, named⟩ := handles.named
      exact absurd named (other given about)
  escrow other := effect.escrowSame other

end Desk

theorem Operation.refusedUnverified (request : Operation) {caller : Raw} (asks : request.caller = some caller) :
    ∃ failure : Failure, failure.code? = some .unauthorized ∧
      failure.words? = some "Caller not authenticated" ∧
      ∀ desk : Desk Journal, (desk.verifier.getD .trustedHost).verify caller = .ok false →
        request.run.perform desk = (.error failure, desk) := by
  have fails {desk : Desk Journal} (unknown : (desk.verifier.getD .trustedHost).verify caller = .ok false)
      (refusal : Failure) := Action.performUnverified unknown refusal
  cases request <;> cases asks
  all_goals
    exact ⟨_, rfl, rfl, fun _ unknown => Action.performFails (Action.performFails (fails unknown _) _) _⟩

/-- Whatever is asked of a desk that requests have led to, succeed or fail: only whoever is entitled to it
changes a stored event or ticket, what is recorded of payments and registrations stays, and nothing else is
touched. A caller who is not verified is refused in one and the same way at every desk. -/
theorem onlyEntitledChange {desk : Desk Journal} (reached : desk.store.Reached) (tame : desk.Tame)
    (request : Operation) :
    desk.Permits request (request.run.perform desk).2.view ∧
    ∀ caller, request.caller = some caller →
      ∃ failure : Failure, failure.code? = some .unauthorized ∧
        failure.words? = some "Caller not authenticated" ∧
        ∀ other : Desk Journal, (other.verifier.getD .trustedHost).verify caller = .ok false →
          request.run.perform other = (.error failure, other) := by
  refine ⟨?_, fun caller asks => request.refusedUnverified asks⟩
  obtain same | ⟨edits, funds, told, answer, effect, changed, _⟩ :=
    (request.ends (reached.ready tame)).effective
  · rw [same]
    exact desk.permitsRest request
  · rw [changed]
    exact effect.permits reached

theorem onlyEntitledChangeGala :
    let id : EventId := ⟨"gala", rfl⟩
    let opened : Desk Journal := .opened .empty (some (.approved [.named "host"])) (some ⟨0, some 0⟩)
      .standard (.text "escrow") false true
    let create : Operation := .createEvent (.text "host") (.text "gala") (.text "Gala") .nothing
      (.text "Hall") (some ⟨2 * Moment.microsPerDay, some 0⟩) [⟨.text "Stalls", .text "5", .whole 1⟩]
    let desk := (create.run.perform opened).2
    let cancel (caller : String) : Operation := .cancelEvent (.text caller) (.text "gala")
    let after := ((cancel "host").run.perform desk).2.view
    desk.Permits (cancel "host") after ∧
      (desk.view.events.get? id).map Event.status = some .upcoming ∧
      (after.events.get? id).map Event.status = some .cancelled ∧
      ∃ failure, (cancel "eve").run.perform desk = (.error failure, desk) ∧
        failure.code? = some .unauthorized ∧ failure.words? = some "Caller not authenticated" := by
  intro id opened create desk cancel after
  have reached : desk.store.Reached := @Journal.Reached.operation opened create .empty nofun
  have tame : desk.Tame := by
    have none : desk.storeFaults = [] := by decide +kernel
    intro fault mem
    rw [none] at mem
    cases mem
  have before : (desk.view.events.get? id).map Event.status = some .upcoming := by decide +kernel
  have last : (after.events.get? id).map Event.status = some .cancelled := by decide +kernel
  obtain ⟨permits, _⟩ := onlyEntitledChange reached tame (cancel "host")
  obtain ⟨_, unverified⟩ := onlyEntitledChange reached tame (cancel "eve")
  obtain ⟨failure, code, words, refused⟩ := unverified (.text "eve") rfl
  have unknown : (desk.verifier.getD .trustedHost).verify (.text "eve") = .ok false := by rfl
  exact ⟨permits, before, last, failure, refused desk unknown, code, words⟩

end BoxOffice
