import BoxOffice.Proofs.History.Events
import BoxOffice.Proofs.History.Tickets

/-! What tickets and registrations refer to. No table is tied to another one; that each ticket and each
registration belongs to an event of the store comes from the requests, as each of them was made at a step that
found the event, and as no event goes away or changes its organizer. -/
namespace BoxOffice

theorem Raw.sameTrans {a b c : Raw} (first : a.same b = true) (second : b.same c = true) :
    a.same c = true := by
  rw [same, Bool.and_eq_true, alikeIffKey] at first second ⊢
  exact ⟨first.1.trans second.1, first.2⟩

namespace Step
variable {steps : List Step} {desk : Desk Journal}

theorem takeAllConcat (steps more : List Step) (desk : Desk Journal) :
    (takeAll (steps ++ more) desk).2 = (takeAll more (takeAll steps desk).2).2 := by
  induction steps generalizing desk with
  | nil => rfl
  | cons step rest ih => exact ih (step.take desk).2

theorem takeAllTurns {holds : View → Prop} (before : ¬holds desk.view)
    (after : holds (takeAll steps desk).2.view) :
    ∃ first step rest, steps = first ++ step :: rest ∧ ¬holds (takeAll first desk).2.view ∧
      holds (step.take (takeAll first desk).2).2.view := by
  induction steps generalizing desk with
  | nil => exact absurd after before
  | cons step rest ih =>
    by_cases here : holds (step.take desk).2.view
    · exact ⟨[], step, rest, rfl, before, here⟩
    · obtain ⟨first, turning, last, rfl, not, comes⟩ := ih here after
      exact ⟨step :: first, turning, last, rfl, not, comes⟩

theorem takeAllChecks (ordinary : ∀ step ∈ steps, step.Ordinary) (reached : desk.store.Reached)
    (tame : desk.Tame) : (takeAll steps desk).2.checksEvents = desk.checksEvents := by
  induction steps generalizing desk with
  | nil => rfl
  | cons step rest ih =>
    obtain ⟨first, ordinary⟩ := List.forall_mem_cons.mp ordinary
    obtain ⟨reached', tame'⟩ := takeReached first reached tame
    exact (ih ordinary reached' tame').trans (takeChecks first reached tame)

end Step

structure Step.Issues (step : Step) (desk : Desk Journal) (label : Label) (ticket : Ticket) : Prop where
  asks : ∃ owner, step = .operation (.mintTicket ticket.organizer (.text ticket.event.text) owner)
  new : desk.view.tickets.get? label = none
  issued : ∃ first, (step.take desk).2.view.tickets.get? label = some first ∧ first.Continues ticket
  event : ∃ event, desk.view.events.get? ticket.event = some event ∧
    event.organizer.same ticket.organizer = true ∧ (event.status = .upcoming ∨ event.status = .active)

structure Step.Places (step : Step) (desk : Desk Journal) (key : EventId × Label) (r : Registration) :
    Prop where
  asks : step = .operation (.registerForEvent r.attendee (.text r.event.text) r.tier)
  new : desk.view.registrations.get? key = none
  placed : (step.take desk).2.view.registrations.get? key = some r
  event : ∃ event, desk.view.events.get? r.event = some event ∧ event.status = .active

structure View.Refers (v : View) : Prop where
  tickets : ∀ {label ticket}, v.tickets.get? label = some ticket →
    ∃ event, v.events.get? ticket.event = some event ∧ event.organizer.same ticket.organizer = true
  registrations : ∀ {key r}, v.registrations.get? key = some r →
    ∃ event, v.events.get? r.event = some event ∧ ∃ tier ∈ event.tiers, tier.id.same r.tier = true

structure Desk.Admits (desk : Desk Journal) (caller given : Raw) (label : Label) : Prop where
  verified : desk.Verified caller
  named : Label.ofRaw? given = some label
  own : ∃ ticket event, desk.view.tickets.get? label = some ticket ∧
    desk.view.events.get? ticket.event = some event ∧ event.organizer.same caller = true

namespace Desk
variable {desk : Desk Journal} {request : Operation} {edits : List Edit} {funds : Funds}
  {told : List Notice} {answer : Answer} {label : Label} {ticket : Ticket} {id : EventId} {event : Event}

theorem Effect.issues (effect : desk.Effect request edits funds told answer) (ownership : desk.view.Ownership)
    (checks : desk.checksEvents = true) (new : desk.view.tickets.get? label = none)
    (made : (edits.foldl View.edit desk.view).tickets.get? label = some ticket) :
    (∃ owner, request = .mintTicket ticket.organizer (.text ticket.event.text) owner) ∧
    ∃ event, desk.view.events.get? ticket.event = some event ∧
      event.organizer.same ticket.organizer = true ∧ (event.status = .upcoming ∨ event.status = .active) := by
  have turn := effect.ticketTurns ownership label
  rw [new, made] at turn
  cases turn with
  | made fresh =>
    cases effect with
    | @minted organizer given owner id party verified named someone issues =>
      by_cases here : label = .numbered desk.nextTicket
      · subst here
        cases (Table.getPutSame _ _ _).symm.trans made
        exact ⟨⟨owner, by rw [named]⟩, issues checks⟩
      · cases new.symm.trans ((Table.getPutOther _ here _).symm.trans made)
    | ticketTransferred | ticketUsed | ticketCancelled => cases fresh.2
    | _ => cases new.symm.trans made

theorem Effect.places (effect : desk.Effect request edits funds told answer) {key : EventId × Label}
    {r : Registration} (new : desk.view.registrations.get? key ≠ some r)
    (made : (edits.foldl View.edit desk.view).registrations.get? key = some r) :
    request = .registerForEvent r.attendee (.text r.event.text) r.tier ∧
    desk.view.registrations.get? key = none ∧
    ∃ event, desk.view.events.get? r.event = some event ∧ event.status = .active := by
  cases effect with
  | @registered attendee given named event tier sold label verified names active found party free =>
    by_cases here : key = (event.id, label)
    · subst here
      cases (Table.getPutSame _ _ _).symm.trans made
      exact ⟨by rw [names.named], free, event, names.stored, active⟩
    · exact absurd ((Table.getPutOther _ here _).symm.trans made) new
  | ticketTransferred =>
    rw [View.handedTo] at made
    exact absurd made new
  | _ => exact absurd made new

theorem Effect.ticketsClosed (effect : desk.Effect request edits funds told answer)
    (checks : desk.checksEvents = true) (stored : desk.view.events.get? id = some event)
    (closed : event.status.Closed) :
    (edits.foldl View.edit desk.view).eventTickets id = desk.view.eventTickets id := by
  cases effect with
  | @minted organizer given owner other party verified named someone issues =>
    have apart : id ≠ other := by
      rintro rfl
      obtain ⟨found, stored', _, opened⟩ := issues checks
      cases stored.symm.trans stored'
      rcases opened with status | status <;> simp [EventStatus.Closed, status] at closed
    exact Function.update_of_ne apart _ _
  | ticketTransferred => rw [View.handedTo]; rfl
  | _ => rfl

theorem Effect.checksIn (effect : desk.Effect request edits funds told answer)
    (ownership : desk.view.Ownership) (refers : desk.view.Refers) {later : Ticket}
    (unused : ∀ ticket, desk.view.tickets.get? label = some ticket → ticket.status ≠ .used)
    (made : (edits.foldl View.edit desk.view).tickets.get? label = some later) (used : later.status = .used) :
    ∃ caller given, request = .useTicket caller given ∧ desk.Admits caller given label := by
  have turn := effect.ticketTurns ownership label
  rw [made] at turn
  generalize before : desk.view.tickets.get? label = record at turn
  cases turn with
  | kept => exact absurd used (unused _ before)
  | made fresh => cases used.symm.trans fresh.1
  | changed handles =>
    cases handles with
    | handed verified named own valid => cases used.symm.trans valid
    | cancelled => cases used
    | @used organizer given verified named own valid =>
      obtain ⟨event, stored, same⟩ := refers.tickets before
      exact ⟨organizer, given, rfl, verified, named, _, event, before, stored, Raw.sameTrans same own⟩

theorem Ends.admits {after : Desk Journal} {caller given : Raw} (refers : desk.view.Refers)
    (ends : desk.Ends (.useTicket caller given) (.ok answer) after) :
    ∃ label, desk.Admits caller given label := by
  cases ends with
  | found finds => cases finds
  | done effect =>
    cases effect with
    | @ticketUsed _ _ label ticket verified holds own =>
      obtain ⟨event, stored, same⟩ := refers.tickets holds.stored
      exact ⟨label, verified, holds.named, ticket, event, holds.stored, stored, Raw.sameTrans same own⟩

end Desk

namespace Step
variable {step : Step} {steps : List Step} {desk : Desk Journal} {label : Label} {id : EventId} {event : Event}

theorem takeAllIssues (ordinary : ∀ step ∈ steps, step.Ordinary) (reached : desk.store.Reached)
    (tame : desk.Tame) (checks : desk.checksEvents = true) (new : desk.view.tickets.get? label = none)
    {ticket : Ticket} (stored : (takeAll steps desk).2.view.tickets.get? label = some ticket) :
    ∃ first step rest, steps = first ++ step :: rest ∧ step.Issues (takeAll first desk).2 label ticket := by
  have unstored : ¬(desk.view.tickets.get? label).isSome = true := by simp [new]
  have comes : ((takeAll steps desk).2.view.tickets.get? label).isSome = true := by simp [stored]
  obtain ⟨first, step, rest, rfl, not, here⟩ :=
    @takeAllTurns _ _ (fun v => (v.tickets.get? label).isSome = true) unstored comes
  obtain ⟨early, late⟩ := List.forall_mem_append.mp ordinary
  obtain ⟨now, late⟩ := List.forall_mem_cons.mp late
  obtain ⟨reached', tame'⟩ := takeAllReached early reached tame
  have checks' := (takeAllChecks early reached tame).trans checks
  have none := Option.not_isSome_iff_eq_none.mp not
  obtain ⟨made, found⟩ := Option.isSome_iff_exists.mp here
  -- The ticket goes on from the one that was made here, so it has the same event and organizer.
  have continues : made.Continues ticket := by
    obtain ⟨reached'', tame''⟩ := takeReached now reached' tame'
    obtain ⟨last, there, continues⟩ := takeAllTicketsContinue late reached'' tame'' label made found
    rw [takeAllConcat] at stored
    cases there.symm.trans stored
    exact continues
  obtain unchanged | ⟨request, edits, funds, told, answer, rfl, effect, changed, _⟩ :=
    takeEffective now reached' tame'
  · rw [unchanged, none] at found
    cases found
  · have made := changed ▸ found
    obtain ⟨⟨owner, asked⟩, event⟩ := effect.issues reached'.ownership checks' none made
    rw [← continues.event, ← continues.organizer] at asked event
    exact ⟨first, _, rest, rfl, ⟨owner, congrArg _ asked⟩, none, ⟨_, found, continues⟩, event⟩

theorem takeAllPlaces (ordinary : ∀ step ∈ steps, step.Ordinary) (reached : desk.store.Reached)
    (tame : desk.Tame) {key : EventId × Label} {r : Registration}
    (new : desk.view.registrations.get? key = none)
    (stored : (takeAll steps desk).2.view.registrations.get? key = some r) :
    ∃ first step rest, steps = first ++ step :: rest ∧ step.Places (takeAll first desk).2 key r := by
  have unstored : ¬desk.view.registrations.get? key = some r := by simp [new]
  obtain ⟨first, step, rest, rfl, not, here⟩ :=
    @takeAllTurns _ _ (fun v => v.registrations.get? key = some r) unstored stored
  obtain ⟨early, late⟩ := List.forall_mem_append.mp ordinary
  obtain ⟨reached', tame'⟩ := takeAllReached early reached tame
  obtain unchanged | ⟨request, edits, funds, told, answer, rfl, effect, changed, _⟩ :=
    takeEffective (late step List.mem_cons_self) reached' tame'
  · exact absurd (unchanged ▸ here) not
  · obtain ⟨asked, none, event⟩ := effect.places not (changed ▸ here)
    exact ⟨first, _, rest, rfl, congrArg _ asked, none, here, event⟩

theorem takeAllTicketsClosed (ordinary : ∀ step ∈ steps, step.Ordinary) (reached : desk.store.Reached)
    (tame : desk.Tame) (checks : desk.checksEvents = true) (stored : desk.view.events.get? id = some event)
    (closed : event.status.Closed) :
    (takeAll steps desk).2.view.eventTickets id = desk.view.eventTickets id := by
  induction steps generalizing desk with
  | nil => rfl
  | cons step rest ih =>
    obtain ⟨first, ordinary⟩ := List.forall_mem_cons.mp ordinary
    obtain ⟨reached', tame'⟩ := takeReached first reached tame
    have kept : (step.take desk).2.view.events.get? id = some event ∧
        (step.take desk).2.view.eventTickets id = desk.view.eventTickets id := by
      obtain same | ⟨request, edits, funds, told, answer, rfl, effect, changed, _⟩ :=
        takeEffective first reached tame
      · rw [same]
        exact ⟨stored, rfl⟩
      · rw [changed]
        obtain ⟨later, found, continues, _⟩ := effect.continues reached.regular id event stored
        exact ⟨continues.closed closed ▸ found, effect.ticketsClosed checks stored closed⟩
    exact (ih ordinary reached' tame' ((takeChecks first reached tame).trans checks) kept.1).trans kept.2

end Step

/-- What a run of requests has made of a desk that checks events, and what comes of it later. -/
structure Desk.Referring (steps : List Step) (start desk : Desk Journal) : Prop where
  refers : desk.view.Refers
  issued : ∀ {label ticket}, desk.view.tickets.get? label = some ticket →
    ∃ first step rest, steps = first ++ step :: rest ∧ step.Issues (Step.takeAll first start).2 label ticket
  placed : ∀ {key r}, desk.view.registrations.get? key = some r →
    ∃ first step rest, steps = first ++ step :: rest ∧ step.Places (Step.takeAll first start).2 key r
  closed : ∀ {id event}, desk.view.events.get? id = some event → event.status.Closed →
    ∀ more : List Step, (∀ step ∈ more, step.Ordinary) →
      (Step.takeAll more desk).2.view.eventTickets id = desk.view.eventTickets id ∧
      (Step.takeAll more desk).2.view.attendees id = desk.view.attendees id
  used : ∀ step : Step, step.Ordinary → ∀ {label later},
    (∀ ticket, desk.view.tickets.get? label = some ticket → ticket.status ≠ .used) →
    (step.take desk).2.view.tickets.get? label = some later → later.status = .used →
    ∃ caller given, step = .operation (.useTicket caller given) ∧ desk.Admits caller given label
  answered : ∀ caller given answer, ((Operation.useTicket caller given).run.perform desk).1 = .ok answer →
    ∃ label, desk.Admits caller given label

/-- In a run of ordinary steps, at a desk that checks the events of tickets, each ticket is issued by the
organizer of its event before that is over, each registration is made while its event is open, and both still
belong to their events at the end of the run. An event that is over gets no more tickets and no more attendees,
and only the organizer of its event checks a ticket in. -/
theorem recordsRefer {desk : Desk Journal} (empty : desk.store = .empty) (tame : desk.Tame)
    (checks : desk.checksEvents = true) {steps : List Step} (ordinary : ∀ step ∈ steps, step.Ordinary) :
    Desk.Referring steps desk (Step.takeAll steps desk).2 := by
  have start : desk.store.Reached := empty ▸ .empty
  obtain ⟨reached, tame'⟩ := Step.takeAllReached ordinary start tame
  have checks' := (Step.takeAllChecks ordinary start tame).trans checks
  have bare : desk.view = Tables.empty.view := by rw [Desk.view, empty]; rfl
  have issued {label ticket} (stored : (Step.takeAll steps desk).2.view.tickets.get? label = some ticket) :=
    Step.takeAllIssues ordinary start tame checks (by rw [bare]; rfl) stored
  have refers : (Step.takeAll steps desk).2.view.Refers := by
    refine ⟨fun {label ticket} stored => ?_, fun {key r} stored => ?_⟩
    · obtain ⟨first, step, rest, rfl, issues⟩ := issued stored
      obtain ⟨early, late⟩ := List.forall_mem_append.mp ordinary
      obtain ⟨reached, tame⟩ := Step.takeAllReached early start tame
      obtain ⟨event, there, own, _⟩ := issues.event
      obtain ⟨later, found, continues, _⟩ := Step.takeAllContinues late reached tame ticket.event event there
      rw [Step.takeAllConcat]
      exact ⟨later, found, continues.organizer ▸ own⟩
    · exact reached.inventory.placed r (Table.valueMem stored)
  refine ⟨refers, issued, fun stored => ?_, fun stored closed more ordinary' => ?_, ?_, ?_⟩
  · exact Step.takeAllPlaces ordinary start tame (by rw [bare]; rfl) stored
  · obtain ⟨_, _, _, listed⟩ := Step.takeAllContinues ordinary' reached tame' _ _ stored
    exact ⟨Step.takeAllTicketsClosed ordinary' reached tame' checks' stored closed, listed closed⟩
  · intro step ordinary' label later unused stored used
    obtain same | ⟨request, edits, funds, told, answer, rfl, effect, changed, _⟩ :=
      Step.takeEffective ordinary' reached tame'
    · exact absurd used (unused later (same ▸ stored))
    · obtain ⟨caller, given, asked, admits⟩ :=
        effect.checksIn reached.ownership refers unused (changed ▸ stored) used
      exact ⟨caller, given, congrArg _ asked, admits⟩
  · intro caller given answer answered
    have ends := (Operation.useTicket caller given).ends (reached.ready tame')
    rw [answered] at ends
    exact ends.admits refers

theorem recordsReferGala :
    let id : EventId := ⟨"gala", rfl⟩
    let mint (owner : String) : Step := .operation (.mintTicket (.text "host") (.text "gala") (.text owner))
    let register (attendee : String) : Step :=
      .operation (.registerForEvent (.text attendee) (.text "gala") (.whole 0))
    let lead (status : String) : Step :=
      .operation (.updateEventStatus (.text "host") (.text "gala") (.text status))
    let steps : List Step :=
      [.operation (.createEvent (.text "host") (.text "gala") (.text "Gala") .nothing (.text "Hall")
        (some ⟨2 * Moment.microsPerDay, some 0⟩) [⟨.text "Stalls", .whole 5, .whole 2⟩]),
      mint "ann", lead "active", .breakStore ⟨"add_registration", true⟩, register "bob", register "bob",
      lead "completed"]
    let more : List Step := [mint "carl", register "carl", .operation (.useTicket (.text "host") (.whole 1))]
    let desk : Desk Journal :=
      .opened .empty none (some ⟨0, some 0⟩) .standard (.text "escrow") true true
    let after := (Step.takeAll steps desk).2
    let later := (Step.takeAll more after).2.view
    (∀ step ∈ steps ++ more, step.Ordinary) ∧ Desk.Referring steps desk after ∧
      later.eventTickets id = [.whole 1] ∧ later.attendees id = [.text "bob"] ∧
      (later.tickets.get? (.numbered 1)).map Ticket.status = some .used := by
  intro id mint register lead steps more desk after later
  have ordinary : ∀ step ∈ steps ++ more, step.Ordinary := by
    simp [steps, more, mint, register, lead, Step.Ordinary, entryMethod]
  have tame : desk.Tame := by
    intro fault mem
    cases mem
  obtain ⟨early, late⟩ := List.forall_mem_append.mp ordinary
  have referring : Desk.Referring steps desk after := @recordsRefer desk rfl tame rfl steps early
  have ended : (after.view.events.get? id).map Event.status = some .completed := by decide +kernel
  obtain ⟨event, stored, status⟩ := Option.map_eq_some_iff.mp ended
  obtain ⟨tickets, attendees⟩ := referring.closed stored (.inl status) more late
  have issued : after.view.eventTickets id = [.whole 1] := by decide +kernel
  have listed : after.view.attendees id = [.text "bob"] := by decide +kernel
  have used : (later.tickets.get? (.numbered 1)).map Ticket.status = some .used := by decide +kernel
  exact ⟨ordinary, referring, tickets.trans issued, attendees.trans listed, used⟩

end BoxOffice
