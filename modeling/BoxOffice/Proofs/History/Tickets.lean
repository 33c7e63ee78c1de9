import BoxOffice.Proofs.History.Alteration

/-! The history of tickets. A ticket changes hands while it is valid; once it is used or cancelled nothing
changes it any more, and every request to do so is refused. -/
namespace BoxOffice

inductive TicketStatus.Follows : TicketStatus → TicketStatus → Prop
  | used : Follows valid used
  | cancelled : Follows valid cancelled

structure Ticket.Continues (ticket later : Ticket) : Prop where
  id : later.id = ticket.id
  event : later.event = ticket.event
  organizer : later.organizer = ticket.organizer
  issuedAt : later.issuedAt = ticket.issuedAt
  status : later.status = ticket.status ∨ ticket.status.Follows later.status
  ended : ticket.status ≠ .valid → later = ticket

theorem TicketStatus.Follows.ended {old new : TicketStatus} (follows : old.Follows new) : new ≠ .valid := by
  cases follows <;> nofun

namespace Ticket.Continues
variable {ticket middle later : Ticket}

theorem refl (ticket : Ticket) : ticket.Continues ticket :=
  ⟨rfl, rfl, rfl, rfl, .inl rfl, fun _ => rfl⟩

theorem trans (early : ticket.Continues middle) (late : middle.Continues later) : ticket.Continues later where
  id := late.id.trans early.id
  event := late.event.trans early.event
  organizer := late.organizer.trans early.organizer
  issuedAt := late.issuedAt.trans early.issuedAt
  status := by
    obtain same | follows := early.status
    · rw [← same]
      exact late.status
    · rw [late.ended follows.ended]
      exact .inr follows
  ended ended := by
    obtain rfl := early.ended ended
    exact late.ended ended

end Ticket.Continues

namespace Desk
variable {desk : Desk Journal} {request : Operation} {edits : List Edit} {funds : Funds}
  {told : List Notice} {answer : Answer} {label : Label} {ticket later : Ticket}

theorem Handles.valid (handles : desk.Handles label ticket request later) : ticket.status = .valid := by
  cases handles <;> assumption

theorem Handles.continues (handles : desk.Handles label ticket request later) : ticket.Continues later := by
  have ended (other : ticket.status ≠ .valid) : later = ticket := absurd handles.valid other
  cases handles with
  | handed => exact ⟨rfl, rfl, rfl, rfl, .inl rfl, ended⟩
  | used verified named own valid => exact ⟨rfl, rfl, rfl, rfl, .inr (valid ▸ .used), ended⟩
  | cancelled verified named own valid => exact ⟨rfl, rfl, rfl, rfl, .inr (valid ▸ .cancelled), ended⟩

theorem Effect.handles (effect : desk.Effect request edits funds told answer) {given : Raw}
    (about : request.ticket? = some given) : ∃ label ticket later, Label.ofRaw? given = some label ∧
      desk.view.tickets.get? label = some ticket ∧ desk.Handles label ticket request later := by
  cases effect with
  | ticketTransferred verified differ someone holds own valid =>
    cases about
    exact ⟨_, _, _, holds.named, holds.stored, .handed verified holds.named own valid⟩
  | ticketUsed verified holds own valid =>
    cases about
    exact ⟨_, _, _, holds.named, holds.stored, .used verified holds.named own valid⟩
  | ticketCancelled verified holds own valid =>
    cases about
    exact ⟨_, _, _, holds.named, holds.stored, .cancelled verified holds.named own valid⟩
  | _ => cases about

theorem Effect.handlesValid (effect : desk.Effect request edits funds told answer) {given : Raw}
    (about : request.ticket? = some given) (named : Label.ofRaw? given = some label)
    (stored : desk.view.tickets.get? label = some ticket) : ticket.status = .valid := by
  obtain ⟨label', ticket', later, named', stored', handles⟩ := effect.handles about
  cases named.symm.trans named'
  cases stored.symm.trans stored'
  exact handles.valid

theorem Finds.noTicket (finds : desk.Finds request answer) : request.ticket? = none := by
  cases finds <;> rfl

theorem endedRefused (ready : desk.Ready) (stored : desk.view.tickets.get? label = some ticket)
    (ended : ticket.status ≠ .valid) {given : Raw} (about : request.ticket? = some given)
    (named : Label.ofRaw? given = some label) :
    ∃ failure, (request.run.perform desk).1 = .error failure ∧ failure ≠ .receiverFailed := by
  have ends := request.ends ready
  generalize (request.run.perform desk).1 = outcome at ends ⊢
  cases ends with
  | refused other book took => exact ⟨_, rfl, other⟩
  | found finds took => cases finds.noTicket.symm.trans about
  | done effect took => exact absurd (effect.handlesValid about named stored) ended
  | unheard effect some early took => exact absurd (effect.handlesValid about named stored) ended

end Desk

def View.TicketsContinue (v w : View) : Prop :=
  ∀ label ticket, v.tickets.get? label = some ticket →
    ∃ later, w.tickets.get? label = some later ∧ ticket.Continues later

namespace View.TicketsContinue
variable {v w u : View}

theorem refl (v : View) : v.TicketsContinue v :=
  fun _ ticket stored => ⟨ticket, stored, .refl ticket⟩

theorem trans (early : v.TicketsContinue w) (late : w.TicketsContinue u) : v.TicketsContinue u := by
  intro label ticket stored
  obtain ⟨middle, here, first⟩ := early label ticket stored
  obtain ⟨later, there, second⟩ := late label middle here
  exact ⟨later, there, first.trans second⟩

end View.TicketsContinue

theorem Desk.Effect.ticketsContinue {desk : Desk Journal} {request : Operation} {edits : List Edit}
    {funds : Funds} {told : List Notice} {answer : Answer}
    (effect : desk.Effect request edits funds told answer) (ownership : desk.view.Ownership) :
    desk.view.TicketsContinue (edits.foldl View.edit desk.view) := by
  intro label ticket stored
  obtain same | ⟨later, there, handles⟩ := (effect.ticketTurns ownership label).stored stored
  · exact ⟨ticket, same, .refl ticket⟩
  · exact ⟨later, there, handles.continues⟩

theorem Step.takeAllTicketsContinue {steps : List Step} {desk : Desk Journal}
    (ordinary : ∀ step ∈ steps, step.Ordinary) (reached : desk.store.Reached) (tame : desk.Tame) :
    desk.view.TicketsContinue (takeAll steps desk).2.view :=
  takeAllKeeps ordinary reached tame (View.TicketsContinue.refl _) fun reached early effect =>
    View.TicketsContinue.trans early (effect.ticketsContinue reached.ownership)

/-- The tickets of an earlier desk go on at a later one, and those that were used or cancelled by then can no
longer be handed on, used or cancelled. -/
structure Desk.TicketsLast (earlier later : Desk Journal) : Prop where
  continues : earlier.view.TicketsContinue later.view
  ended : ∀ label ticket, earlier.view.tickets.get? label = some ticket → ticket.status ≠ .valid →
    ∀ (request : Operation) given, request.ticket? = some given → Label.ofRaw? given = some label →
      ∃ failure, (request.run.perform later).1 = .error failure ∧ failure ≠ .receiverFailed

def Operation.ending (label : Label) : Operation → Option TicketStatus
  | useTicket _ given => if Label.ofRaw? given = some label then some .used else none
  | cancelTicket _ given => if Label.ofRaw? given = some label then some .cancelled else none
  | _ => none

namespace View

def endings (v : View) (label : Label) : List TicketStatus :=
  match v.tickets.get? label with
  | some ticket => if ticket.status = .valid then [] else [ticket.status]
  | none => []

theorem endingsHandled {v : View} {label : Label} {ticket : Ticket}
    (stored : v.tickets.get? label = some ticket) (valid : ticket.status = .valid) (later : Ticket)
    (other : Label) : (v.edit (.ticket label later)).endings other =
      v.endings other ++ if label = other ∧ later.status ≠ .valid then [later.status] else [] := by
  unfold endings
  by_cases here : other = label
  · subst here
    simp [View.edit, Table.getPutSame, stored, valid]
  · simp [View.edit, Table.getPutOther _ here, Ne.symm here]

theorem endingsOnce (v : View) (label : Label) : (v.endings label).length ≤ 1 := by
  unfold endings
  split
  · split <;> simp
  · simp

end View

theorem Desk.Effect.endingsGrow {desk : Desk Journal} {request : Operation} {edits : List Edit}
    {funds : Funds} {told : List Notice} {answer : Answer}
    (effect : desk.Effect request edits funds told answer) (ownership : desk.view.Ownership)
    (label : Label) : (edits.foldl View.edit desk.view).endings label =
      desk.view.endings label ++ (request.ending label).toList := by
  cases effect with
  | @minted organizer given owner id party verified named someone issues =>
    have new : desk.view.tickets.get? (.numbered desk.nextTicket) = none := ownership.series.fresh
    by_cases here : label = .numbered desk.nextTicket
    · subst here
      simp [View.edit, View.endings, new, Table.getPutSame, Operation.ending]
    · simp [View.edit, View.endings, Table.getPutOther _ here, Operation.ending]
  | ticketTransferred verified differ someone holds own valid =>
    rw [View.handedTo]
    have handed := View.endingsHandled holds.stored valid
    exact (handed _ label).trans (by simp [valid, Operation.ending])
  | ticketUsed verified holds own valid =>
    have used := View.endingsHandled holds.stored valid
    exact (used _ label).trans (by simp [Operation.ending, holds.named, Option.toList]; split <;> rfl)
  | ticketCancelled verified holds own valid =>
    have cancelled := View.endingsHandled holds.stored valid
    exact (cancelled _ label).trans (by simp [Operation.ending, holds.named, Option.toList]; split <;> rfl)
  | _ => exact (List.append_nil _).symm

theorem endingsGrown (label : Label) : Grows (Operation.ending label) fun v => v.endings label where
  found finds := by cases finds <;> rfl
  grown reached effect := effect.endingsGrow reached.ownership label

/-- From any state of a run of ordinary steps on, every ticket that is stored there goes on as tickets do, and
in the whole run not more than one use or cancellation of a ticket takes effect. -/
theorem ticketHistory {desk : Desk Journal} (empty : desk.store = .empty) (tame : desk.Tame)
    {steps : List Step} (ordinary : ∀ step ∈ steps, step.Ordinary) :
    let earlier := (Step.takeAll steps desk).2
    (∀ more : List Step, (∀ step ∈ more, step.Ordinary) →
      earlier.TicketsLast (Step.takeAll more earlier).2) ∧
    ∀ label, ((steps.zip (Step.takeAll steps desk).1).filterMap
      (Step.brought (Operation.ending label))).length ≤ 1 := by
  intro earlier
  have start : desk.store.Reached := empty ▸ .empty
  obtain ⟨reached, tame'⟩ := Step.takeAllReached ordinary start tame
  refine ⟨fun more ordinary' => ?_, fun label => ?_⟩
  · obtain ⟨later, tame''⟩ := Step.takeAllReached ordinary' reached tame'
    have continues := Step.takeAllTicketsContinue ordinary' reached tame'
    refine ⟨continues, fun label ticket stored ended request given about named => ?_⟩
    obtain ⟨after, last, same⟩ := continues label ticket stored
    obtain rfl := same.ended ended
    exact Desk.endedRefused (later.ready tame'') last ended about named
  · have none : desk.view.endings label = [] := by
      rw [Desk.view, empty]
      rfl
    have grown := (endingsGrown label).takeAll ordinary start tame
    rw [none, List.nil_append] at grown
    rw [← grown]
    exact View.endingsOnce _ label

theorem ticketHistoryGala :
    let use : Step := .operation (.useTicket (.text "host") (.whole 1))
    let cancel : Step := .operation (.cancelTicket (.text "ann") (.whole 1))
    let steps : List Step :=
      [.operation (.mintTicket (.text "host") (.text "gala") (.text "ann")),
      .breakStore ⟨"save_ticket", true⟩, use, cancel, use, cancel]
    let more : List Step := [.operation (.transferTicket (.text "ann") (.text "bob") (.whole 1)), use]
    let desk : Desk Journal := .opened .empty none none .standard (.text "escrow") false true
    let ran := Step.takeAll steps desk
    let ended := (steps.zip ran.1).filterMap (Step.brought (Operation.ending (.numbered 1)))
    (∀ step ∈ steps ++ more, step.Ordinary) ∧ ran.2.TicketsLast (Step.takeAll more ran.2).2 ∧
      ended.length ≤ 1 ∧ ended = [.cancelled] ∧
      (Step.takeAll more ran.2).2.view.tickets.get? (.numbered 1) =
        some ⟨.whole 1, ⟨"gala", rfl⟩, .text "host", .text "ann", none, .cancelled⟩ := by
  intro use cancel steps more desk ran ended
  have ordinary : ∀ step ∈ steps ++ more, step.Ordinary := by
    simp [steps, more, use, cancel, Step.Ordinary, entryMethod]
  have tame : desk.Tame := by
    intro fault mem
    cases mem
  have early : ∀ step ∈ steps, step.Ordinary := fun step mem => ordinary step (List.mem_append_left _ mem)
  have late : ∀ step ∈ more, step.Ordinary := fun step mem => ordinary step (List.mem_append_right _ mem)
  obtain ⟨lasts, once⟩ := @ticketHistory desk rfl tame steps early
  have one : ended = [.cancelled] := by decide +kernel
  have last : (Step.takeAll more ran.2).2.view.tickets.get? (.numbered 1) =
      some ⟨.whole 1, ⟨"gala", rfl⟩, .text "host", .text "ann", none, .cancelled⟩ := by
    decide +kernel
  exact ⟨ordinary, lasts more late, once _, one, last⟩

end BoxOffice
