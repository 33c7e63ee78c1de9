import BoxOffice.Proofs.Desk.Rules

/-! How the requests to the ticket ledger end. -/
namespace BoxOffice.Admission
open BoxOffice.Action
variable {start desk : Desk Journal}

theorem leadsLoad (ready : start.Ready) (given : Raw) (inside : start.Inside start.view desk) :
    (load given).Leads desk (start.Stops [start.view]) fun ticket after =>
      ∃ n : Int, given.key = .whole n ∧ ticket.id = .whole n ∧ start.Holds given (.numbered n) ticket ∧
        start.Inside start.view after := by
  unfold load
  refine bindWork inside fun found none after works inside => ?_
  obtain ⟨label, named, rfl, rfl⟩ := Works.getTicket works
  split
  · rename_i ticket stored
    obtain ⟨n, rfl, id⟩ := ready.regular.ticket stored
    exact leadsPure ⟨n, Raw.keyOfLabel named, id, ⟨named, stored⟩, inside⟩
  · exact leadsThrow (inside.covers _ _ nofun (.refl _))

theorem bindSaveTicket {α : Type} {view : View} {ticket : Ticket} {n : Int}
    {next : Unit → Action Journal α} {holds : α → Desk Journal → Prop} (is : ticket.id = .whole n)
    (inside : start.Inside view desk)
    (later : ∀ after, start.Inside (view.edit (.ticket (.numbered n) ticket)) after →
      (next ()).Leads after (start.Stops [start.view]) holds) :
    (call (.saveTicket ticket) >>= next).Leads desk (start.Stops [start.view]) holds := by
  refine bindWork inside fun _ edits after works inside => ?_
  obtain ⟨label, named, rfl⟩ := Works.saveTicket works
  obtain rfl : label = .numbered n := by
    rw [is] at named
    exact (Option.some.inj named).symm
  exact later after inside

theorem tells {request : Operation} {edits : List Edit} {ticket : Ticket} {given : Raw} {n : Int}
    {change : String} {notice : Notice} (key : given.key = .whole n)
    (effect : start.Effect request edits start.funds [notice] (.ticket ticket))
    (took : start.Took (edits.foldl View.edit start.view) start.funds [] desk) :
    (tell given change notice >>= fun _ => (pure ticket : Action Journal Ticket)).Leads desk
      (fun failure after => start.Ends request (.error failure) after)
      fun ticket after => start.Ends request (.ok (.ticket ticket)) after := by
  unfold tell
  rw [bind_assoc]
  refine bindWhole key fun _ => ?_
  rw [bind_assoc]
  exact bindLog nofun fun after still => tellsOnce effect (took.still still)

theorem leadsRequireEvent (organizer : Raw) (id : EventId) (inside : start.Inside start.view desk) :
    (requireEvent organizer id).Leads desk (start.Stops [start.view]) fun _ after =>
      (∃ event, start.view.events.get? id = some event ∧ event.organizer.same organizer = true ∧
        (event.status = .upcoming ∨ event.status = .active)) ∧ start.Inside start.view after := by
  unfold requireEvent
  refine bindWork inside fun found none after works inside => ?_
  obtain ⟨rfl, rfl⟩ := Works.getEvent works
  split
  · exact leadsThrow (inside.covers _ _ (by simp) (.refl _))
  rename_i event stored
  refine guardCovered (by simp) inside.covers fun own => ?_
  have here : (if event.status ≠ .upcoming ∧ event.status ≠ .active then
      (throw (.ticket .eventOver) : Action Journal Unit) else pure ()).Leads after
      (start.Stops [start.view]) fun _ after =>
        (event.status = .upcoming ∨ event.status = .active) ∧ start.Inside start.view after := by
    split
    · exact leadsThrow (inside.covers _ _ (by simp) (.refl _))
    · rename_i open'
      exact leadsPure ⟨Decidable.or_iff_not_not_and_not.mpr open', inside⟩
  exact leadsMono here (fun _ _ h => h) fun _ _ ends =>
    ⟨⟨event, stored, by simpa using own, ends.1⟩, ends.2⟩

theorem mintEnds (ready : start.Ready) (organizer given owner : Raw) :
    (mint organizer given owner).Concludes start (.mintTicket organizer given owner) .ticket := by
  have covers := ready.started.covers (.mintTicket organizer given owner)
  unfold mint
  refine bindAuthenticate nofun covers fun verified => ?_
  refine bindEventId nofun covers fun id named => ?_
  refine guardCovered nofun covers fun someone => ?_
  let ends (made : Int × Ticket) (edits : List Edit) : Prop :=
    start.Effect (.mintTicket organizer given owner) edits start.funds [.ticketMinted made.1 id owner]
      (.ticket made.2)
  refine bindBlock ends ready.under rfl (fun first inside => ?_) fun made edits after effect took => ?_
  · have makes {desk : Desk Journal} (inside : start.Inside start.view desk)
        (issues : start.Issues organizer id) :
        (do
          let ticketId ← Action.call .nextTicketId
          let now ← Action.now
          let ticket : Ticket := ⟨.whole ticketId, id, organizer, owner, now, .initial⟩
          Action.call (.addTicket ticket)
          return (ticketId, ticket) : Action Journal (Int × Ticket)).Leads desk
        (start.Stops [start.view]) fun made after =>
          ∃ edits, ends made edits ∧ start.Inside (edits.foldl View.edit start.view) after := by
      refine bindWork inside fun number edits after works inside => ?_
      obtain ⟨rfl, rfl⟩ := Works.nextTicketId works
      refine bindNow (bindWork inside fun _ edits after works inside' => ?_)
      obtain ⟨label, party, is, owned, rfl⟩ := Works.addTicket works
      cases is
      rw [inside.kept.clock] at inside' ⊢
      exact leadsPure ⟨_, .minted verified named (by simpa using someone) issues owned, inside'⟩
    refine bindGet ?_
    split
    · refine leadsBind (leadsRequireEvent organizer id inside) fun _ after ⟨event, inside⟩ => ?_
      exact makes inside fun _ => event
    · rename_i unchecked
      refine makes inside fun checks => absurd ?_ unchecked
      rw [inside.kept.checksEvents]
      exact checks
  · obtain ⟨number, ticket⟩ := made
    exact bindLog nofun fun after still => tellsOnce effect (took.still still)

theorem transferEnds (ready : start.Ready) (source target given : Raw) :
    (transfer source target given).Concludes start (.transferTicket source target given) .ticket := by
  have covers := ready.started.covers (.transferTicket source target given)
  unfold transfer
  refine bindAuthenticate nofun covers fun verified => ?_
  refine guardCovered nofun covers fun differ => ?_
  refine guardCovered nofun covers fun someone => ?_
  let ends (made : Ticket) (edits : List Edit) : Prop :=
    (∃ n : Int, given.key = .whole n) ∧
      start.Effect (.transferTicket source target given) edits start.funds
        [.ticketTransferred given source target] (.ticket made)
  refine bindBlock ends ready.under rfl (fun first inside => ?_) fun made edits after end' took => ?_
  · refine leadsBind (leadsLoad ready given inside) fun ticket here ⟨n, key, is, holds, inside⟩ => ?_
    refine guardCovered nofun inside.covers fun own => ?_
    refine guardCovered nofun inside.covers fun valid => ?_
    refine bindSaveTicket is inside fun after inside => ?_
    refine bindWork inside fun _ edits after works inside => ?_
    obtain ⟨giver, taker, party, other, rfl⟩ := Works.moveTicket works
    have effect := Desk.Effect.ticketTransferred verified (by simpa using differ)
      (by simpa using someone) holds (by simpa using own)
      (by simpa [TicketStatus.isTransferable] using valid) party other
    exact leadsPure ⟨_, ⟨⟨n, key⟩, effect⟩, inside⟩
  · obtain ⟨⟨n, key⟩, effect⟩ := end'
    exact tells key effect took

theorem useEnds (ready : start.Ready) (organizer given : Raw) :
    (use organizer given).Concludes start (.useTicket organizer given) .ticket := by
  have covers := ready.started.covers (.useTicket organizer given)
  unfold use
  refine bindAuthenticate nofun covers fun verified => ?_
  let ends (made : Ticket) (edits : List Edit) : Prop :=
    (∃ n : Int, given.key = .whole n) ∧
      start.Effect (.useTicket organizer given) edits start.funds [.ticketUsed given organizer]
        (.ticket made)
  refine bindBlock ends ready.under rfl (fun first inside => ?_) fun made edits after end' took => ?_
  · refine leadsBind (leadsLoad ready given inside) fun ticket here ⟨n, key, is, holds, inside⟩ => ?_
    refine guardCovered nofun inside.covers fun own => ?_
    refine guardCovered nofun inside.covers fun unused => ?_
    refine guardCovered nofun inside.covers fun uncancelled => ?_
    have valid : ticket.status = .valid := by
      cases status : ticket.status <;> simp_all
    refine bindSaveTicket is inside fun after inside => ?_
    exact leadsPure ⟨_, ⟨⟨n, key⟩, .ticketUsed verified holds (by simpa using own) valid⟩, inside⟩
  · obtain ⟨⟨n, key⟩, effect⟩ := end'
    exact tells key effect took

theorem cancelEnds (ready : start.Ready) (caller given : Raw) :
    (cancel caller given).Concludes start (.cancelTicket caller given) .ticket := by
  have covers := ready.started.covers (.cancelTicket caller given)
  unfold cancel
  refine bindAuthenticate nofun covers fun verified => ?_
  let ends (made : Ticket) (edits : List Edit) : Prop :=
    (∃ n : Int, given.key = .whole n) ∧
      start.Effect (.cancelTicket caller given) edits start.funds [.ticketCancelled given caller]
        (.ticket made)
  refine bindBlock ends ready.under rfl (fun first inside => ?_) fun made edits after end' took => ?_
  · refine leadsBind (leadsLoad ready given inside) fun ticket here ⟨n, key, is, holds, inside⟩ => ?_
    refine guardCovered nofun inside.covers fun own => ?_
    refine guardCovered nofun inside.covers fun allowed => ?_
    have valid : ticket.status = .valid := by
      cases status : ticket.status <;> simp_all [TicketStatus.canBecome]
    refine bindSaveTicket is inside fun after inside => ?_
    exact leadsPure ⟨_, ⟨⟨n, key⟩, .ticketCancelled verified holds (by simpa using own) valid⟩, inside⟩
  · obtain ⟨⟨n, key⟩, effect⟩ := end'
    exact tells key effect took

theorem loadEnds (ready : start.Ready) (given : Raw) :
    (load given).Concludes start (.getTicket given) .ticket := by
  unfold load
  refine bindLook ready.started (fun _ => rfl) (ready.started.covers _) fun found after works took => ?_
  obtain ⟨label, named, rfl, _⟩ := Works.getTicket works
  split
  · rename_i ticket stored
    exact leadsPure (.found (.ticket ⟨named, stored⟩) took)
  · exact leadsThrow (took.covers _ _ _ nofun (.refl _))

theorem ownerTicketsEnds (ready : start.Ready) (owner : Raw) :
    (ownerTickets owner).Concludes start (.getOwnerTickets owner) .values := by
  unfold ownerTickets
  rw [← bind_pure (call _)]
  refine bindLook ready.started (fun _ => rfl) (ready.started.covers _) fun ids after works took => ?_
  obtain ⟨label, named, listed, _⟩ := Works.listOwnerTickets works
  exact leadsPure (.found (.ownerTickets named listed) took)

theorem eventTicketsEnds (ready : start.Ready) (given : Raw) :
    (eventTickets given).Concludes start (.getEventTickets given) .values := by
  unfold eventTickets
  refine bindEventId nofun (ready.started.covers _) fun id named => ?_
  rw [← bind_pure (call _)]
  refine bindLook ready.started (fun _ => rfl) (ready.started.covers _) fun ids after works took => ?_
  obtain ⟨rfl, _⟩ := Works.listEventTickets works
  exact leadsPure (.found (.eventTickets named) took)

end BoxOffice.Admission
