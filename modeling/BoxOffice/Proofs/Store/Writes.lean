import BoxOffice.Proofs.Event
import BoxOffice.Store.Relational

/-! What a call that succeeds does to rows. One row is added or put in the place of another, and belongs to the
event of the record; the tiers of an event are put after its row. All other tables of records stay. -/
namespace BoxOffice

theorem EventRow.ofEventId {event : Event} {row : EventRow} (made : ofEvent event = .ok row) :
    row.id = event.id := by
  simp only [ofEvent, bindOkIff] at made
  obtain ⟨_, _, _, _, _, _, _, _, _, _, _, _, _, _, _, _, _, _, made⟩ := made
  cases made
  rfl

namespace Rows
variable {τ : Type} {rows after : Rows τ}

theorem rowOfEvent {number : Option Int} {ticket row : Ticket} (made : rowOf number ticket = .ok row) :
    row.event = ticket.event := by
  simp only [rowOf, bindOkIff] at made
  obtain ⟨_, _, _, _, _, _, _, _, _, _, _, _, made⟩ := made
  cases made
  rfl

inductive Writes (rows : Rows τ) : StoreCall → Rows τ → Prop where
  | eventAdded {event row after} (made : EventRow.ofEvent event = .ok row)
      (put : putTiers event.id event.tiers { rows with events := rows.events ++ [row] } = .ok after) :
      Writes rows (.addEvent event) after
  | eventSaved {event row after} (made : EventRow.ofEvent event = .ok row)
      (put : putTiers event.id event.tiers { rows with
        events := rows.events.map fun old => if old.id = event.id then row else old } = .ok after) :
      Writes rows (.saveEvent event) after
  | registered {r row} (event : row.event = r.event) :
      Writes rows (.addRegistration r) { rows with registrations := rows.registrations ++ [row] }
  | paid {payment n row} (event : row.event = payment.event) :
      Writes rows (.addPayment payment) { rows with payments := rows.payments.put n row }
  | issued {ticket n row holdings} (event : row.event = ticket.event) :
      Writes rows (.addTicket ticket) { rows with tickets := rows.tickets.put n row, holdings }
  | changed {ticket n row} (event : row.event = ticket.event) :
      Writes rows (.saveTicket ticket) { rows with tickets := rows.tickets.put n row }
  | beside {c escrow revenue holdings lastPayment lastTicket} :
      Writes rows c { rows with escrow, revenue, holdings, lastPayment, lastTicket }

theorem putTiersBeside {event : EventId} {tiers : List Tier} (put : rows.putTiers event tiers = .ok after) :
    ∃ saved, after = { rows with tiers := saved } := by
  unfold putTiers at put
  induction tiers generalizing rows with
  | nil =>
    cases put
    exact ⟨_, rfl⟩
  | cons tier rest ih =>
    rw [List.foldlM_cons] at put
    obtain ⟨_, first, put⟩ := bindOk put
    obtain ⟨row, _, first⟩ := bindOk first
    cases first
    obtain ⟨saved, same⟩ := ih put
    exact ⟨saved, same⟩

theorem addEventWrites {event : Event} (added : rows.addEvent event = .ok after) :
    rows.Writes (.addEvent event) after := by
  obtain ⟨_, added, put⟩ := bindOk added
  obtain ⟨row, made, added⟩ := bindOk added
  obtain ⟨_, _, added⟩ := bindOk added
  cases added
  exact .eventAdded made put

theorem saveEventWrites {event : Event} (saved : rows.saveEvent event = .ok after) :
    rows.Writes (.saveEvent event) after := by
  obtain ⟨_, saved, put⟩ := bindOk saved
  unfold saveEventRow at saved
  obtain ⟨_, saved⟩ := guardOk saved
  obtain ⟨row, made, saved⟩ := bindOk saved
  cases saved
  exact .eventSaved made put

theorem addTicketWrites {ticket : Ticket} (added : rows.addTicket ticket = .ok after) :
    rows.Writes (.addTicket ticket) after := by
  obtain ⟨_, _, added⟩ := bindOk added
  obtain ⟨row, made, added⟩ := bindOk added
  obtain ⟨_, _, added⟩ := bindOk added
  obtain ⟨_, _, added⟩ := bindOk added
  cases added
  exact .issued (rowOfEvent made)

theorem saveTicketWrites {ticket : Ticket} (saved : rows.saveTicket ticket = .ok after) :
    rows.Writes (.saveTicket ticket) after := by
  obtain ⟨number, _, saved⟩ := bindOk saved
  cases number with
  | none => cases saved
  | some n =>
    obtain ⟨_, saved⟩ := guardOk saved
    obtain ⟨row, made, saved⟩ := bindOk saved
    cases saved
    exact .changed (rowOfEvent made)

theorem callWrites [TotalColumn τ] {c : StoreCall} {answer : c.Answer}
    (called : rows.call c = .ok (answer, after)) : rows.Writes c after := by
  have written {write : Except Failure (Rows τ)} {α : Type} {value answer : α}
      (called : (do return (value, ← write)) = .ok (answer, after)) : write = .ok after := by
    obtain ⟨_, written, called⟩ := bindOk called
    cases called
    exact written
  cases c with
  | addEvent event => exact addEventWrites (written called)
  | saveEvent event => exact saveEventWrites (written called)
  | addTicket ticket => exact addTicketWrites (written called)
  | saveTicket ticket => exact saveTicketWrites (written called)
  | addRegistration r =>
    have added := written called
    simp only [addRegistration, bindOkIff] at added
    obtain ⟨_, _, _, _, _, _, _, _, _, _, _, _, _, _, added⟩ := added
    cases added
    exact .registered rfl
  | addPayment payment =>
    have added := written called
    simp only [addPayment, bindOkIff] at added
    obtain ⟨_, _, _, _, _, _, _, _, _, _, _, _, _, _, _, _, _, _, added⟩ := added
    cases added
    exact .paid rfl
  | setEscrow config =>
    have set := written called
    simp only [setEscrow, bindOkIff] at set
    obtain ⟨_, _, _, _, _, _, set⟩ := set
    cases set
    exact .beside
  | moveTicket given source target =>
    have moved := written called
    simp only [moveTicket, bindOkIff] at moved
    obtain ⟨_, _, _, _, _, _, _, _, _, _, _, _, moved⟩ := moved
    cases moved
    exact .beside
  | addRevenue event amount =>
    cases amount with
    | finite amount =>
      obtain ⟨_, _, called⟩ := bindOk called
      cases called
      exact .beside
    | infinite _ | nan _ _ => cases called
  | listEvents organizer =>
    obtain ⟨_, _, called⟩ := bindOk called
    obtain ⟨_, _, called⟩ := bindOk called
    cases called
    exact .beside
  | isRegistered _ _ | getPayment _ | getRevenue _ | getTicket _ | listOwnerTickets _ =>
    obtain ⟨_, _, called⟩ := bindOk called
    cases called
    exact .beside
  | getEvent _ | eventExists _ | listAttendees _ | getEscrow | nextPaymentId | listEventPayments _
  | nextTicketId | listEventTickets _ =>
    cases called
    exact .beside

end Rows

theorem Relational.shownRows {τ : Type} [TotalColumn τ] {s : Relational τ} {c : StoreCall} {answer : c.Answer}
    (found : (call c s).1 = .ok answer) : ∃ after, s.rows.call c = .ok (answer, after) := by
  unfold call at found
  split at found
  · cases found
  · rename_i given after called
    split at found
    · cases found
      exact ⟨after, called⟩
    · cases found

end BoxOffice
