import BoxOffice.Proofs.Store.View

/-! What a call does that is answered: its answer and its edits, told by what the tables show. One
inversion for each call. -/
namespace BoxOffice

def StoreCall.Works (c : StoreCall) (v : View) (answer : c.Answer) (edits : List Edit) : Prop :=
  ∃ t : Tables, t.view = v ∧ (t.plan c).1 = .ok answer ∧ (t.plan c).2 = edits

theorem labelled {given : Raw} {label : Label} (checked : Checked.label given = .ok label) :
    Label.ofRaw? given = some label := by
  unfold Checked.label at checked
  split at checked
  · cases checked
    assumption
  · cases checked

theorem labelledMap {α : Type} {given : Raw} {look : Label → α} {a : α}
    (mapped : (Checked.label given).map look = .ok a) :
    ∃ label, Label.ofRaw? given = some label ∧ a = look label := by
  cases checked : Checked.label given with
  | error failure =>
    rw [checked] at mapped
    cases mapped
  | ok label =>
    rw [checked] at mapped
    exact ⟨label, labelled checked, (Except.ok.inj mapped).symm⟩

theorem containsFalse {κ α : Type} [DecidableEq κ] {t : Table κ α} {key : κ}
    (absent : ¬t.contains key = true) : t.get? key = none := by
  simpa [Table.contains] using absent

namespace Works
variable {v : View} {edits : List Edit}

theorem listEvents {organizer : Raw} {events : List Event}
    (works : (StoreCall.listEvents organizer).Works v events edits) :
    listing v.events.values organizer = .ok events ∧ edits = [] := by
  obtain ⟨t, rfl, answered, rfl⟩ := works
  exact ⟨answered, rfl⟩

theorem getEvent {id : EventId} {event : Option Event}
    (works : (StoreCall.getEvent id).Works v event edits) :
    event = v.events.get? id ∧ edits = [] := by
  obtain ⟨t, rfl, answered, rfl⟩ := works
  exact ⟨(Except.ok.inj answered).symm, rfl⟩

theorem eventExists {id : EventId} {exists' : Bool}
    (works : (StoreCall.eventExists id).Works v exists' edits) :
    exists' = v.events.contains id ∧ edits = [] := by
  obtain ⟨t, rfl, answered, rfl⟩ := works
  exact ⟨(Except.ok.inj answered).symm, rfl⟩

theorem addEvent {event : Event} {u : Unit} (works : (StoreCall.addEvent event).Works v u edits) :
    v.events.get? event.id = none ∧ edits = [.event event] := by
  obtain ⟨t, rfl, answered, rfl⟩ := works
  simp only [Tables.plan] at answered ⊢
  split at answered <;> rename_i known
  · cases answered
  · rw [if_neg known]
    exact ⟨containsFalse known, rfl⟩

theorem saveEvent {event : Event} {u : Unit} (works : (StoreCall.saveEvent event).Works v u edits) :
    edits = [.event event] := by
  obtain ⟨t, rfl, answered, rfl⟩ := works
  simp only [Tables.plan] at answered ⊢
  split at answered <;> rename_i known
  · rw [if_pos known]
  · cases answered

theorem isRegistered {event : EventId} {attendee : Raw} {flag : Bool}
    (works : (StoreCall.isRegistered event attendee).Works v flag edits) :
    ∃ label, Label.ofRaw? attendee = some label ∧
      flag = v.registrations.contains (event, label) ∧ edits = [] := by
  obtain ⟨t, rfl, answered, rfl⟩ := works
  obtain ⟨label, named, found⟩ := labelledMap answered
  exact ⟨label, named, found, rfl⟩

theorem addRegistration {r : Registration} {u : Unit}
    (works : (StoreCall.addRegistration r).Works v u edits) :
    ∃ label, Label.ofRaw? r.attendee = some label ∧ v.registrations.get? (r.event, label) = none ∧
      edits = [.registration label r, .attendee r.event r.attendee] := by
  obtain ⟨t, rfl, answered, rfl⟩ := works
  simp only [Tables.plan] at answered ⊢
  split at answered
  · cases answered
  · rename_i label named
    split at answered <;> rename_i known
    · cases answered
    · rw [if_neg known]
      exact ⟨label, labelled named, containsFalse known, rfl⟩

theorem listAttendees {event : EventId} {attendees : List Raw}
    (works : (StoreCall.listAttendees event).Works v attendees edits) :
    attendees = v.attendees event ∧ edits = [] := by
  obtain ⟨t, rfl, answered, rfl⟩ := works
  exact ⟨(Except.ok.inj answered).symm, rfl⟩

theorem getEscrow {config : Option EscrowConfig} (works : StoreCall.getEscrow.Works v config edits) :
    config = v.escrow ∧ edits = [] := by
  obtain ⟨t, rfl, answered, rfl⟩ := works
  exact ⟨(Except.ok.inj answered).symm, rfl⟩

theorem setEscrow {config : EscrowConfig} {u : Unit}
    (works : (StoreCall.setEscrow config).Works v u edits) : edits = [.escrow config] := by
  obtain ⟨t, rfl, answered, rfl⟩ := works
  rfl

theorem nextPaymentId {id : Int} (works : StoreCall.nextPaymentId.Works v id edits) :
    id = (v.lastPayment + 1 : Nat) ∧ edits = [.lastPayment (v.lastPayment + 1)] := by
  obtain ⟨t, rfl, answered, rfl⟩ := works
  exact ⟨(Except.ok.inj answered).symm, rfl⟩

theorem addPayment {payment : Payment} {u : Unit} (works : (StoreCall.addPayment payment).Works v u edits) :
    ∃ label, Label.ofRaw? payment.id = some label ∧
      edits = [.payment label payment, .eventPayment payment.event payment.id] := by
  obtain ⟨t, rfl, answered, rfl⟩ := works
  simp only [Tables.plan] at answered ⊢
  split at answered
  · cases answered
  · rename_i label named
    exact ⟨label, labelled named, rfl⟩

theorem getPayment {id : Raw} {payment : Option Payment}
    (works : (StoreCall.getPayment id).Works v payment edits) :
    ∃ label, Label.ofRaw? id = some label ∧ payment = v.payments.get? label ∧ edits = [] := by
  obtain ⟨t, rfl, answered, rfl⟩ := works
  obtain ⟨label, named, found⟩ := labelledMap answered
  exact ⟨label, named, found, rfl⟩

theorem listEventPayments {event : EventId} {ids : List Raw}
    (works : (StoreCall.listEventPayments event).Works v ids edits) :
    ids = v.eventPayments event ∧ edits = [] := by
  obtain ⟨t, rfl, answered, rfl⟩ := works
  exact ⟨(Except.ok.inj answered).symm, rfl⟩

theorem getRevenue {event : EventId} {revenue : Decimal}
    (works : (StoreCall.getRevenue event).Works v revenue edits) :
    revenue = (v.revenue.get? event).getD .zero ∧ edits = [] := by
  obtain ⟨t, rfl, answered, rfl⟩ := works
  exact ⟨(Except.ok.inj answered).symm, rfl⟩

theorem addRevenue {event : EventId} {amount total : Decimal}
    (works : (StoreCall.addRevenue event amount).Works v total edits) :
    ((v.revenue.get? event).getD .zero).add amount = .ok total ∧ edits = [.revenue event total] := by
  obtain ⟨t, rfl, answered, rfl⟩ := works
  simp only [Tables.plan] at answered ⊢
  split at answered
  · cases answered
    rename_i added
    exact ⟨added, rfl⟩
  · cases answered

theorem nextTicketId {id : Int} (works : StoreCall.nextTicketId.Works v id edits) :
    id = (v.lastTicket + 1 : Nat) ∧ edits = [.lastTicket (v.lastTicket + 1)] := by
  obtain ⟨t, rfl, answered, rfl⟩ := works
  exact ⟨(Except.ok.inj answered).symm, rfl⟩

theorem addTicket {ticket : Ticket} {u : Unit} (works : (StoreCall.addTicket ticket).Works v u edits) :
    ∃ label owner, Label.ofRaw? ticket.id = some label ∧ Label.ofRaw? ticket.owner = some owner ∧
      edits = [.ticket label ticket, .ownTicket owner ticket.id, .eventTicket ticket.event ticket.id] := by
  obtain ⟨t, rfl, answered, rfl⟩ := works
  simp only [Tables.plan] at answered ⊢
  split at answered
  · cases answered
  · cases answered
  · rename_i label owner named owned
    exact ⟨label, owner, labelled named, labelled owned, rfl⟩

theorem getTicket {id : Raw} {ticket : Option Ticket}
    (works : (StoreCall.getTicket id).Works v ticket edits) :
    ∃ label, Label.ofRaw? id = some label ∧ ticket = v.tickets.get? label ∧ edits = [] := by
  obtain ⟨t, rfl, answered, rfl⟩ := works
  obtain ⟨label, named, found⟩ := labelledMap answered
  exact ⟨label, named, found, rfl⟩

theorem saveTicket {ticket : Ticket} {u : Unit} (works : (StoreCall.saveTicket ticket).Works v u edits) :
    ∃ label, Label.ofRaw? ticket.id = some label ∧ edits = [.ticket label ticket] := by
  obtain ⟨t, rfl, answered, rfl⟩ := works
  simp only [Tables.plan] at answered ⊢
  split at answered
  · cases answered
  · rename_i label named
    split at answered <;> rename_i known
    · rw [if_pos known]
      exact ⟨label, labelled named, rfl⟩
    · cases answered

theorem moveTicket {id source target : Raw} {u : Unit}
    (works : (StoreCall.moveTicket id source target).Works v u edits) :
    ∃ giver taker, Label.ofRaw? source = some giver ∧ Label.ofRaw? target = some taker ∧
      edits = v.disowning id giver ++ [.ownTicket taker id] := by
  obtain ⟨t, rfl, answered, rfl⟩ := works
  simp only [Tables.plan] at answered ⊢
  split at answered
  · cases answered
  · cases answered
  · rename_i giver taker given taken
    exact ⟨giver, taker, labelled given, labelled taken, by rw [Tables.disowningView]⟩

theorem listOwnerTickets {owner : Raw} {ids : List Raw}
    (works : (StoreCall.listOwnerTickets owner).Works v ids edits) :
    ∃ label, Label.ofRaw? owner = some label ∧ ids.map Raw.key = v.ownerTickets label ∧ edits = [] := by
  obtain ⟨t, rfl, answered, rfl⟩ := works
  obtain ⟨label, named, rfl⟩ := labelledMap answered
  exact ⟨label, named, rfl, rfl⟩

theorem listEventTickets {event : EventId} {ids : List Raw}
    (works : (StoreCall.listEventTickets event).Works v ids edits) :
    ids = v.eventTickets event ∧ edits = [] := by
  obtain ⟨t, rfl, answered, rfl⟩ := works
  exact ⟨(Except.ok.inj answered).symm, rfl⟩

end Works
end BoxOffice
