import BoxOffice.Desk.State

/-! The ticket ledger: organizers issue tickets, owners hand them on or cancel them, and the issuer
checks each in once. -/
namespace BoxOffice.Admission
variable {σ : Type} [RecordStore σ]

def authenticate (caller : Raw) : Action σ Unit :=
  Action.authenticate caller (.ticket .callerNotVerified)

def eventId (given : Raw) : Action σ EventId :=
  Action.eventId given (.ticket .malformedId)

def load (id : Raw) : Action σ Ticket := do
  match ← Action.call (.getTicket id) with
  | some ticket => return ticket
  | none => throw (.ticketMissing id)

def requireEvent (organizer : Raw) (id : EventId) : Action σ Unit := do
  match ← Action.call (.getEvent id) with
  | none => throw (.ticket .eventNotFound)
  | some event =>
    if !event.organizer.same organizer then throw (.ticket .notOrganizer)
    if event.status ≠ .upcoming ∧ event.status ≠ .active then throw (.ticket .eventOver)

def info (text : String) : Action σ Unit :=
  Action.log .info .tickets text

/- Tells of a change to a ticket. The log takes the number of the ticket and cannot be written
under a text that names one, which comes out after the change. -/
def tell (id : Raw) (change : String) (notice : Notice) : Action σ Unit := do
  info s!"Ticket {← id.wholePart} {change}"
  Action.notify notice

def mint (organizer id owner : Raw) : Action σ Ticket := do
  authenticate organizer
  let id ← eventId id
  if owner.isBlank then throw (.ticket .ownerRequired)
  let (ticketId, ticket) ← Action.atomically do
    if (← get).checksEvents then requireEvent organizer id
    let ticketId ← Action.call .nextTicketId
    let now ← Action.now
    let ticket : Ticket := ⟨.whole ticketId, id, organizer, owner, now, .initial⟩
    Action.call (.addTicket ticket)
    return (ticketId, ticket)
  info s!"Ticket {ticketId} for event {id.text} minted to {owner.plain}"
  Action.notify (.ticketMinted ticketId id owner)
  return ticket

def transfer (source target id : Raw) : Action σ Ticket := do
  authenticate source
  if source.same target then throw (.ticket .transferToSelf)
  if target.isBlank then throw (.ticket .recipientRequired)
  let ticket ← Action.atomically do
    let ticket ← load id
    if !ticket.owner.same source then throw (.ticket .notOwner)
    if !ticket.status.isTransferable then throw (.ticket (.notTransferable ticket.status))
    let updated := { ticket with owner := target }
    Action.call (.saveTicket updated)
    Action.call (.moveTicket id source target)
    return updated
  tell id s!"transferred from {source.plain} to {target.plain}"
    (.ticketTransferred id source target)
  return ticket

def use (organizer id : Raw) : Action σ Ticket := do
  authenticate organizer
  let ticket ← Action.atomically do
    let ticket ← load id
    if !ticket.organizer.same organizer then throw (.ticket .notIssuer)
    if ticket.status = .used then throw (.ticket .alreadyUsed)
    if ticket.status = .cancelled then throw (.ticket .cancelled)
    let updated := { ticket with status := .used }
    Action.call (.saveTicket updated)
    return updated
  tell id "used" (.ticketUsed id organizer)
  return ticket

def cancel (caller id : Raw) : Action σ Ticket := do
  authenticate caller
  let ticket ← Action.atomically do
    let ticket ← load id
    if !ticket.owner.same caller then throw (.ticket .notOwner)
    if !ticket.status.canBecome .cancelled then throw (.ticket (.cannotCancel ticket.status))
    let updated := { ticket with status := .cancelled }
    Action.call (.saveTicket updated)
    return updated
  tell id s!"cancelled by {caller.plain}" (.ticketCancelled id caller)
  return ticket

def ownerTickets (owner : Raw) : Action σ (List Raw) :=
  Action.call (.listOwnerTickets owner)

def eventTickets (id : Raw) : Action σ (List Raw) := do
  Action.call (.listEventTickets (← eventId id))

end BoxOffice.Admission
