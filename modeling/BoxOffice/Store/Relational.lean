import BoxOffice.Store.Call
import BoxOffice.Store.Table
import BoxOffice.Store.Total
import BoxOffice.Text.Half
import BoxOffice.Text.Integer

/-! A store in relational tables. Rows keep parties as texts, amounts with two places and times on
the clock of UTC. Keys are unique, counts are checked, and a row may point to a missing one only
inside a block: the outermost commit checks every reference. A block that fails puts back the rows
of its start. -/
namespace BoxOffice

structure EventRow where
  id : EventId
  organizer : Raw
  name : Raw
  description : Raw
  venue : Raw
  date : Moment
  createdAt : Moment
  status : EventStatus
  deriving DecidableEq, Repr

structure TierRow where
  event : EventId
  id : Int
  name : Raw
  price : Money
  capacity : Int
  sold : Int
  deriving DecidableEq, Repr

structure Holding where
  owner : Raw
  ticket : Int
  deriving DecidableEq, Repr

structure Rows (τ : Type) where
  events : List EventRow
  tiers : List TierRow
  registrations : List Registration
  escrow : Option EscrowConfig
  payments : Table Int Payment
  revenue : Table EventId τ
  tickets : Table Int Ticket
  holdings : List Holding
  lastPayment : Nat
  lastTicket : Nat
  deriving DecidableEq, Repr

def Moment.inColumn : Option Moment → Except Failure (Option Moment)
  | none => .ok none
  | some m =>
    match m.utc? with
    | some utc => .ok (some utc)
    | none => .error .dateOverflow

def Raw.inColumn : Raw → Except Failure Raw
  | nothing => .ok nothing
  | value => if Text.isWhole value.plain then .ok (text value.plain) else .error .notEncodable

theorem Raw.textInColumn {value : String} (h : Text.isWhole value = true) :
    (text value).inColumn = .ok (text value) := by
  simp [inColumn, plain, h]

/- The value as a column of whole numbers reads it: of a fraction the part before the point counts,
and a text has to read as a whole number. Nothing stays nothing. -/
def Raw.inNumberColumn (column : String) : Raw → Except Failure (Option Int)
  | nothing => .ok none
  | truth value => .ok (some (if value then 1 else 0))
  | whole value => .ok (some value)
  | text value =>
    match Text.integer value with
    | .ok number => .ok (some number)
    | .error _ => .error (.notAColumnNumber column (Text.quoted value))
  | fraction (.finite value) => .ok (some value.truncated)
  | fraction (.infinite _) => .error .integerOverflow
  | fraction .nan => .error (.notAColumnNumber column Floating.nan.text)
  | list _ | record _ => .error .notANumber

/- An amount as a column keeps it: with two places, and at most 18 digits. -/
def Money.inColumn (amount : Money) : Except Failure Money :=
  if Decimal.digitCount amount.cents ≤ 18 then .ok amount.hundredths else .error .undefinedAmount

def boundWord : Option Int → Except Failure Unit
  | none => .ok ()
  | some n => do let _ ← word n

def demand (condition : Bool) : Except Failure Unit :=
  if condition then .ok () else .error .constraintViolated

def required {α : Type} : Option α → Except Failure α
  | some value => .ok value
  | none => .error .constraintViolated

namespace EventRow

def ofEvent (event : Event) : Except Failure EventRow := do
  let date ← Moment.inColumn event.date
  let createdAt ← Moment.inColumn event.createdAt
  let organizer ← event.organizer.inColumn
  let name ← event.name.inColumn
  let description ← event.description.inColumn
  let venue ← event.venue.inColumn
  demand !([organizer, name, description, venue].contains .nothing)
  return ⟨event.id, organizer, name, description, venue, ← required date, ← required createdAt,
    event.status⟩

def toEvent (row : EventRow) (tiers : List Tier) : Event :=
  ⟨row.id, row.organizer, row.name, row.description, row.venue, some row.date,
    some row.createdAt, row.status, tiers⟩

end EventRow

namespace TierRow

def ofTier (event : EventId) (tier : Tier) : Except Failure TierRow := do
  let id ← tier.id.inNumberColumn "tier_id"
  let price ← tier.price.inColumn
  let capacity ← tier.capacity.inNumberColumn "capacity"
  let sold ← tier.sold.inNumberColumn "sold"
  boundWord id
  let name ← tier.name.inColumn
  boundWord capacity
  boundWord sold
  let row : TierRow :=
    ⟨event, ← required id, name, price, ← required capacity, ← required sold⟩
  demand (0 ≤ row.id && name != .nothing && 0 ≤ row.sold && row.sold ≤ row.capacity)
  return row

def toTier (row : TierRow) : Tier :=
  ⟨.whole row.id, row.name, row.price, .whole row.capacity, .whole row.sold⟩

def label (name : Raw) (price : Decimal) : String :=
  name.plain ++ " - " ++ price.text

def put (row : TierRow) : List TierRow → List TierRow
  | [] => [row]
  | first :: rest =>
    if first.event = row.event ∧ first.id = row.id then row :: rest else first :: put row rest

end TierRow

namespace Rows
variable {τ : Type}

def empty : Rows τ :=
  ⟨[], [], [], none, .empty, .empty, .empty, [], 0, 0⟩

def tiersOf (rows : Rows τ) (event : EventId) : List Tier :=
  ((rows.tiers.filter fun row => row.event == event).mergeSort fun a b => a.id ≤ b.id).map
    TierRow.toTier

def eventOf (rows : Rows τ) (row : EventRow) : Event :=
  row.toEvent (rows.tiersOf row.id)

def event? (rows : Rows τ) (id : EventId) : Option Event :=
  (rows.events.find? fun row => row.id == id).map rows.eventOf

def hasEvent (rows : Rows τ) (id : EventId) : Bool :=
  rows.events.any fun row => row.id == id

def linked (rows : Rows τ) : Bool :=
  rows.registrations.all (fun r => rows.hasEvent r.event) &&
    rows.holdings.all fun h => rows.tickets.contains h.ticket

def addEventRow (rows : Rows τ) (event : Event) : Except Failure (Rows τ) := do
  let row ← EventRow.ofEvent event
  demand (!rows.hasEvent event.id)
  return { rows with events := rows.events ++ [row] }

def saveEventRow (rows : Rows τ) (event : Event) : Except Failure (Rows τ) := do
  if !rows.hasEvent event.id then throw .rowMissing
  let row ← EventRow.ofEvent event
  return { rows with events := rows.events.map fun old => if old.id = event.id then row else old }

def putTiers (event : EventId) (tiers : List Tier) (rows : Rows τ) : Except Failure (Rows τ) :=
  tiers.foldlM (fun rows tier => do
    let row ← TierRow.ofTier event tier
    return { rows with tiers := row.put rows.tiers }) rows

def addEvent (rows : Rows τ) (event : Event) : Except Failure (Rows τ) := do
  (← rows.addEventRow event).putTiers event.id event.tiers

/- Tiers that the event no longer names stay. -/
def saveEvent (rows : Rows τ) (event : Event) : Except Failure (Rows τ) := do
  (← rows.saveEventRow event).putTiers event.id event.tiers

def addRegistration (rows : Rows τ) (r : Registration) : Except Failure (Rows τ) := do
  let tier ← r.tier.inNumberColumn "tier_id"
  let registeredAt ← Moment.inColumn r.registeredAt
  let attendee ← r.attendee.inColumn
  boundWord tier
  let tier ← required tier
  demand (0 ≤ tier && attendee != .nothing && registeredAt.isSome)
  demand !(rows.registrations.any fun old => old.event == r.event && old.attendee == attendee)
  let row := { r with attendee, tier := .whole tier, registeredAt }
  return { rows with registrations := rows.registrations ++ [row] }

def setEscrow (rows : Rows τ) (config : EscrowConfig) : Except Failure (Rows τ) := do
  let admin ← config.admin.inColumn
  let currency ← config.currency.inColumn
  demand (admin != .nothing && currency != .nothing)
  return { rows with escrow := some ⟨admin, currency⟩ }

def addPayment (rows : Rows τ) (payment : Payment) : Except Failure (Rows τ) := do
  let id ← payment.id.inNumberColumn "id"
  let amount ← payment.amount.inColumn
  let paidAt ← Moment.inColumn payment.paidAt
  boundWord id
  let payer ← payment.payer.inColumn
  let currency ← payment.currency.inColumn
  let id ← required id
  demand (payer != .nothing && currency != .nothing && paidAt.isSome)
  demand !(rows.payments.contains id)
  let row := { payment with id := .whole id, payer, currency, amount, paidAt }
  return { rows with payments := rows.payments.put id row }

/- A total as it is read back: with two places, and at most 24 digits. -/
def readTotal [TotalColumn τ] (total : τ) : Except Failure Decimal :=
  let read := TotalColumn.read total
  match read.cents? with
  | some cents =>
    if Decimal.digitCount cents ≤ 24 then .ok (.finite (.ofCents read.negative cents))
    else .error .undefinedAmount
  | none => .error .undefinedAmount

def revenueOf [TotalColumn τ] (rows : Rows τ) (event : EventId) : Except Failure Decimal :=
  match rows.revenue.get? event with
  | some total => readTotal total
  | none => .ok .zero

def addRevenue [TotalColumn τ] (rows : Rows τ) (event : EventId) :
    Decimal → Except Failure (Decimal × Rows τ)
  | .finite amount => do
    let total := TotalColumn.add ((rows.revenue.get? event).getD TotalColumn.zero) amount
    return (← readTotal total, { rows with revenue := rows.revenue.put event total })
  | .infinite _ | .nan .. => .error .columnNotFinite

def rowOf (id : Option Int) (ticket : Ticket) : Except Failure Ticket := do
  let issuedAt ← Moment.inColumn ticket.issuedAt
  boundWord id
  let organizer ← ticket.organizer.inColumn
  let owner ← ticket.owner.inColumn
  let id ← required id
  demand (organizer != .nothing && owner != .nothing && issuedAt.isSome)
  return { ticket with id := .whole id, organizer, owner, issuedAt }

def addTicket (rows : Rows τ) (ticket : Ticket) : Except Failure (Rows τ) := do
  let id ← ticket.id.inNumberColumn "id"
  let row ← rowOf id ticket
  let id ← required id
  demand !(rows.tickets.contains id)
  return { rows with
    tickets := rows.tickets.put id row
    holdings := rows.holdings ++ [⟨row.owner, id⟩] }

def saveTicket (rows : Rows τ) (ticket : Ticket) : Except Failure (Rows τ) := do
  match ← ticket.id.inNumberColumn "id" with
  | none => throw .rowMissing
  | some id =>
    if !rows.tickets.contains id then throw .rowMissing
    return { rows with tickets := rows.tickets.put id (← rowOf (some id) ticket) }

def moveTicket (rows : Rows τ) (id source target : Raw) : Except Failure (Rows τ) := do
  let id ← id.inNumberColumn "id"
  let source ← source.inColumn
  boundWord id
  let target ← target.inColumn
  let id ← required id
  demand (target != .nothing)
  return { rows with holdings := rows.holdings.erase ⟨source, id⟩ ++ [⟨target, id⟩] }

def payment? (rows : Rows τ) (id : Raw) : Except Failure (Option Payment) := do
  return (← id.inNumberColumn "id").bind rows.payments.get?

def ticket? (rows : Rows τ) (id : Raw) : Except Failure (Option Ticket) := do
  return (← id.inNumberColumn "id").bind rows.tickets.get?

def idsOf {α : Type} (table : Table Int α) (belongs : α → Bool) : List Raw :=
  (((table.entries.filter fun entry => belongs entry.2).map Prod.fst).mergeSort
    fun a b => a ≤ b).map .whole

def call [TotalColumn τ] (rows : Rows τ) : (c : StoreCall) → Except Failure (c.Answer × Rows τ)
  | .listEvents organizer => do
    return (← listing (rows.events.map rows.eventOf) (← organizer.inColumn), rows)
  | .getEvent id => .ok (rows.event? id, rows)
  | .eventExists id => .ok (rows.hasEvent id, rows)
  | .addEvent event => do return ((), ← rows.addEvent event)
  | .saveEvent event => do return ((), ← rows.saveEvent event)
  | .isRegistered event attendee => do
    let attendee ← attendee.inColumn
    return (rows.registrations.any fun r => r.event == event && r.attendee == attendee, rows)
  | .addRegistration r => do return ((), ← rows.addRegistration r)
  | .listAttendees event =>
    .ok ((rows.registrations.filter fun r => r.event == event).map (·.attendee), rows)
  | .getEscrow => .ok (rows.escrow, rows)
  | .setEscrow config => do return ((), ← rows.setEscrow config)
  | .nextPaymentId =>
    .ok (((rows.lastPayment + 1 : Nat) : Int), { rows with lastPayment := rows.lastPayment + 1 })
  | .addPayment payment => do return ((), ← rows.addPayment payment)
  | .getPayment id => do return (← rows.payment? id, rows)
  | .listEventPayments event =>
    .ok (idsOf rows.payments fun payment => payment.event == event, rows)
  | .getRevenue event => do return (← rows.revenueOf event, rows)
  | .addRevenue event amount => rows.addRevenue event amount
  | .nextTicketId =>
    .ok (((rows.lastTicket + 1 : Nat) : Int), { rows with lastTicket := rows.lastTicket + 1 })
  | .addTicket ticket => do return ((), ← rows.addTicket ticket)
  | .getTicket id => do return (← rows.ticket? id, rows)
  | .saveTicket ticket => do return ((), ← rows.saveTicket ticket)
  | .moveTicket id source target => do return ((), ← rows.moveTicket id source target)
  | .listOwnerTickets owner => do
    let owner ← owner.inColumn
    return ((rows.holdings.filter fun h => h.owner == owner).map fun h => .whole h.ticket, rows)
  | .listEventTickets event =>
    .ok (idsOf rows.tickets fun ticket => ticket.event == event, rows)

end Rows

structure Relational (τ : Type) where
  rows : Rows τ
  starts : List (Rows τ)
  deriving DecidableEq, Repr

namespace Relational
variable {τ : Type}

def empty : Relational τ :=
  ⟨.empty, []⟩

def call [TotalColumn τ] (c : StoreCall) (s : Relational τ) :
    Except Failure c.Answer × Relational τ :=
  match s.rows.call c with
  | .error failure => (.error failure, s)
  | .ok (answer, rows) =>
    if !s.starts.isEmpty || rows.linked then (.ok answer, { s with rows })
    else (.error .constraintViolated, s)

def tableMethod : String := "_manager"
def tiersMethod : String := "_save_tiers"

/- The part that says where the tables are. A disturbance of it never strikes, and yet stands in
its place for good. -/
def placePart : String := "_using"

def passPlace (waiting : Waiting) (s : Relational τ) : Passage (Relational τ) (Relational τ) :=
  if (waiting placePart).isSome then Passage.fail .misplaced s else .ok s

def passBlock (waiting : Waiting) (s : Relational τ) : Passage (Relational τ) (Relational τ) := do
  passPlace waiting (← Passage.through waiting blockMethod .ok s)

def passTable (waiting : Waiting) (keys : Except Failure Unit) (s : Relational τ) :
    Passage (Relational τ) (Relational τ) := do
  let s ← Passage.through waiting tableMethod .ok s
  match keys with
  | .error failure => Passage.fail failure s
  | .ok () => passPlace waiting s

def passNumber (waiting : Waiting) (id : Raw) (s : Relational τ) :
    Passage (Relational τ) (Relational τ) :=
  passTable waiting ((id.inNumberColumn "id").map fun _ => ()) s

def passTiers [TotalColumn τ] (waiting : Waiting) (c : StoreCall) (event : Event)
    (row : Except Failure (Rows τ)) (s : Relational τ) : Passage (Relational τ) (Relational τ) :=
  match row with
  | .error failure => Passage.fail failure s
  | .ok _ =>
    Passage.through waiting tiersMethod (fun s => do
      let s ← if event.tiers.isEmpty then .ok s else passTable waiting (.ok ()) s
      match s.rows.call c with
      | .error failure => Passage.fail failure s
      | .ok _ => .ok s) s

def pass [TotalColumn τ] (waiting : Waiting) (c : StoreCall) (s : Relational τ) :
    Passage (Relational τ) (Relational τ) :=
  match c with
  | .addRegistration _ | .addPayment _ => passPlace waiting s
  | .addTicket _ => passBlock waiting s
  | .addEvent event => do
    passTiers waiting c event (s.rows.addEventRow event) (← passBlock waiting s)
  | .saveEvent event => do
    let s ← passTable waiting (.ok ()) (← passBlock waiting s)
    passTiers waiting c event (s.rows.saveEventRow event) s
  | .nextPaymentId | .nextTicketId =>
    Passage.through waiting counterMethod (fun s => do
      let s ← passTable waiting (.ok ()) (← passBlock waiting s)
      return (s.call c).2) s
  | .addRevenue _ _ | .moveTicket _ _ _ => do
    passTable waiting (.ok ()) (← passBlock waiting s)
  | .getPayment id | .getTicket id => passNumber waiting id s
  | .saveTicket ticket => passNumber waiting ticket.id s
  | .listEvents _ | .getEvent _ | .eventExists _ | .isRegistered _ _ | .listAttendees _
  | .getEscrow | .setEscrow _ | .listEventPayments _ | .getRevenue _ | .listOwnerTickets _
  | .listEventTickets _ => passTable waiting (.ok ()) s

def enter (s : Relational τ) : Relational τ :=
  { s with starts := s.rows :: s.starts }

def commit (s : Relational τ) : Except Failure (Relational τ) := do
  demand (1 < s.starts.length || s.rows.linked)
  return { s with starts := s.starts.tail }

def rollBack (s : Relational τ) : Relational τ :=
  match s.starts with
  | [] => s
  | start :: starts => ⟨start, starts⟩

end Relational

instance {τ : Type} [TotalColumn τ] : RecordStore (Relational τ) where
  empty := .empty
  call := Relational.call
  enter := Relational.enter
  commit := Relational.commit
  rollBack := Relational.rollBack
  names := blockMethod :: counterMethod :: Relational.tableMethod :: Relational.tiersMethod ::
    Relational.placePart :: StoreCall.methods
  interrupted c waiting s := (Relational.pass waiting c s).interruption?
  barrier waiting := if (waiting Relational.placePart).isSome then some .misplaced else none
  extent s := max s.rows.payments.entries.length s.rows.tickets.entries.length

end BoxOffice
