import BoxOffice.Checked
import BoxOffice.Store.Call
import BoxOffice.Store.Table

/-! Programs over one store: calls and nested blocks, and the report of a run. -/
namespace BoxOffice

structure Survey where
  events : List Event
  byEvent : List (EventId × List Raw × List Raw × Decimal × List Raw)
  byOwner : Table Label (Raw × List Raw)
  tickets : List Ticket
  payments : List Payment
  escrow : Option EscrowConfig
  deriving Repr

namespace Survey
variable {m : Type → Type} [Monad m] [MonadExcept Failure m]

def run {α : Type} (get : Int → m (Option α)) : Nat → Int → m (List α)
  | 0, _ => return []
  | most + 1, id => do
    match ← get id with
    | none => return []
    | some record => return record :: (← run get most (id + 1))

def take (call : (c : StoreCall) → m c.Answer) (extent : Nat) (ids owners : List Raw) :
    m Survey := do
  let tickets ← run (fun id => call (.getTicket (.whole id))) (extent + 1) 1
  let payments ← run (fun id => call (.getPayment (.whole id))) (extent + 1) 1
  let byEvent ← ids.mapM fun given => do
    let id ← MonadExcept.ofExcept (Checked.eventId given)
    let attendees ← call (.listAttendees id)
    let payments ← call (.listEventPayments id)
    let revenue ← call (.getRevenue id)
    let tickets ← call (.listEventTickets id)
    return (id, attendees, payments, revenue, tickets)
  let events ← call (.listEvents .nothing)
  let byOwner ← owners.foldlM (fun table given => do
    let tickets ← call (.listOwnerTickets given)
    let label ← MonadExcept.ofExcept (Checked.label given)
    let shown := ((table.get? label).map Prod.fst).getD given
    return table.put label (shown, tickets)) Table.empty
  let escrow ← call .getEscrow
  return ⟨events, byEvent, byOwner, tickets, payments, escrow⟩

end Survey

inductive StoreRequest
  | call (c : StoreCall)
  | survey (ids owners : List Raw)
  | unreadable (failure : Failure)
  deriving Repr

inductive StoreAnswer
  | answer (c : StoreCall) (answer : c.Answer)
  | survey (survey : Survey)

/- Requests and blocks in order. A failure ends the program unless it is caught where it arises; a
block that ends without one may still be aborted. A program that could not be read stops at once. -/
inductive Program
  | done
  | stopped (failure : Failure)
  | request (r : StoreRequest) (caught : Bool) (rest : Program)
  | block (body : Program) (abort caught : Bool) (rest : Program)
  deriving Inhabited, Repr

inductive Report
  | done
  | request (outcome : Except Failure StoreAnswer) (rest : Report)
  | block (body : Report) (failure : Option Failure) (rest : Report)

namespace Program
variable {σ : Type} [RecordStore σ]

def ask (s : σ) : StoreRequest → Except Failure StoreAnswer × σ
  | .call c =>
    let (answer, s) := RecordStore.call c s
    (answer.map (.answer c), s)
  | .survey ids owners =>
    let look (c : StoreCall) : Except Failure c.Answer := (RecordStore.call c s).1
    ((Survey.take look (RecordStore.extent s) ids owners).map .survey, s)
  | .unreadable failure => (.error failure, s)

def close (failure : Option Failure) (abort : Bool) (s : σ) : Option Failure × σ :=
  match failure.or (if abort then some .aborted else none) with
  | some failure => (some failure, RecordStore.rollBack s)
  | none =>
    match RecordStore.commit s with
    | .ok s => (none, s)
    | .error failure => (some failure, RecordStore.rollBack s)

def run : Program → σ → Report × Option Failure × σ
  | .done, s => (.done, none, s)
  | .stopped failure, s => (.done, some failure, s)
  | .request r caught rest, s =>
    match ask s r with
    | (.ok answer, s) =>
      let (report, failure, s) := rest.run s
      (.request (.ok answer) report, failure, s)
    | (.error failure, s) =>
      if caught then
        let (report, later, s) := rest.run s
        (.request (.error failure) report, later, s)
      else (.request (.error failure) .done, some failure, s)
  | .block body abort caught rest, s =>
    let (inner, failure, s) := body.run (RecordStore.enter s)
    let (failure, s) := close failure abort s
    if failure.isNone || caught then
      let (report, later, s) := rest.run s
      (.block inner failure report, later, s)
    else (.block inner failure .done, failure, s)

end Program
end BoxOffice
