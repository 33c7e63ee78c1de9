import BoxOffice.Funds
import BoxOffice.Log
import BoxOffice.Notice
import BoxOffice.Settings
import BoxOffice.Store.Call
import BoxOffice.Verifier

/-! The desk: a record store with all that stands around it, and actions at the desk. An action that
fails keeps what it has done to the surroundings; only a block takes back what the store took. -/
namespace BoxOffice

/- A disturbance that waits for the next call of one method: instead of its work, or after it. -/
structure StoreFault where
  method : String
  after : Bool
  deriving DecidableEq, Repr

/-- The notices and the log are in the order of sending and writing; of the faults the newest stands
in front. -/
structure Desk (σ : Type) where
  store : σ
  funds : Funds
  /- A desk without a verifier of its own trusts its host. -/
  verifier : Option Verifier
  /- The clock may show nothing. -/
  clock : Option Moment
  settings : Settings
  /- The account that holds payments, chosen when the desk is opened. -/
  escrowAccount : Raw
  /- Whether tickets are issued only for events that the store has. -/
  checksEvents : Bool
  /- Whether the part in the place of the funds keeps a book. -/
  keepsFunds : Bool
  storeFaults : List StoreFault
  brokenReceivers : List String
  notices : List Notice
  log : List LogLine
  deriving Repr

namespace Desk

def opened {σ : Type} (store : σ) (verifier : Option Verifier) (clock : Option Moment)
    (settings : Settings) (escrowAccount : Raw) (checksEvents keepsFunds : Bool) : Desk σ where
  store := store
  funds := .empty
  verifier := verifier
  clock := clock
  settings := settings
  escrowAccount := if escrowAccount.isBlank then settings.escrowAccount else escrowAccount
  checksEvents := checksEvents
  keepsFunds := keepsFunds
  storeFaults := []
  brokenReceivers := []
  notices := []
  log := []

end Desk

abbrev Action (σ : Type) := ExceptT Failure (StateM (Desk σ))

namespace Action
variable {σ α : Type}

def step (f : Desk σ → Except Failure α × Desk σ) : Action σ α :=
  ExceptT.mk fun desk => f desk

def perform (action : Action σ α) (desk : Desk σ) : Except Failure α × Desk σ :=
  action.run.run desk

theorem performStep (f : Desk σ → Except Failure α × Desk σ) (desk : Desk σ) :
    (step f).perform desk = f desk := rfl

theorem performPure (a : α) (desk : Desk σ) : (pure a : Action σ α).perform desk = (.ok a, desk) :=
  rfl

theorem performBind {β : Type} (first : Action σ α) (next : α → Action σ β) (desk : Desk σ) :
    (first >>= next).perform desk =
      match first.perform desk with
      | (.ok a, desk) => (next a).perform desk
      | (.error failure, desk) => (.error failure, desk) := by
  simp only [perform, ExceptT.run_bind, StateT.run_bind]
  generalize first.run.run desk = result
  rcases result with ⟨failure | a, after⟩ <;> rfl

theorem performGet (desk : Desk σ) :
    (get : Action σ (Desk σ)).perform desk = (.ok desk, desk) := rfl

theorem performModify (f : Desk σ → Desk σ) (desk : Desk σ) :
    (modify f : Action σ Unit).perform desk = (.ok (), f desk) := rfl

theorem performExcept (value : Except Failure α) (desk : Desk σ) :
    (liftM value : Action σ α).perform desk = (value, desk) := rfl

theorem performCatch (body : Action σ α) (handler : Failure → Action σ α) (desk : Desk σ) :
    (tryCatch body handler).perform desk =
      match body.perform desk with
      | (.ok a, desk) => (.ok a, desk)
      | (.error failure, desk) => (handler failure).perform desk := by
  simp only [perform, ExceptT.run_tryCatch, StateT.run_bind]
  generalize body.run.run desk = result
  rcases result with ⟨failure | a, after⟩ <;> rfl

def log (level : LogLevel) (source : LogSource) (text : String) : Action σ Unit :=
  modify fun desk => { desk with log := desk.log ++ [⟨level, source, text⟩] }

def notify (notice : Notice) : Action σ Unit :=
  step fun desk =>
    let desk := { desk with notices := desk.notices ++ [notice] }
    if desk.brokenReceivers.contains notice.name then
      let brokenReceivers := desk.brokenReceivers.filter fun name => name != notice.name
      (.error .receiverFailed, { desk with brokenReceivers })
    else (.ok (), desk)

def now : Action σ (Option Moment) :=
  return (← get).clock

def settings : Action σ Settings :=
  return (← get).settings

def authenticate (caller : Raw) (refusal : Failure) : Action σ Unit := do
  if !(← ((← get).verifier.getD .trustedHost).verify caller) then throw refusal

def ownVerifier : Action σ Verifier := do
  match (← get).verifier with
  | some verifier => return verifier
  | none => throw .notOffered

def book : Action σ Funds := do
  let desk ← get
  if desk.keepsFunds then return desk.funds else throw .notOffered

def eventId (given : Raw) (refusal : Failure) : Action σ EventId :=
  match given with
  | .text text =>
    match EventId.ofText? text with
    | some id => return id
    | none => throw refusal
  | _ => throw refusal

/- The disturbance that strikes a method: of several the newest, and none of them goes on waiting.
One that strikes after the work needs the method itself: where an older one stands in the place of
the method, the method is not offered. -/
def struck? (desk : Desk σ) (method : String) : Option (Bool × Failure) :=
  match desk.storeFaults.filter fun fault => fault.method == method with
  | [] => none
  | newest :: older =>
    if newest.after && !older.isEmpty then some (false, .notOffered)
    else some (newest.after, .writeFailed)

def forget (method : String) : Action σ Unit :=
  modify fun desk =>
    { desk with storeFaults := desk.storeFaults.filter fun fault => fault.method != method }

def disturbed (method : String) (work : Action σ α) : Action σ α := do
  match struck? (← get) method with
  | none => work
  | some (after, failure) =>
    forget method
    if after then
      let _ ← work
    throw failure

def waiting (desk : Desk σ) : Waiting :=
  fun method => (struck? desk method).map Prod.fst

variable [RecordStore σ]

def opening : Action σ Unit := do
  disturbed blockMethod (pure ())
  match RecordStore.barrier σ (waiting (← get)) with
  | some failure => throw failure
  | none => pure ()

def undisturbed (c : StoreCall) : Action σ c.Answer :=
  step fun desk =>
    let (outcome, store) := RecordStore.call c desk.store
    (outcome, { desk with store })

/- One call of the store, whose inner methods may be disturbed. What comes out is a failure of the
call's own, or else the disturbance that is furthest in. -/
def interruptible (c : StoreCall) : Action σ c.Answer := do
  let desk ← get
  match RecordStore.interrupted c (waiting desk) desk.store with
  | none => undisturbed c
  | some interruption =>
    modify fun desk => { desk with store := interruption.store }
    interruption.methods.forM forget
    let struck := (interruption.methods.getLast?.bind (struck? desk)).map Prod.snd
    throw (interruption.failure.getD (struck.getD .writeFailed))

def call (c : StoreCall) : Action σ c.Answer :=
  disturbed c.method do
    if (← get).storeFaults.isEmpty then undisturbed c else interruptible c

def block (body : Action σ α) : Action σ α :=
  step fun desk =>
    match body.perform { desk with store := RecordStore.enter desk.store } with
    | (.error failure, desk) =>
      (.error failure, { desk with store := RecordStore.rollBack desk.store })
    | (.ok a, desk) =>
      match RecordStore.commit desk.store with
      | .ok store => (.ok a, { desk with store })
      | .error failure =>
        (.error failure, { desk with store := RecordStore.rollBack desk.store })

def atomically (body : Action σ α) : Action σ α := do
  opening
  block body

end Action
end BoxOffice
