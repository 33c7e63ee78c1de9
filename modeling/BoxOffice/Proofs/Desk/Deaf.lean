import BoxOffice.Desk.Operation

/-! Broken receivers decide only what comes after a change. Whatever a request does before it tells of it
goes the same way with broken receivers as without them, and what it does afterwards leaves the store
and the funds alone; so in the end both are the same. -/
namespace BoxOffice

def Desk.deaf {σ : Type} (desk : Desk σ) : Desk σ :=
  { desk with brokenReceivers := [] }

namespace Action
variable {σ α β : Type}

def Deaf (a : Action σ α) : Prop :=
  ∀ desk, a.perform desk.deaf = ((a.perform desk).1, (a.perform desk).2.deaf)

def Idle (a : Action σ α) : Prop :=
  ∀ desk, (a.perform desk).2.store = desk.store ∧ (a.perform desk).2.funds = desk.funds

def Settles (a : Action σ α) : Prop :=
  ∀ desk, (a.perform desk).2.store = (a.perform desk.deaf).2.store ∧
    (a.perform desk).2.funds = (a.perform desk.deaf).2.funds

theorem deafPure (value : α) : Deaf (pure value : Action σ α) := fun _ => rfl

theorem deafThrow (failure : Failure) : Deaf (throw failure : Action σ α) := fun _ => rfl

theorem deafExcept (value : Except Failure α) : Deaf (liftM value : Action σ α) := fun _ => rfl

theorem deafModify {change : Desk σ → Desk σ} (same : ∀ desk, change desk.deaf = (change desk).deaf) :
    Deaf (modify change : Action σ Unit) := by
  intro desk
  rw [performModify, performModify, same]

theorem deafBind {first : Action σ α} {next : α → Action σ β} (deaf : Deaf first)
    (later : ∀ a, Deaf (next a)) : Deaf (first >>= next) := by
  intro desk
  rw [performBind, performBind, deaf]
  rcases first.perform desk with ⟨failure | a, after⟩
  · rfl
  · exact later a after

theorem deafGet {next : Desk σ → Action σ α} (same : ∀ desk, next desk.deaf = next desk)
    (later : ∀ desk, Deaf (next desk)) : Deaf (get >>= next) := by
  intro desk
  rw [performBind, performBind, performGet, performGet]
  dsimp only
  rw [same]
  exact later desk desk

theorem deafGuard {c : Prop} [Decidable c] {failure : Failure} {next : Unit → Action σ α}
    (later : Deaf (next ())) :
    Deaf (if c then (throw failure : Action σ Unit) >>= next else next ()) := by
  split
  · exact fun _ => rfl
  · exact later

theorem deafIte {c : Prop} [Decidable c] {yes no : Action σ α} (first : Deaf yes) (second : Deaf no) :
    Deaf (if c then yes else no) := by
  split
  · exact first
  · exact second

theorem deafCatch {body : Action σ α} {handler : Failure → Action σ α} (first : Deaf body)
    (caught : ∀ failure, Deaf (handler failure)) : Deaf (tryCatch body handler) := by
  intro desk
  rw [performCatch, performCatch, first]
  rcases body.perform desk with ⟨failure | a, after⟩
  · exact caught failure after
  · rfl

theorem deafLog (level : LogLevel) (source : LogSource) (text : String) :
    Deaf (log level source text : Action σ Unit) :=
  deafModify fun _ => rfl

theorem deafNow : Deaf (now : Action σ (Option Moment)) :=
  deafGet (fun _ => rfl) fun _ => deafPure _

theorem deafSettings : Deaf (settings : Action σ Settings) :=
  deafGet (fun _ => rfl) fun _ => deafPure _

theorem deafAuthenticate (caller : Raw) (refusal : Failure) :
    Deaf (authenticate caller refusal : Action σ Unit) :=
  deafGet (fun _ => rfl) fun _ => deafBind (deafExcept _) fun _ =>
    deafIte (deafThrow _) (deafPure _)

theorem deafEventId (given : Raw) (refusal : Failure) :
    Deaf (eventId given refusal : Action σ EventId) := by
  unfold eventId
  repeat' split
  all_goals exact fun _ => rfl

theorem deafForget (method : String) : Deaf (forget method : Action σ Unit) :=
  deafModify fun _ => rfl

theorem deafDisturbed {method : String} {work : Action σ α} (deaf : Deaf work) :
    Deaf (disturbed method work) := by
  unfold disturbed
  refine deafGet (fun _ => rfl) fun desk => ?_
  split
  · exact deaf
  · exact deafBind (deafForget _) fun _ =>
      deafIte (deafBind deaf fun _ => deafThrow _) (deafThrow _)

theorem deafForgetAll (methods : List String) : Deaf (methods.forM (forget (σ := σ))) := by
  induction methods with
  | nil => exact deafPure ()
  | cons method rest ih => exact deafBind (deafForget method) fun _ => ih

section
variable [RecordStore σ]

theorem deafOpening : Deaf (opening : Action σ Unit) := by
  unfold opening
  refine deafBind (deafDisturbed (deafPure ())) fun _ => deafGet (fun _ => rfl) fun desk => ?_
  split
  · exact deafThrow _
  · exact deafPure ()

theorem deafUndisturbed (c : StoreCall) : Deaf (undisturbed c : Action σ c.Answer) :=
  fun _ => rfl

theorem deafInterruptible (c : StoreCall) : Deaf (interruptible c : Action σ c.Answer) := by
  unfold interruptible
  refine deafGet (fun _ => rfl) fun desk => ?_
  split
  · exact deafUndisturbed c
  · exact deafBind (deafModify fun _ => rfl) fun _ => deafBind (deafForgetAll _) fun _ => deafThrow _

theorem deafCall (c : StoreCall) : Deaf (call c : Action σ c.Answer) :=
  deafDisturbed (deafGet (fun _ => rfl) fun _ => deafIte (deafUndisturbed c) (deafInterruptible c))

theorem deafBlock {body : Action σ α} (deaf : Deaf body) : Deaf (block body) := by
  intro desk
  unfold block
  rw [performStep, performStep]
  have inside := deaf { desk with store := RecordStore.enter desk.store }
  simp only [Desk.deaf] at inside ⊢
  rw [inside]
  rcases body.perform { desk with store := RecordStore.enter desk.store } with ⟨failure | a, after⟩
  · rfl
  · dsimp only
    cases RecordStore.commit after.store <;> rfl

theorem deafAtomically {body : Action σ α} (deaf : Deaf body) : Deaf (atomically body) :=
  deafBind deafOpening fun _ => deafBlock deaf

end

theorem idlePure (value : α) : Idle (pure value : Action σ α) := fun _ => ⟨rfl, rfl⟩

theorem idleExcept (value : Except Failure α) : Idle (liftM value : Action σ α) := fun _ => ⟨rfl, rfl⟩

theorem idleLog (level : LogLevel) (source : LogSource) (text : String) :
    Idle (log level source text : Action σ Unit) := fun _ => ⟨rfl, rfl⟩

theorem idleNotify (notice : Notice) : Idle (notify notice : Action σ Unit) := by
  intro desk
  unfold notify
  rw [performStep]
  dsimp only
  split <;> exact ⟨rfl, rfl⟩

theorem idleBind {first : Action σ α} {next : α → Action σ β} (idle : Idle first)
    (later : ∀ a, Idle (next a)) : Idle (first >>= next) := by
  intro desk
  have here := idle desk
  rw [performBind]
  generalize first.perform desk = ran at here ⊢
  rcases ran with ⟨failure | a, after⟩
  · exact here
  · exact ⟨(later a after).1.trans here.1, (later a after).2.trans here.2⟩

theorem idleTell (notice : Notice) (value : α) :
    Idle (notify notice >>= fun _ => (pure value : Action σ α)) :=
  idleBind (idleNotify notice) fun _ => idlePure value

theorem Idle.settles {a : Action σ α} (idle : Idle a) : Settles a :=
  fun desk => ⟨(idle desk).1.trans (idle desk.deaf).1.symm, (idle desk).2.trans (idle desk.deaf).2.symm⟩

theorem Deaf.settles {a : Action σ α} (deaf : Deaf a) : Settles a := by
  intro desk
  rw [deaf]
  exact ⟨rfl, rfl⟩

theorem settlesBind {first : Action σ α} {next : α → Action σ β} (deaf : Deaf first)
    (later : ∀ a, Settles (next a)) : Settles (first >>= next) := by
  intro desk
  rw [performBind, performBind, deaf]
  rcases first.perform desk with ⟨failure | a, after⟩
  · exact ⟨rfl, rfl⟩
  · exact later a after

theorem settlesGet {next : Desk σ → Action σ α} (same : ∀ desk, next desk.deaf = next desk)
    (later : ∀ desk, Settles (next desk)) : Settles (get >>= next) := by
  intro desk
  rw [performBind, performBind, performGet, performGet]
  dsimp only
  rw [same]
  exact later desk desk

theorem settlesGuard {c : Prop} [Decidable c] {failure : Failure} {next : Unit → Action σ α}
    (later : Settles (next ())) :
    Settles (if c then (throw failure : Action σ Unit) >>= next else next ()) := by
  split
  · exact fun _ => ⟨rfl, rfl⟩
  · exact later

theorem settlesThen {first : Action σ α} {next : α → Action σ β} (settles : Settles first)
    (later : ∀ a, Idle (next a)) : Settles (first >>= next) := by
  have ends (desk : Desk σ) : ((first >>= next).perform desk).2.store = (first.perform desk).2.store ∧
      ((first >>= next).perform desk).2.funds = (first.perform desk).2.funds := by
    rw [performBind]
    rcases first.perform desk with ⟨failure | a, after⟩
    · exact ⟨rfl, rfl⟩
    · exact later a after
  intro desk
  rw [(ends desk).1, (ends desk).2, (ends desk.deaf).1, (ends desk.deaf).2]
  exact settles desk

end Action

open BoxOffice.Action
variable {σ : Type} [RecordStore σ]

namespace Registry

theorem loadDeaf (id : EventId) : Deaf (load id : Action σ Event) := by
  refine deafBind (deafCall _) fun found => ?_
  split
  · exact deafPure _
  · exact deafThrow _

theorem loadOwnedDeaf (organizer : Raw) (id : EventId) : Deaf (loadOwned organizer id : Action σ Event) :=
  deafBind (loadDeaf id) fun _ => deafGuard (deafPure _)

theorem loadEditableDeaf (organizer : Raw) (id : EventId) :
    Deaf (loadEditable organizer id : Action σ Event) :=
  deafBind (loadOwnedDeaf organizer id) fun _ => deafGuard (deafPure _)

theorem getDeaf (given : Raw) : Deaf (get given : Action σ Event) :=
  deafBind (deafEventId given _) loadDeaf

theorem createSettles (organizer given name description venue : Raw) (date : Option Moment)
    (specs : List TierSpec) :
    Settles (create organizer given name description venue date specs : Action σ Event) := by
  refine settlesBind (deafAuthenticate _ _) fun _ => settlesBind (deafEventId _ _) fun id => ?_
  refine settlesBind deafSettings fun _ => settlesBind deafNow fun _ => ?_
  refine settlesBind (deafExcept _) fun event => settlesBind (deafAtomically ?_) fun _ => ?_
  · exact deafBind (deafCall _) fun _ => deafGuard (deafCall _)
  · exact (idleBind (idleLog _ _ _) fun _ => idleTell _ _).settles

theorem updateDetailsSettles (organizer given : Raw) (changes : EventChanges) :
    Settles (updateDetails organizer given changes : Action σ Event) := by
  refine settlesBind (deafAuthenticate _ _) fun _ => settlesBind (deafEventId _ _) fun id => ?_
  refine settlesBind (deafAtomically ?_) fun event => ?_
  · refine deafBind (loadEditableDeaf _ _) fun event => deafIte (deafPure _) ?_
    refine deafBind deafSettings fun _ => deafBind deafNow fun _ => deafBind (deafExcept _) fun _ => ?_
    exact deafBind (deafCall _) fun _ => deafPure _
  · split
    · exact (idlePure _).settles
    · exact (idleBind (idleLog _ _ _) fun _ => idleTell _ _).settles

theorem addTierSettles (organizer given : Raw) (spec : TierSpec) :
    Settles (addTier organizer given spec : Action σ Tier) := by
  refine settlesBind (deafAuthenticate _ _) fun _ => settlesBind (deafEventId _ _) fun id => ?_
  refine settlesBind (deafAtomically ?_) fun _ => ?_
  · refine deafBind (loadEditableDeaf _ _) fun event => deafBind (deafExcept _) fun _ => ?_
    refine deafBind deafSettings fun _ => deafBind (deafExcept _) fun _ => ?_
    exact deafBind (deafCall _) fun _ => deafPure _
  · exact (idleBind (idleExcept _) fun _ => idleBind (idleLog _ _ _) fun _ => idleTell _ _).settles

theorem updateTierSettles (organizer given named : Raw) (changes : TierChanges) :
    Settles (updateTier organizer given named changes : Action σ Tier) := by
  refine settlesBind (deafAuthenticate _ _) fun _ => settlesBind (deafEventId _ _) fun id => ?_
  refine settlesBind (deafAtomically ?_) fun ⟨tier, event⟩ => ?_
  · refine deafBind (loadEditableDeaf _ _) fun event => ?_
    split
    · exact deafThrow _
    · refine deafIte (deafPure _) (deafBind deafSettings fun _ => deafBind (deafExcept _) fun _ => ?_)
      exact deafBind (deafCall _) fun _ => deafPure _
  · dsimp only
    split
    · exact (idlePure _).settles
    · exact (idleBind (idleExcept _) fun _ => idleBind (idleLog _ _ _) fun _ => idleTell _ _).settles

omit [RecordStore σ] in
theorem newStatusDeaf (given : Raw) : Deaf (newStatus given : Action σ EventStatus) := by
  unfold newStatus
  split
  · exact deafPure _
  · exact deafThrow _

theorem updateStatusSettles (organizer given wanted : Raw) :
    Settles (updateStatus organizer given wanted : Action σ Event) := by
  refine settlesBind (deafAuthenticate _ _) fun _ => settlesBind (deafEventId _ _) fun id => ?_
  refine settlesBind (newStatusDeaf _) fun status => settlesBind (deafAtomically ?_) fun _ => ?_
  · refine deafBind (loadOwnedDeaf _ _) fun event => deafIte ?_ ?_
    · exact deafBind (deafLog _ _ _) fun _ => deafBind (deafThrow _) fun _ =>
        deafBind (deafCall _) fun _ => deafPure _
    · exact deafBind (deafCall _) fun _ => deafPure _
  · exact (idleBind (idleLog _ _ _) fun _ => idleTell _ _).settles

theorem cancelSettles (organizer given : Raw) : Settles (cancel organizer given : Action σ Event) := by
  refine settlesBind (deafAuthenticate _ _) fun _ => settlesBind (deafEventId _ _) fun id => ?_
  refine settlesBind (deafAtomically ?_) fun _ => ?_
  · refine deafBind (loadOwnedDeaf _ _) fun event => deafGuard ?_
    exact deafBind (deafCall _) fun _ => deafPure _
  · exact (idleBind (idleLog _ _ _) fun _ => idleBind (idleNotify _) fun _ => idleTell _ _).settles

end Registry

namespace Allocation

theorem registerSettles (attendee given named : Raw) :
    Settles (register attendee given named : Action σ Registration) := by
  refine settlesBind (deafAuthenticate _ _) fun _ => settlesBind (deafEventId _ _) fun id => ?_
  refine settlesBind (deafAtomically ?_) fun _ => ?_
  · refine deafBind (Registry.loadDeaf _) fun event => deafGuard ?_
    have records (tier : Tier) : Deaf (do
        let now ← Action.now
        let registration : Registration := ⟨id, attendee, named, now⟩
        let sold ← tier.sell
        Action.call (.addRegistration registration)
        Action.call (.saveEvent (event.withTier sold))
        return (registration, sold) : Action σ (Registration × Tier)) :=
      deafBind deafNow fun _ => deafBind (deafExcept _) fun _ => deafBind (deafCall _) fun _ =>
        deafBind (deafCall _) fun _ => deafPure _
    split
    · exact deafThrow _
    · rename_i tier _
      refine deafBind (deafCall _) fun _ => deafGuard (deafBind (deafExcept _) fun _ => deafIte ?_ ?_)
      · exact deafBind (deafExcept _) fun _ => deafBind (deafLog _ _ _) fun _ =>
          deafBind (deafThrow _) fun _ => records tier
      · exact records tier
  · refine (idleBind (idleExcept _) fun _ => idleBind (idleExcept _) fun _ => ?_).settles
    exact idleBind (idleExcept _) fun _ => idleBind (idleLog _ _ _) fun _ => idleTell _ _

theorem isRegisteredDeaf (given attendee : Raw) : Deaf (isRegistered given attendee : Action σ Bool) :=
  deafBind (Registry.getDeaf _) fun _ => deafCall _

theorem attendeesDeaf (given : Raw) : Deaf (attendees given : Action σ (List Raw)) :=
  deafBind (Registry.getDeaf _) fun _ => deafCall _

end Allocation

namespace Admission

theorem loadDeaf (given : Raw) : Deaf (load given : Action σ Ticket) := by
  refine deafBind (deafCall _) fun found => ?_
  split
  · exact deafPure _
  · exact deafThrow _

omit [RecordStore σ] in
theorem tellIdle (given : Raw) (change : String) (notice : Notice) (ticket : Ticket) :
    Idle (tell given change notice >>= fun _ => (pure ticket : Action σ Ticket)) :=
  idleBind (idleBind (idleExcept _) fun _ => idleBind (idleLog _ _ _) fun _ => idleNotify _)
    fun _ => idlePure _

theorem requireEventDeaf (organizer : Raw) (id : EventId) :
    Deaf (requireEvent organizer id : Action σ Unit) := by
  refine deafBind (deafCall _) fun found => ?_
  split
  · exact deafThrow _
  · exact deafGuard (deafIte (deafThrow _) (deafPure _))

theorem mintSettles (organizer given owner : Raw) :
    Settles (mint organizer given owner : Action σ Ticket) := by
  refine settlesBind (deafAuthenticate _ _) fun _ => settlesBind (deafEventId _ _) fun id => ?_
  refine settlesGuard (settlesBind (deafAtomically (deafGet (fun _ => rfl) fun desk => ?_)) fun _ => ?_)
  · refine deafIte (deafBind (requireEventDeaf _ _) fun _ => ?_) ?_
    all_goals exact deafBind (deafCall _) fun _ => deafBind deafNow fun _ =>
      deafBind (deafCall _) fun _ => deafPure _
  · exact (idleBind (idleLog _ _ _) fun _ => idleTell _ _).settles

theorem transferSettles (source target given : Raw) :
    Settles (transfer source target given : Action σ Ticket) := by
  refine settlesBind (deafAuthenticate _ _) fun _ => settlesGuard (settlesGuard ?_)
  refine settlesBind (deafAtomically ?_) fun _ => (tellIdle _ _ _ _).settles
  refine deafBind (loadDeaf _) fun _ => deafGuard (deafGuard ?_)
  exact deafBind (deafCall _) fun _ => deafBind (deafCall _) fun _ => deafPure _

theorem useSettles (organizer given : Raw) : Settles (use organizer given : Action σ Ticket) := by
  refine settlesBind (deafAuthenticate _ _) fun _ => ?_
  refine settlesBind (deafAtomically ?_) fun _ => (tellIdle _ _ _ _).settles
  refine deafBind (loadDeaf _) fun _ => deafGuard (deafGuard (deafGuard ?_))
  exact deafBind (deafCall _) fun _ => deafPure _

theorem cancelSettles (caller given : Raw) : Settles (cancel caller given : Action σ Ticket) := by
  refine settlesBind (deafAuthenticate _ _) fun _ => ?_
  refine settlesBind (deafAtomically ?_) fun _ => (tellIdle _ _ _ _).settles
  refine deafBind (loadDeaf _) fun _ => deafGuard (deafGuard ?_)
  exact deafBind (deafCall _) fun _ => deafPure _

theorem eventTicketsDeaf (given : Raw) : Deaf (eventTickets given : Action σ (List Raw)) :=
  deafBind (deafEventId _ _) fun _ => deafCall _

end Admission

namespace Escrow

theorem setUpSettles (admin currency : Raw) : Settles (setUp admin currency : Action σ EscrowConfig) := by
  refine settlesBind (deafAtomically (deafBind (deafCall _) fun found => ?_)) fun ⟨config, fresh⟩ => ?_
  · split
    · exact deafPure _
    · refine deafBind (deafAuthenticate _ _) fun _ => deafGuard ?_
      exact deafBind (deafCall _) fun _ => deafPure _
  · dsimp only
    split
    · exact (idleBind (idleLog _ _ _) fun _ => idlePure _).settles
    · exact (idlePure _).settles

theorem configDeaf : Deaf (config : Action σ EscrowConfig) := by
  refine deafBind (deafCall _) fun found => ?_
  split
  · exact deafPure _
  · exact deafThrow _

omit [RecordStore σ] in
theorem transferDeaf (currency source target : Raw) (amount : Decimal) :
    Deaf (transfer currency source target amount : Action σ Bool) := by
  refine deafBind (deafGet (fun _ => rfl) fun _ => deafIte (deafPure _) (deafThrow _)) fun book => ?_
  refine deafBind (deafExcept _) fun held => deafBind (deafExcept _) fun giver => ?_
  refine deafBind (deafModify fun _ => rfl) fun _ => ?_
  split
  · exact deafThrow _
  · exact deafIte (deafBind (deafLog _ _ _) fun _ => deafPure _) (deafPure _)

omit [RecordStore σ] in
theorem giveBackDeaf (currency custody payer : Raw) (amount : Money) :
    Deaf (giveBack currency custody payer amount : Action σ Unit) :=
  deafBind (transferDeaf _ _ _ _) fun _ => deafIte (deafLog _ _ _) (deafLog _ _ _)

theorem recordDeaf (payer : Raw) (id : EventId) (amount : Money) (currency : Raw) :
    Deaf (record payer id amount currency : Action σ (Int × Decimal)) :=
  deafBlock (deafBind (deafCall _) fun _ => deafBind deafNow fun _ => deafBind (deafCall _) fun _ =>
    deafBind (deafCall _) fun _ => deafPure _)

theorem paySettles (payer given sum : Raw) : Settles (pay payer given sum : Action σ Int) := by
  refine settlesBind (deafAuthenticate _ _) fun _ => settlesBind (deafEventId _ _) fun id => ?_
  refine settlesBind (deafExcept _) fun amount => settlesBind configDeaf fun config => ?_
  refine settlesBind deafOpening fun _ => ?_
  refine settlesGet (fun _ => rfl) fun desk => settlesBind (transferDeaf _ _ _ _) fun went => ?_
  split
  · exact settlesBind (deafLog _ _ _) fun _ => fun _ => ⟨rfl, rfl⟩
  · refine settlesBind (deafCatch (recordDeaf _ _ _ _) fun _ => ?_) fun _ => ?_
    · exact deafBind (giveBackDeaf _ _ _ _) fun _ => deafThrow _
    · exact (idleBind (idleLog _ _ _) fun _ => idleTell _ _).settles

theorem paymentDeaf (given : Raw) : Deaf (payment given : Action σ Payment) := by
  refine deafBind (deafCall _) fun found => ?_
  split
  · exact deafPure _
  · exact deafThrow _

theorem revenueDeaf (given : Raw) : Deaf (revenue given : Action σ Decimal) :=
  deafBind (deafEventId _ _) fun _ => deafCall _

theorem eventPaymentsDeaf (given : Raw) : Deaf (eventPayments given : Action σ (List Raw)) :=
  deafBind (deafEventId _ _) fun _ => deafCall _

end Escrow

theorem Operation.runSettles (request : Operation) : Settles (request.run : Action σ Answer) := by
  have wrapped {α : Type} {a : Action σ α} {answer : α → Answer} (settles : Settles a) :
      Settles (a >>= fun value => (pure (answer value) : Action σ Answer)) :=
    settlesThen settles fun _ => idlePure _
  cases request with
  | createEvent => exact wrapped (Registry.createSettles _ _ _ _ _ _ _)
  | updateEventDetails => exact wrapped (Registry.updateDetailsSettles _ _ _)
  | addTicketTier => exact wrapped (Registry.addTierSettles _ _ _)
  | updateTier => exact wrapped (Registry.updateTierSettles _ _ _ _)
  | updateEventStatus => exact wrapped (Registry.updateStatusSettles _ _ _)
  | cancelEvent => exact wrapped (Registry.cancelSettles _ _)
  | getEvent event => exact wrapped (Registry.getDeaf event).settles
  | getEventStatus event => exact wrapped (Registry.getDeaf event).settles
  | listEvents organizer => exact wrapped (deafCall (.listEvents organizer)).settles
  | registerForEvent => exact wrapped (Allocation.registerSettles _ _ _)
  | isRegistered event attendee => exact wrapped (Allocation.isRegisteredDeaf event attendee).settles
  | getAttendees event => exact wrapped (Allocation.attendeesDeaf event).settles
  | setUpEscrow => exact wrapped (Escrow.setUpSettles _ _)
  | getEscrow => exact wrapped Escrow.configDeaf.settles
  | payForTicket => exact wrapped (Escrow.paySettles _ _ _)
  | getPayment given => exact wrapped (Escrow.paymentDeaf given).settles
  | getEventRevenue event => exact wrapped (Escrow.revenueDeaf event).settles
  | getEventPayments event => exact wrapped (Escrow.eventPaymentsDeaf event).settles
  | mintTicket => exact wrapped (Admission.mintSettles _ _ _)
  | transferTicket => exact wrapped (Admission.transferSettles _ _ _)
  | useTicket => exact wrapped (Admission.useSettles _ _)
  | cancelTicket => exact wrapped (Admission.cancelSettles _ _)
  | getTicket given => exact wrapped (Admission.loadDeaf given).settles
  | getOwnerTickets owner => exact wrapped (deafCall (.listOwnerTickets owner)).settles
  | getEventTickets event => exact wrapped (Admission.eventTicketsDeaf event).settles

end BoxOffice
