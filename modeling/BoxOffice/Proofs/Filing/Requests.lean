import BoxOffice.Proofs.Desk.Deaf
import BoxOffice.Proofs.Desk.Leads
import BoxOffice.Proofs.History.Alteration
import BoxOffice.Proofs.Filing.Journal

/-! The events under which a desk files its records. A request files under the event that it names, and under
those of the records it looks up; so a run, whatever disturbs it, files under no event that none of its steps
has named. -/
namespace BoxOffice

def StoreCall.Shows (may : EventId → Prop) : (c : StoreCall) → c.Answer → Prop
  | .getEvent _, found => ∀ event, found = some event → may event.id
  | .getTicket _, found => ∀ ticket, found = some ticket → may ticket.event
  | _, _ => True

namespace Action
variable {σ α β : Type} {filed : σ → List EventId} {may : EventId → Prop} {shown : α → Prop}

def Files (filed : σ → List EventId) (may : EventId → Prop) (a : Action σ α) (shown : α → Prop) : Prop :=
  ∀ desk, (∀ id ∈ filed desk.store, may id) → a.Leads desk (fun _ after => ∀ id ∈ filed after.store, may id)
    fun value after => (∀ id ∈ filed after.store, may id) ∧ shown value

theorem filesPure {value : α} (here : shown value) : Files filed may (pure value) shown :=
  fun _ kept => leadsPure ⟨kept, here⟩

theorem filesThrow {failure : Failure} : Files filed may (throw failure) shown :=
  fun _ kept => leadsThrow kept

theorem filesExcept {value : Except Failure α} (here : ∀ a, value = .ok a → shown a) :
    Files filed may (liftM value) shown := by
  cases value with
  | error failure => exact fun _ kept => kept
  | ok a => exact fun _ kept => ⟨kept, here a rfl⟩

theorem filesValue (value : Except Failure α) : Files filed may (liftM value) fun _ => True :=
  filesExcept fun _ _ => trivial

theorem filesBind {first : Action σ α} {next : α → Action σ β} {middle : α → Prop} {shown : β → Prop}
    (files : Files filed may first middle) (later : ∀ a, middle a → Files filed may (next a) shown) :
    Files filed may (first >>= next) shown :=
  fun desk kept => leadsBind (files desk kept) fun a after there => later a there.2 after there.1

theorem filesMono {a : Action σ α} {other : α → Prop} (files : Files filed may a shown)
    (weaker : ∀ value, shown value → other value) : Files filed may a other :=
  fun desk kept => leadsMono (files desk kept) (fun _ _ there => there) fun value _ there =>
    ⟨there.1, weaker value there.2⟩

theorem filesGet : Files filed may (get : Action σ (Desk σ)) fun _ => True :=
  fun _ kept => ⟨kept, trivial⟩

theorem filesModify {change : Desk σ → Desk σ} (store : ∀ desk, (change desk).store = desk.store) :
    Files filed may (modify change) fun _ => True := by
  intro desk kept
  rw [← store desk] at kept
  exact ⟨kept, trivial⟩

theorem Idle.files {a : Action σ α} (idle : Idle a) : Files filed may a fun _ => True := by
  intro desk kept
  have store := (idle desk).1
  unfold Leads
  split <;> rename_i ends <;> rw [ends] at store <;> rw [← store] at kept
  · exact kept
  · exact ⟨kept, trivial⟩

theorem filesIte {c : Prop} [Decidable c] {yes no : Action σ α} (first : Files filed may yes shown)
    (second : Files filed may no shown) : Files filed may (if c then yes else no) shown := by
  split
  · exact first
  · exact second

theorem filesStop {failure : Failure} {next : α → Action σ β} {shown : β → Prop} :
    Files filed may ((throw failure : Action σ α) >>= next) shown := by
  have stops : Files filed may (throw failure : Action σ α) fun _ => False := filesThrow
  exact filesBind stops fun _ no => no.elim

theorem filesGuard {c : Prop} [Decidable c] {failure : Failure} {next : Unit → Action σ α}
    (later : Files filed may (next ()) shown) :
    Files filed may (if c then (throw failure : Action σ Unit) >>= next else next ()) shown := by
  split
  · exact filesStop
  · exact later

theorem filesCatch {body : Action σ α} {handler : Failure → Action σ α} (first : Files filed may body shown)
    (caught : ∀ failure, Files filed may (handler failure) shown) :
    Files filed may (tryCatch body handler) shown :=
  fun desk kept => leadsCatch (first desk kept) fun failure after there => caught failure after there

theorem filesMapM {f : α → Action σ β} (each : ∀ a, Files filed may (f a) fun _ => True) (items : List α) :
    Files filed may (items.mapM f) fun _ => True := by
  induction items with
  | nil => exact filesPure trivial
  | cons item rest ih =>
    rw [List.mapM_cons]
    exact filesBind (each item) fun _ _ => filesBind ih fun _ _ => filesPure trivial

theorem filesFoldlM {f : β → α → Action σ β} (each : ∀ b a, Files filed may (f b a) fun _ => True)
    (items : List α) (b : β) : Files filed may (items.foldlM f b) fun _ => True := by
  induction items generalizing b with
  | nil => exact filesPure trivial
  | cons item rest ih =>
    rw [List.foldlM_cons]
    exact filesBind (each b item) fun _ _ => ih _

theorem filesLog (level : LogLevel) (source : LogSource) (text : String) :
    Files filed may (log level source text) fun _ => True :=
  filesModify fun _ => rfl

theorem filesNow : Files filed may now fun _ => True :=
  filesBind filesGet fun _ _ => filesPure trivial

theorem filesSettings : Files filed may settings fun _ => True :=
  filesBind filesGet fun _ _ => filesPure trivial

theorem filesAuthenticate (caller : Raw) (refusal : Failure) :
    Files filed may (authenticate caller refusal) fun _ => True :=
  filesBind filesGet fun _ _ => filesBind (filesValue _) fun _ _ => filesIte filesThrow (filesPure trivial)

theorem filesEventId (given : Raw) (refusal : Failure) :
    Files filed may (eventId given refusal) fun id => given = .text id.text := by
  unfold eventId
  split
  · split
    · rename_i read
      exact filesPure (by rw [EventId.textOfText read])
    · exact filesThrow
  · exact filesThrow

theorem filesDisturbed {method : String} {work : Action σ α} (files : Files filed may work shown) :
    Files filed may (disturbed method work) shown := by
  refine filesBind filesGet fun desk _ => ?_
  split
  · exact files
  · exact filesBind (filesModify fun _ => rfl) fun _ _ =>
      filesIte (filesBind files fun _ _ => filesThrow) filesThrow

theorem filesForgetAll (methods : List String) :
    Files filed may (methods.forM (forget (σ := σ))) fun _ => True := by
  induction methods with
  | nil => exact filesPure trivial
  | cons method rest ih => exact filesBind (filesModify fun _ => rfl) fun _ _ => ih

variable [RecordStore σ]

theorem filesOpening : Files filed may (opening : Action σ Unit) fun _ => True := by
  have opens : Files filed may (disturbed blockMethod (pure ()) : Action σ Unit) fun _ => True :=
    filesDisturbed (filesPure trivial)
  refine filesBind opens fun _ _ => filesBind filesGet fun desk _ => ?_
  split
  · exact filesThrow
  · exact filesPure trivial

section
variable (filing : RecordStore.Filing filed)
include filing

theorem filesUndisturbed {c : StoreCall} (own : ∀ id, c.filed? = some id → may id) :
    Files filed may (undisturbed c) (c.Shows may) := by
  intro desk kept
  have after : ∀ id ∈ filed (RecordStore.call c desk.store).2, may id :=
    fun id mem => (filing.called mem).elim (kept id) (own id)
  have shows (answer : c.Answer) (answered : (RecordStore.call c desk.store).1 = .ok answer) :
      c.Shows may answer := by
    cases c with
    | getEvent id => exact fun event found => kept _ (filing.event (found ▸ answered))
    | getTicket given => exact fun ticket found => kept _ (filing.ticket (found ▸ answered))
    | _ => trivial
  unfold Leads undisturbed
  rw [performStep]
  generalize RecordStore.call c desk.store = called at after shows ⊢
  obtain ⟨failure | answer, store⟩ := called
  · exact after
  · exact ⟨after, shows answer rfl⟩

theorem filesInterruptible {c : StoreCall} (own : ∀ id, c.filed? = some id → may id) :
    Files filed may (interruptible c) (c.Shows may) := by
  intro desk kept
  refine bindGet ?_
  split
  · exact filesUndisturbed filing own desk kept
  · rename_i interruption ended
    refine bindModify (filesBind (filesForgetAll _) (fun _ _ => filesThrow) _ fun id mem => ?_)
    exact (filing.ended ended mem).elim (kept id) (own id)

theorem filesCall {c : StoreCall} (own : ∀ id, c.filed? = some id → may id) :
    Files filed may (call c) (c.Shows may) :=
  filesDisturbed (filesBind filesGet fun _ _ =>
    filesIte (filesUndisturbed filing own) (filesInterruptible filing own))

theorem filesBlock {body : Action σ α} (files : Files filed may body shown) :
    Files filed may (block body) shown := by
  intro desk kept
  have inside := files { desk with store := RecordStore.enter desk.store } fun id mem => kept id (filing.entered mem)
  unfold Leads at inside ⊢
  unfold block
  rw [performStep]
  generalize body.perform { desk with store := RecordStore.enter desk.store } = ran at inside ⊢
  obtain ⟨failure | value, after⟩ := ran
  · exact fun id mem => inside id (filing.rolledBack mem)
  · dsimp only
    cases committed : RecordStore.commit after.store with
    | ok store => exact ⟨fun id mem => inside.1 id (filing.committed committed mem), inside.2⟩
    | error failure => exact fun id mem => inside.1 id (filing.rolledBack mem)

theorem filesOwn {c : StoreCall} (own : ∀ id, c.filed? = some id → may id) :
    Files filed may (call c) fun _ => True :=
  filesMono (filesCall filing own) fun _ _ => trivial

theorem filesWork {body : Action σ α} {next : α → Action σ β} (files : Files filed may body fun _ => True)
    (later : ∀ a, Files filed may (next a) fun _ => True) :
    Files filed may (atomically body >>= next) fun _ => True :=
  filesBind (filesBind filesOpening fun _ _ => filesBlock filing files) fun a _ => later a

end
end Action

open BoxOffice.Action
variable {σ : Type} [RecordStore σ] {filed : σ → List EventId} {may : EventId → Prop}
  (filing : RecordStore.Filing filed)

namespace Registry
include filing

theorem loadFiles (id : EventId) : Files filed may (load id : Action σ Event) fun event => may event.id := by
  refine filesBind (filesCall filing nofun) fun found shows => ?_
  split
  · exact filesPure (shows _ rfl)
  · exact filesThrow

theorem loadOwnedFiles (organizer : Raw) (id : EventId) :
    Files filed may (loadOwned organizer id : Action σ Event) fun event => may event.id :=
  filesBind (loadFiles filing id) fun _ own => filesGuard (filesPure own)

theorem loadEditableFiles (organizer : Raw) (id : EventId) :
    Files filed may (loadEditable organizer id : Action σ Event) fun event => may event.id :=
  filesBind (loadOwnedFiles filing organizer id) fun _ own => filesGuard (filesPure own)

theorem saveFiles {α : Type} {event : Event} {id : EventId} (own : may id) (is : event.id = id) (value : α) :
    Files filed may (Action.call (.saveEvent event) >>= fun _ => (pure value : Action σ α)) fun _ => True := by
  subst is
  exact filesBind (filesOwn filing fun _ same => Option.some.inj same ▸ own) fun _ _ => filesPure trivial

theorem getFiles (given : Raw) : Files filed may (get given : Action σ Event) fun _ => True :=
  filesBind (filesEventId _ _) fun id _ => filesMono (loadFiles filing id) fun _ _ => trivial

theorem createFiles (organizer given name description venue : Raw) (date : Option Moment) (specs : List TierSpec)
    (own : ∀ id : EventId, given = .text id.text → may id) :
    Files filed may (create organizer given name description venue date specs : Action σ Event) fun _ => True := by
  refine filesBind (filesAuthenticate _ _) fun _ _ => filesBind (filesEventId _ _) fun id named => ?_
  refine filesBind filesSettings fun _ _ => filesBind filesNow fun _ _ => ?_
  refine filesBind (filesExcept fun _ drafted => (Event.draftOk drafted).id) fun event is => ?_
  refine filesWork filing ?_ fun _ => (idleBind (idleLog _ _ _) fun _ => idleTell _ _).files
  refine filesBind (filesOwn filing nofun) fun _ _ => filesGuard (filesOwn filing ?_)
  rintro other same
  rw [← Option.some.inj same, is]
  exact own id named

theorem updateDetailsFiles (organizer given : Raw) (changes : EventChanges) :
    Files filed may (updateDetails organizer given changes : Action σ Event) fun _ => True := by
  refine filesBind (filesAuthenticate _ _) fun _ _ => filesBind (filesEventId _ _) fun id _ => ?_
  refine filesWork filing ?_ fun event => ?_
  · refine filesBind (loadEditableFiles filing _ _) fun event own => filesIte (filesPure trivial) ?_
    refine filesBind filesSettings fun _ _ => filesBind filesNow fun _ _ => ?_
    refine filesBind (filesExcept fun updated changed => ?_) fun _ is => saveFiles filing is (by rfl) _
    obtain ⟨_, _, _, _, rfl⟩ := Event.changeOk changed
    exact own
  · exact filesIte (filesPure trivial) (idleBind (idleLog _ _ _) fun _ => idleTell _ _).files

theorem addTierFiles (organizer given : Raw) (spec : TierSpec) :
    Files filed may (addTier organizer given spec : Action σ Tier) fun _ => True := by
  refine filesBind (filesAuthenticate _ _) fun _ _ => filesBind (filesEventId _ _) fun id _ => ?_
  refine filesWork filing ?_ fun ⟨tier, event⟩ => ?_
  · refine filesBind (loadEditableFiles filing _ _) fun event own => filesBind (filesValue _) fun _ _ => ?_
    exact filesBind filesSettings fun _ _ => filesBind (filesValue _) fun _ _ => saveFiles filing own (by rfl) _
  · exact (idleBind (idleExcept _) fun _ => idleBind (idleLog _ _ _) fun _ => idleTell _ _).files

theorem updateTierFiles (organizer given named : Raw) (changes : TierChanges) :
    Files filed may (updateTier organizer given named changes : Action σ Tier) fun _ => True := by
  refine filesBind (filesAuthenticate _ _) fun _ _ => filesBind (filesEventId _ _) fun id _ => ?_
  refine filesWork filing ?_ fun ⟨tier, event⟩ => ?_
  · refine filesBind (loadEditableFiles filing _ _) fun event own => ?_
    split
    · exact filesThrow
    · exact filesIte (filesPure trivial) (filesBind filesSettings fun _ _ => filesBind (filesValue _) fun _ _ =>
        saveFiles filing own (by rfl) _)
  · exact filesIte (filesPure trivial)
      (idleBind (idleExcept _) fun _ => idleBind (idleLog _ _ _) fun _ => idleTell _ _).files

omit [RecordStore σ] filing in
theorem newStatusFiles (given : Raw) : Files filed may (newStatus given : Action σ EventStatus) fun _ => True := by
  unfold newStatus
  split
  · exact filesPure trivial
  · exact filesThrow

theorem updateStatusFiles (organizer given wanted : Raw) :
    Files filed may (updateStatus organizer given wanted : Action σ Event) fun _ => True := by
  refine filesBind (filesAuthenticate _ _) fun _ _ => filesBind (filesEventId _ _) fun id _ => ?_
  refine filesBind (newStatusFiles _) fun status _ => filesWork filing ?_ fun ⟨old, event⟩ => ?_
  · refine filesBind (loadOwnedFiles filing _ _) fun event own => filesIte ?_ (saveFiles filing own (by rfl) _)
    exact filesBind (filesLog _ _ _) fun _ _ => filesStop
  · exact (idleBind (idleLog _ _ _) fun _ => idleTell _ _).files

theorem cancelFiles (organizer given : Raw) :
    Files filed may (cancel organizer given : Action σ Event) fun _ => True := by
  refine filesBind (filesAuthenticate _ _) fun _ _ => filesBind (filesEventId _ _) fun id _ => ?_
  refine filesWork filing ?_ fun ⟨old, event⟩ => ?_
  · exact filesBind (loadOwnedFiles filing _ _) fun event own => filesGuard (saveFiles filing own (by rfl) _)
  · exact (idleBind (idleLog _ _ _) fun _ => idleBind (idleNotify _) fun _ => idleTell _ _).files

end Registry

namespace Allocation
include filing

theorem registerFiles (attendee given named : Raw) (own : ∀ id : EventId, given = .text id.text → may id) :
    Files filed may (register attendee given named : Action σ Registration) fun _ => True := by
  refine filesBind (filesAuthenticate _ _) fun _ _ => filesBind (filesEventId _ _) fun id here => ?_
  refine filesWork filing ?_ fun ⟨registration, sold⟩ => ?_
  · refine filesBind (Registry.loadFiles filing _) fun event stored => filesGuard ?_
    have records (tier : Tier) : Files filed may (do
        let now ← Action.now
        let registration : Registration := ⟨id, attendee, named, now⟩
        let sold ← tier.sell
        Action.call (.addRegistration registration)
        Action.call (.saveEvent (event.withTier sold))
        return (registration, sold) : Action σ (Registration × Tier)) fun _ => True :=
      filesBind filesNow fun _ _ => filesBind (filesValue _) fun sold _ =>
        filesBind (filesOwn filing fun other same => Option.some.inj same ▸ own id here) fun _ _ =>
          Registry.saveFiles filing stored (by rfl) _
    split
    · exact filesThrow
    · rename_i tier _
      refine filesBind (filesOwn filing nofun) fun _ _ => filesGuard (filesBind (filesValue _) fun _ _ => ?_)
      refine filesIte ?_ (records tier)
      exact filesBind (filesValue _) fun _ _ => filesBind (filesLog _ _ _) fun _ _ =>
        filesStop
  · refine (idleBind (idleExcept _) fun _ => idleBind (idleExcept _) fun _ => ?_).files
    exact idleBind (idleExcept _) fun _ => idleBind (idleLog _ _ _) fun _ => idleTell _ _

theorem isRegisteredFiles (given attendee : Raw) :
    Files filed may (isRegistered given attendee : Action σ Bool) fun _ => True :=
  filesBind (Registry.getFiles filing _) fun _ _ => filesOwn filing nofun

theorem attendeesFiles (given : Raw) : Files filed may (attendees given : Action σ (List Raw)) fun _ => True :=
  filesBind (Registry.getFiles filing _) fun _ _ => filesOwn filing nofun

end Allocation

namespace Admission
include filing

theorem loadFiles (given : Raw) :
    Files filed may (load given : Action σ Ticket) fun ticket => may ticket.event := by
  refine filesBind (filesCall filing nofun) fun found shows => ?_
  split
  · exact filesPure (shows _ rfl)
  · exact filesThrow

theorem requireEventFiles (organizer : Raw) (id : EventId) :
    Files filed may (requireEvent organizer id : Action σ Unit) fun _ => True := by
  refine filesBind (filesCall filing nofun) fun found _ => ?_
  split
  · exact filesThrow
  · exact filesGuard (filesIte filesThrow (filesPure trivial))

theorem saveFiles {α : Type} {ticket : Ticket} {id : EventId} (own : may id) (is : ticket.event = id)
    {next : Action σ α} (later : Files filed may next fun _ => True) :
    Files filed may (Action.call (.saveTicket ticket) >>= fun _ => next) fun _ => True := by
  subst is
  exact filesBind (filesOwn filing fun _ same => Option.some.inj same ▸ own) fun _ _ => later

theorem mintFiles (organizer given owner : Raw) (own : ∀ id : EventId, given = .text id.text → may id) :
    Files filed may (mint organizer given owner : Action σ Ticket) fun _ => True := by
  refine filesBind (filesAuthenticate _ _) fun _ _ => filesBind (filesEventId _ _) fun id named => filesGuard ?_
  refine filesWork filing (filesBind filesGet fun desk _ => ?_) fun ⟨number, ticket⟩ => ?_
  · refine filesIte (filesBind (requireEventFiles filing _ _) fun _ _ => ?_) ?_
    all_goals exact filesBind (filesOwn filing nofun) fun _ _ => filesBind filesNow fun _ _ =>
      filesBind (filesOwn filing fun other same => Option.some.inj same ▸ own id named) fun _ _ => filesPure trivial
  · exact (idleBind (idleLog _ _ _) fun _ => idleTell _ _).files

theorem transferFiles (source target given : Raw) :
    Files filed may (transfer source target given : Action σ Ticket) fun _ => True := by
  refine filesBind (filesAuthenticate _ _) fun _ _ => filesGuard (filesGuard ?_)
  refine filesWork filing ?_ fun _ => (tellIdle _ _ _ _).files
  refine filesBind (loadFiles filing _) fun ticket own => filesGuard (filesGuard (saveFiles filing own (by rfl) ?_))
  exact filesBind (filesOwn filing nofun) fun _ _ => filesPure trivial

theorem useFiles (organizer given : Raw) :
    Files filed may (use organizer given : Action σ Ticket) fun _ => True := by
  refine filesBind (filesAuthenticate _ _) fun _ _ => filesWork filing ?_ fun _ => (tellIdle _ _ _ _).files
  exact filesBind (loadFiles filing _) fun ticket own => filesGuard (filesGuard (filesGuard
    (saveFiles filing own (by rfl) (filesPure trivial))))

theorem cancelFiles (caller given : Raw) :
    Files filed may (cancel caller given : Action σ Ticket) fun _ => True := by
  refine filesBind (filesAuthenticate _ _) fun _ _ => filesWork filing ?_ fun _ => (tellIdle _ _ _ _).files
  exact filesBind (loadFiles filing _) fun ticket own => filesGuard (filesGuard
    (saveFiles filing own (by rfl) (filesPure trivial)))

theorem eventTicketsFiles (given : Raw) :
    Files filed may (eventTickets given : Action σ (List Raw)) fun _ => True :=
  filesBind (filesEventId _ _) fun _ _ => filesOwn filing nofun

end Admission

namespace Escrow
include filing

theorem setUpFiles (admin currency : Raw) :
    Files filed may (setUp admin currency : Action σ EscrowConfig) fun _ => True := by
  refine filesWork filing (filesBind (filesOwn filing nofun) fun found _ => ?_) fun ⟨config, fresh⟩ => ?_
  · split
    · exact filesPure trivial
    · exact filesBind (filesAuthenticate _ _) fun _ _ => filesGuard (filesBind (filesOwn filing nofun) fun _ _ =>
        filesPure trivial)
  · dsimp only
    exact filesIte (filesBind (filesLog _ _ _) fun _ _ => filesPure trivial) (filesPure trivial)

theorem configFiles : Files filed may (config : Action σ EscrowConfig) fun _ => True := by
  refine filesBind (filesOwn filing nofun) fun found _ => ?_
  split
  · exact filesPure trivial
  · exact filesThrow

omit [RecordStore σ] filing in
theorem bookFiles : Files filed may (Action.book : Action σ Funds) fun _ => True :=
  filesBind filesGet fun _ _ => filesIte (filesPure trivial) filesThrow

omit [RecordStore σ] filing in
theorem transferFiles (currency source target : Raw) (amount : Decimal) :
    Files filed may (transfer currency source target amount : Action σ Bool) fun _ => True := by
  refine filesBind bookFiles fun book _ => filesBind (filesValue _) fun held _ =>
    filesBind (filesValue _) fun giver _ => filesBind (filesModify fun _ => rfl) fun _ _ => ?_
  split
  · exact filesThrow
  · exact filesIte (filesBind (filesLog _ _ _) fun _ _ => filesPure trivial) (filesPure trivial)

omit [RecordStore σ] filing in
theorem giveBackFiles (currency custody payer : Raw) (amount : Money) :
    Files filed may (giveBack currency custody payer amount : Action σ Unit) fun _ => True :=
  filesBind (transferFiles _ _ _ _) fun _ _ => filesIte (filesLog _ _ _) (filesLog _ _ _)

theorem recordFiles (payer : Raw) {id : EventId} (own : may id) (amount : Money) (currency : Raw) :
    Files filed may (record payer id amount currency : Action σ (Int × Decimal)) fun _ => True :=
  filesBlock filing (filesBind (filesOwn filing nofun) fun _ _ => filesBind filesNow fun _ _ =>
    filesBind (filesOwn filing fun _ same => Option.some.inj same ▸ own) fun _ _ =>
      filesBind (filesOwn filing nofun) fun _ _ => filesPure trivial)

theorem payFiles (payer given sum : Raw) (own : ∀ id : EventId, given = .text id.text → may id) :
    Files filed may (pay payer given sum : Action σ Int) fun _ => True := by
  refine filesBind (filesAuthenticate _ _) fun _ _ => filesBind (filesEventId _ _) fun id named => ?_
  refine filesBind (filesValue _) fun amount _ => filesBind (configFiles filing) fun config _ => ?_
  refine filesBind filesOpening fun _ _ => filesBind filesGet fun desk _ => ?_
  refine filesBind (transferFiles _ _ _ _) fun went _ => filesIte ?_ ?_
  · exact filesBind (filesLog _ _ _) fun _ _ => filesStop
  · refine filesBind (filesCatch (recordFiles filing _ (own id named) _ _) fun _ => ?_) fun ⟨number, revenue⟩ _ => ?_
    · exact filesBind (giveBackFiles _ _ _ _) fun _ _ => filesThrow
    · exact (idleBind (idleLog _ _ _) fun _ => idleTell _ _).files

theorem paymentFiles (given : Raw) : Files filed may (payment given : Action σ Payment) fun _ => True := by
  refine filesBind (filesOwn filing nofun) fun found _ => ?_
  split
  · exact filesPure trivial
  · exact filesThrow

theorem revenueFiles (given : Raw) : Files filed may (revenue given : Action σ Decimal) fun _ => True :=
  filesBind (filesEventId _ _) fun _ _ => filesOwn filing nofun

theorem eventPaymentsFiles (given : Raw) :
    Files filed may (eventPayments given : Action σ (List Raw)) fun _ => True :=
  filesBind (filesEventId _ _) fun _ _ => filesOwn filing nofun

end Escrow

include filing in
theorem Operation.runFiles (request : Operation)
    (own : ∀ id : EventId, request.event? = some (.text id.text) → may id) :
    Files filed may (request.run : Action σ Answer) fun _ => True := by
  have wrapped {α : Type} {a : Action σ α} {answer : α → Answer} (files : Files filed may a fun _ => True) :
      Files filed may (a >>= fun value => (pure (answer value) : Action σ Answer)) fun _ => True :=
    filesBind files fun _ _ => filesPure trivial
  have named {given : Raw} (asks : request.event? = some given) (id : EventId) (is : given = .text id.text) :
      may id := own id (is ▸ asks)
  cases request with
  | createEvent => exact wrapped (Registry.createFiles filing _ _ _ _ _ _ _ (named rfl))
  | updateEventDetails => exact wrapped (Registry.updateDetailsFiles filing _ _ _)
  | addTicketTier => exact wrapped (Registry.addTierFiles filing _ _ _)
  | updateTier => exact wrapped (Registry.updateTierFiles filing _ _ _ _)
  | updateEventStatus => exact wrapped (Registry.updateStatusFiles filing _ _ _)
  | cancelEvent => exact wrapped (Registry.cancelFiles filing _ _)
  | getEvent event => exact wrapped (Registry.getFiles filing event)
  | getEventStatus event => exact wrapped (Registry.getFiles filing event)
  | listEvents organizer => exact wrapped (filesOwn filing nofun)
  | registerForEvent => exact wrapped (Allocation.registerFiles filing _ _ _ (named rfl))
  | isRegistered event attendee => exact wrapped (Allocation.isRegisteredFiles filing event attendee)
  | getAttendees event => exact wrapped (Allocation.attendeesFiles filing event)
  | setUpEscrow => exact wrapped (Escrow.setUpFiles filing _ _)
  | getEscrow => exact wrapped (Escrow.configFiles filing)
  | payForTicket => exact wrapped (Escrow.payFiles filing _ _ _ (named rfl))
  | getPayment given => exact wrapped (Escrow.paymentFiles filing given)
  | getEventRevenue event => exact wrapped (Escrow.revenueFiles filing event)
  | getEventPayments event => exact wrapped (Escrow.eventPaymentsFiles filing event)
  | mintTicket => exact wrapped (Admission.mintFiles filing _ _ _ (named rfl))
  | transferTicket => exact wrapped (Admission.transferFiles filing _ _ _)
  | useTicket => exact wrapped (Admission.useFiles filing _ _)
  | cancelTicket => exact wrapped (Admission.cancelFiles filing _ _)
  | getTicket given =>
    exact wrapped (filesMono (Admission.loadFiles filing given) fun _ _ => trivial)
  | getOwnerTickets owner => exact wrapped (filesOwn filing nofun)
  | getEventTickets event => exact wrapped (Admission.eventTicketsFiles filing event)

end BoxOffice
