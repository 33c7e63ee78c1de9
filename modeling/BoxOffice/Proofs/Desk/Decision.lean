import BoxOffice.Proofs.Desk.Ruling

/-! The rulings on requests about events, each a pure function of what is recorded about the event. -/
namespace BoxOffice

structure Dossier where
  event : Option Event
  registered : Label → Bool

def View.dossier (v : View) (id : EventId) : Dossier :=
  ⟨v.events.get? id, fun party => v.registrations.contains (id, party)⟩

namespace Dossier

section
variable (dossier : Dossier) (settings : Settings) (now : Option Moment) (id : EventId)

def loaded : Except Failure Event :=
  match dossier.event with
  | some event => .ok event
  | none => .error (.eventMissing id)

def owned (organizer : Raw) : Except Failure Event := do
  let event ← dossier.loaded id
  if !event.organizer.same organizer then throw (.event .notOrganizer)
  return event

def editable (organizer : Raw) : Except Failure Event := do
  let event ← dossier.owned id organizer
  if !event.status.isEditable then throw (.event .notEditable)
  return event

def create (event : Event) : Except Failure (Ruled Unit) := do
  if dossier.event.isSome then throw (.event .alreadyExists)
  return ((), [.event event])

def updateDetails (organizer : Raw) (changes : EventChanges) : Except Failure (Ruled Event) := do
  let event ← dossier.editable id organizer
  if changes.isEmpty then return (event, [])
  let updated ← event.change settings now changes
  return (updated, [.event updated])

def addTier (organizer : Raw) (spec : TierSpec) : Except Failure (Ruled (Tier × Event)) := do
  let event ← dossier.editable id organizer
  let next ← event.nextTierId
  let tier ← Tier.ofSpec settings next spec
  return ((tier, event.withTier tier), [.event (event.withTier tier)])

def updateTier (organizer named : Raw) (changes : TierChanges) : Except Failure (Ruled (Tier × Event)) := do
  let event ← dossier.editable id organizer
  match event.tier? named with
  | none => throw (.event .tierNotFound)
  | some tier =>
    if changes.isEmpty then return ((tier, event), [])
    let updated ← tier.change settings changes
    return ((updated, event.withTier updated), [.event (event.withTier updated)])

def updateStatus (organizer : Raw) (status : EventStatus) : Except Failure (Ruled (EventStatus × Event)) := do
  let event ← dossier.owned id organizer
  if !event.status.canBecome status then throw (.event (.invalidTransition event.status status))
  return ((event.status, { event with status }), [.event { event with status }])

def cancel (organizer : Raw) : Except Failure (Ruled (EventStatus × Event)) := do
  let event ← dossier.owned id organizer
  if !event.status.canCancel then throw (.event (.cannotCancel event.status))
  let updated := { event with status := .cancelled }
  return ((event.status, updated), [.event updated])

def register (attendee named : Raw) : Except Failure (Ruled (Registration × Tier)) := do
  let event ← dossier.loaded id
  if event.status ≠ .active then throw (.event .notActive)
  match event.tier? named with
  | none => throw (.event .tierNotFound)
  | some tier =>
    let party ← Checked.label attendee
    if dossier.registered party then throw (.event .alreadyRegistered)
    if ← tier.isSoldOut then throw (.event .tierSoldOut)
    let sold ← tier.sell
    let registration : Registration := ⟨id, attendee, named, now⟩
    return ((registration, sold),
      [.registration party registration, .attendee id attendee, .event (event.withTier sold)])

end

variable {dossier : Dossier} {id : EventId} {organizer : Raw} {event : Event}

theorem loadedOk (ok : dossier.loaded id = .ok event) : dossier.event = some event := by
  unfold loaded at ok
  split at ok
  · cases ok
    assumption
  · cases ok

theorem ownedOk (ok : dossier.owned id organizer = .ok event) :
    dossier.event = some event ∧ event.organizer.same organizer = true := by
  obtain ⟨found, here, ok⟩ := bindOk ok
  obtain ⟨own, ok⟩ := guardOk ok
  cases ok
  exact ⟨loadedOk here, by simpa using own⟩

theorem editableOk (ok : dossier.editable id organizer = .ok event) :
    dossier.event = some event ∧ event.organizer.same organizer = true ∧ event.status = .upcoming := by
  obtain ⟨found, here, ok⟩ := bindOk ok
  obtain ⟨editable, ok⟩ := guardOk ok
  cases ok
  obtain ⟨there, own⟩ := ownedOk here
  exact ⟨there, own, by simpa [EventStatus.isEditable] using editable⟩

theorem editableOwned (stored : dossier.event = some event) (own : event.organizer.same organizer = true)
    (upcoming : event.status = .upcoming) : dossier.editable id organizer = .ok event := by
  simp [editable, owned, loaded, stored, own, upcoming, EventStatus.isEditable, bind, Except.bind, pure, Except.pure]

theorem createOk {made : Unit} {edits : List Edit} (ok : dossier.create event = .ok (made, edits)) :
    dossier.event = none ∧ edits = [.event event] := by
  unfold create at ok
  obtain ⟨free, ok⟩ := guardOk ok
  cases ok
  exact ⟨by simpa using free, rfl⟩

theorem updateDetailsOk {settings : Settings} {now : Option Moment} {changes : EventChanges} {made : Event}
    {edits : List Edit} (ok : dossier.updateDetails settings now id organizer changes = .ok (made, edits)) :
    ∃ event, dossier.editable id organizer = .ok event ∧
      if changes.isEmpty then made = event ∧ edits = []
      else event.change settings now changes = .ok made ∧ edits = [.event made] := by
  obtain ⟨event, loaded, ok⟩ := bindOk ok
  refine ⟨event, loaded, ?_⟩
  by_cases none : changes.isEmpty = true
  · rw [if_pos none] at ok ⊢
    cases ok
    exact ⟨rfl, rfl⟩
  · rw [if_neg none] at ok ⊢
    obtain ⟨updated, changed, ok⟩ := bindOk ok
    cases ok
    exact ⟨changed, rfl⟩

theorem addTierOk {settings : Settings} {spec : TierSpec} {made : Tier × Event} {edits : List Edit}
    (ok : dossier.addTier settings id organizer spec = .ok (made, edits)) :
    ∃ event next, dossier.editable id organizer = .ok event ∧ event.nextTierId = .ok next ∧
      Tier.ofSpec settings next spec = .ok made.1 ∧ made.2 = event.withTier made.1 ∧
      edits = [.event made.2] := by
  obtain ⟨event, loaded, ok⟩ := bindOk ok
  obtain ⟨next, above, ok⟩ := bindOk ok
  obtain ⟨tier, checked, ok⟩ := bindOk ok
  cases ok
  exact ⟨event, next, loaded, above, checked, rfl, rfl⟩

theorem updateTierOk {settings : Settings} {named : Raw} {changes : TierChanges} {made : Tier × Event}
    {edits : List Edit} (ok : dossier.updateTier settings id organizer named changes = .ok (made, edits)) :
    ∃ event tier, dossier.editable id organizer = .ok event ∧ event.tier? named = some tier ∧
      if changes.isEmpty then made = (tier, event) ∧ edits = []
      else tier.change settings changes = .ok made.1 ∧ made.2 = event.withTier made.1 ∧
        edits = [.event made.2] := by
  obtain ⟨event, loaded, ok⟩ := bindOk ok
  cases found : event.tier? named with
  | none =>
    rw [found] at ok
    cases ok
  | some tier =>
    simp only [found] at ok
    refine ⟨event, tier, loaded, found, ?_⟩
    by_cases none : changes.isEmpty = true
    · rw [if_pos none] at ok ⊢
      cases ok
      exact ⟨rfl, rfl⟩
    · rw [if_neg none] at ok ⊢
      obtain ⟨updated, changed, ok⟩ := bindOk ok
      cases ok
      exact ⟨changed, rfl, rfl⟩

theorem updateStatusOk {status : EventStatus} {made : EventStatus × Event} {edits : List Edit}
    (ok : dossier.updateStatus id organizer status = .ok (made, edits)) :
    ∃ event, dossier.owned id organizer = .ok event ∧ event.status.canBecome status = true ∧
      made = (event.status, { event with status }) ∧ edits = [.event { event with status }] := by
  obtain ⟨event, loaded, ok⟩ := bindOk ok
  obtain ⟨allowed, ok⟩ := guardOk ok
  cases ok
  exact ⟨event, loaded, by simpa using allowed, rfl, rfl⟩

theorem cancelOk {made : EventStatus × Event} {edits : List Edit}
    (ok : dossier.cancel id organizer = .ok (made, edits)) :
    ∃ event, dossier.owned id organizer = .ok event ∧ event.status.canCancel = true ∧
      made = (event.status, { event with status := .cancelled }) ∧
      edits = [.event { event with status := .cancelled }] := by
  obtain ⟨event, loaded, ok⟩ := bindOk ok
  obtain ⟨allowed, ok⟩ := guardOk ok
  cases ok
  exact ⟨event, loaded, by simpa using allowed, rfl, rfl⟩

theorem registerOk {now : Option Moment} {attendee named : Raw} {made : Registration × Tier}
    {edits : List Edit} (ok : dossier.register now id attendee named = .ok (made, edits)) :
    ∃ event tier party, dossier.event = some event ∧ event.status = .active ∧
      event.tier? named = some tier ∧ Label.ofRaw? attendee = some party ∧
      dossier.registered party = false ∧ tier.isSoldOut = .ok false ∧ tier.sell = .ok made.2 ∧
      made.1 = ⟨id, attendee, named, now⟩ ∧
      edits = [.registration party made.1, .attendee id attendee, .event (event.withTier made.2)] := by
  obtain ⟨event, loaded, ok⟩ := bindOk ok
  obtain ⟨active, ok⟩ := guardOk ok
  cases found : event.tier? named with
  | none =>
    rw [found] at ok
    cases ok
  | some tier =>
    rw [found] at ok
    obtain ⟨party, checked, ok⟩ := bindOk ok
    obtain ⟨free, ok⟩ := guardOk ok
    obtain ⟨full, places, ok⟩ := bindOk ok
    obtain ⟨room, ok⟩ := guardOk ok
    obtain ⟨sold, sells, ok⟩ := bindOk ok
    cases ok
    refine ⟨event, tier, party, loadedOk loaded, by simpa using active, found, labelled checked,
      by simpa using free, ?_, sells, rfl, rfl⟩
    rw [places, show full = false by simpa using room]

end Dossier

def Operation.onEvent? : Operation → Option (Raw × Raw)
  | createEvent caller event _ _ _ _ _ | updateEventDetails caller event _
  | addTicketTier caller event _ | updateTier caller event _ _ | updateEventStatus caller event _
  | cancelEvent caller event | registerForEvent caller event _ => some (caller, event)
  | _ => none

def Operation.rulingOn (settings : Settings) (now : Option Moment) (id : EventId) (dossier : Dossier) :
    Operation → Except Failure (Ruled Answer)
  | createEvent organizer _ name description venue date specs => do
    let event ← Event.draft settings now organizer id name description venue date specs
    Ruling.answer (fun _ => .event event) (dossier.create event)
  | updateEventDetails organizer _ changes =>
    Ruling.answer .event (dossier.updateDetails settings now id organizer changes)
  | addTicketTier organizer _ spec =>
    Ruling.answer (fun made => .tier made.1) (dossier.addTier settings id organizer spec)
  | updateTier organizer _ named changes =>
    Ruling.answer (fun made => .tier made.1) (dossier.updateTier settings id organizer named changes)
  | updateEventStatus organizer _ wanted =>
    match EventStatus.ofRaw? wanted with
    | none => .error (.event (.unknownStatus wanted.shown))
    | some status => Ruling.answer (fun made => .event made.2) (dossier.updateStatus id organizer status)
  | cancelEvent organizer _ =>
    Ruling.answer (fun made => .event made.2) (dossier.cancel id organizer)
  | registerForEvent attendee _ named =>
    Ruling.answer (fun made => .registration made.1) (dossier.register now id attendee named)
  | _ => .error .notOffered

def EventId.named (given : Raw) : Except Failure EventId :=
  match given with
  | .text text =>
    match EventId.ofText? text with
    | some id => .ok id
    | none => .error (.event .malformedId)
  | _ => .error (.event .malformedId)

def Desk.attends {α : Type} (desk : Desk Journal) (caller given : Raw)
    (ruling : EventId → Except Failure (Ruled α)) : Except Failure (Ruled α) := do
  desk.admits caller (.event .callerNotVerified)
  let id ← EventId.named given
  ruling id

theorem EventId.namedText {given : Raw} {id : EventId} (named : EventId.named given = .ok id) :
    given = .text id.text := by
  unfold EventId.named at named
  split at named
  · split at named <;> cases named
    rename_i read
    rw [EventId.textOfText read]
  · cases named

theorem EventId.namedSelf (id : EventId) : EventId.named (.text id.text) = .ok id := by
  simp only [EventId.named, EventId.ofTextSelf]

section
variable {α : Type} {desk : Desk Journal} {caller given : Raw} {failure : Failure} {id : EventId} {u : Unit}
  {ruling : EventId → Except Failure (Ruled α)}

theorem Desk.attendsUnknown (refused : desk.admits caller (.event .callerNotVerified) = .error failure) :
    desk.attends caller given ruling = .error failure := by
  rw [attends, refused]
  rfl

theorem Desk.attendsUnnamed (admitted : desk.admits caller (.event .callerNotVerified) = .ok u)
    (named : EventId.named given = .error failure) : desk.attends caller given ruling = .error failure := by
  rw [attends, admitted, named]
  rfl

theorem Desk.attendsNamed (admitted : desk.admits caller (.event .callerNotVerified) = .ok u)
    (named : EventId.named given = .ok id) : desk.attends caller given ruling = ruling id := by
  rw [attends, admitted, named]
  rfl

end

def Operation.ruling (desk : Desk Journal) (request : Operation) (caller given : Raw) :
    Except Failure (Ruled Answer) :=
  desk.attends caller given fun id =>
    request.rulingOn desk.settings desk.clock id (desk.view.dossier id)

namespace Registry
open BoxOffice.Action
variable {desk : Desk Journal}

theorem performNamed {σ : Type} {desk : Desk σ} (given : Raw) :
    (eventId given).perform desk = (EventId.named given, desk) := by
  cases given with
  | text text =>
    simp only [eventId, Action.eventId, EventId.named]
    cases EventId.ofText? text <;> rfl
  | nothing | truth _ | whole _ | fraction _ | list _ | record _ => rfl

theorem rulesEventId (given : Raw) :
    (eventId given : Action Journal EventId).Rules desk (Ruling.read (EventId.named given)) :=
  rulesReads fun _ _ => performNamed given

theorem rulesLoad (quiet : desk.Quiet) (id : EventId) :
    (load id).Rules desk (Ruling.read ((desk.view.dossier id).loaded id)) := by
  have planned : desk.store.tables.plan (.getEvent id) = (.ok (desk.view.events.get? id), []) := rfl
  unfold load Dossier.loaded View.dossier
  refine bindRests (@rulesCall desk quiet (.getEvent id) (.ok (desk.view.events.get? id, [])) planned) ?_
  cases desk.view.events.get? id with
  | some event => exact rulesPure event
  | none => exact rulesThrow _

theorem rulesLoadOwned (quiet : desk.Quiet) (organizer : Raw) (id : EventId) :
    (loadOwned organizer id).Rules desk (Ruling.read ((desk.view.dossier id).owned id organizer)) := by
  unfold loadOwned Dossier.owned
  rw [Ruling.readBind]
  refine bindReads (rulesLoad quiet id) fun event _ => ?_
  cases event.organizer.same organizer with
  | true => exact rulesPure event
  | false => exact rulesThrow _

theorem rulesLoadEditable (quiet : desk.Quiet) (organizer : Raw) (id : EventId) :
    (loadEditable organizer id).Rules desk (Ruling.read ((desk.view.dossier id).editable id organizer)) := by
  unfold loadEditable Dossier.editable
  rw [Ruling.readBind]
  refine bindReads (rulesLoadOwned quiet organizer id) fun event _ => ?_
  cases event.status.isEditable with
  | true => exact rulesPure event
  | false => exact rulesThrow _

theorem rulesSaved {α : Type} (quiet : desk.Quiet) {updated : Event} {value : α}
    (stored : ∃ event, desk.view.events.get? updated.id = some event) :
    (call (.saveEvent updated) >>= fun _ => (pure value : Action Journal α)).Rules desk
      (.ok (value, [.event updated])) := by
  have known : desk.store.tables.events.contains updated.id = true := Option.isSome_iff_exists.mpr stored
  refine @bindWrites _ _ _ _ () [.event updated] [] _ _ (rulesCall quiet ?_) (rulesPure value)
  simp only [Tables.plan, known, if_true]
  rfl

theorem rulesTold {α : Type} (quiet : desk.Quiet) (text : String) (notice : Notice) (value : α) :
    (info text >>= fun _ => Action.notify notice >>= fun _ => (pure value : Action Journal α)).Rules desk
      (.ok (value, [])) :=
  bindRests (rulesLog _ _ _) (bindRests (rulesNotify quiet notice) (rulesPure value))

theorem bindAttends {α : Type} {caller given : Raw} {next : EventId → Action Journal α}
    {ruling : EventId → Except Failure (Ruled α)}
    (later : ∀ id, EventId.named given = .ok id → (next id).Rules desk (ruling id)) :
    (authenticate caller >>= fun _ => eventId given >>= next).Rules desk (desk.attends caller given ruling) :=
  bindReads (rulesAuthenticate _ _) fun _ _ => bindReads (rulesEventId given) later

section
variable (quiet : desk.Quiet) (idle : desk.store.Idle)
include quiet idle

theorem createRules (organizer given name description venue : Raw) (date : Option Moment)
    (specs : List TierSpec) :
    (create organizer given name description venue date specs).Rules desk
      (desk.attends organizer given fun id => do
        let event ← Event.draft desk.settings desk.clock organizer id name description venue date specs
        Ruling.answer (fun _ => event) ((desk.view.dossier id).create event)) := by
  unfold create
  refine bindAttends fun id _ => ?_
  refine bindRests rulesSettings (bindRests rulesNow ?_)
  refine bindReads (rulesExcept _) fun event drafted => ?_
  obtain rfl := (Event.draftOk drafted).id
  refine bindTells (rulesAtomically quiet idle ?_) fun _ edits _ => ?_
  · have planned : desk.store.tables.plan (.eventExists event.id) =
        (.ok (desk.view.events.get? event.id).isSome, []) := rfl
    unfold Dossier.create View.dossier
    refine bindRests (@rulesCall _ (quiet.withStore _) (.eventExists event.id) (.ok (_, [])) planned) ?_
    refine guardRules fun free => ?_
    refine @rulesCall _ (quiet.withStore _) (.addEvent event) (.ok ((), [.event event])) ?_
    simp only [Tables.plan]
    exact if_neg free
  · exact rulesTold (quiet.withStore _) _ _ _

theorem updateDetailsRules (regular : desk.view.Regular) (organizer given : Raw) (changes : EventChanges) :
    (updateDetails organizer given changes).Rules desk
      (desk.attends organizer given fun id =>
        (desk.view.dossier id).updateDetails desk.settings desk.clock id organizer changes) := by
  unfold updateDetails
  refine bindAttends fun id _ => ?_
  refine bindTellsSame (rulesAtomically quiet idle ?_) fun event edits _ => ?_
  · refine bindReads (rulesLoadEditable (quiet.withStore _) organizer id) fun event loaded => ?_
    obtain ⟨stored, _⟩ := Dossier.editableOk loaded
    by_cases none : changes.isEmpty = true
    · rw [if_pos none, if_pos none]
      exact rulesPure event
    · rw [if_neg none, if_neg none]
      refine bindRests rulesSettings (bindRests rulesNow ?_)
      refine bindReads (rulesExcept _) fun updated changed => ?_
      obtain ⟨name, description, venue, date, rfl⟩ := Event.changeOk changed
      obtain rfl := regular.named stored
      exact rulesSaved (quiet.withStore _) ⟨event, stored⟩
  · split
    · exact rulesPure event
    · exact rulesTold (quiet.withStore _) _ _ _

theorem addTierRules {organizer given : Raw} (spec : TierSpec)
    (regular : ∀ id event, EventId.named given = .ok id → desk.view.events.get? id = some event →
      event.id = id ∧ ∀ tier ∈ event.tiers, tier.Regular) :
    (addTier organizer given spec).Rules desk
      (desk.attends organizer given fun id =>
        Ruling.answer Prod.fst ((desk.view.dossier id).addTier desk.settings id organizer spec)) := by
  unfold addTier
  refine bindAttends fun id named => ?_
  refine bindTells (rulesAtomically quiet idle ?_) fun made edits ruled => ?_
  · refine bindReads (rulesLoadEditable (quiet.withStore _) organizer id) fun event loaded => ?_
    obtain ⟨stored, _⟩ := Dossier.editableOk loaded
    obtain ⟨rfl, _⟩ := regular id event named stored
    refine bindReads (rulesExcept _) fun next _ => bindRests rulesSettings ?_
    refine bindReads (rulesExcept _) fun tier _ => ?_
    exact rulesSaved (quiet.withStore _) ⟨event, stored⟩
  · obtain ⟨event, next, loaded, above, checked, _, _⟩ := Dossier.addTierOk ruled
    obtain ⟨stored, _⟩ := Dossier.editableOk loaded
    obtain ⟨n, whole, _⟩ := Event.nextTierIdWhole (regular id event named stored).2
    cases above.symm.trans whole
    obtain ⟨name, price, capacity, _, _, _, fresh⟩ := Tier.ofSpecOk checked
    obtain ⟨tier, updated⟩ := made
    have key : tier.id.key = .whole n := congrArg (fun tier : Tier => tier.id.key) fresh
    exact bindPart key fun _ => rulesTold (quiet.withStore _) _ _ _

theorem updateTierRules (regular : desk.view.Regular) (organizer given named : Raw)
    (changes : TierChanges) :
    (updateTier organizer given named changes).Rules desk
      (desk.attends organizer given fun id =>
        Ruling.answer Prod.fst ((desk.view.dossier id).updateTier desk.settings id organizer named changes)) := by
  unfold updateTier
  refine bindAttends fun id _ => ?_
  refine bindTells (rulesAtomically quiet idle ?_) fun made edits ruled => ?_
  · refine bindReads (rulesLoadEditable (quiet.withStore _) organizer id) fun event loaded => ?_
    obtain ⟨stored, _⟩ := Dossier.editableOk loaded
    obtain rfl := regular.named stored
    cases event.tier? named with
    | none => exact rulesThrow _
    | some tier =>
      by_cases none : changes.isEmpty = true
      · simp only [if_pos none]
        exact rulesPure _
      · simp only [if_neg none]
        refine bindRests rulesSettings (bindReads (rulesExcept _) fun updated _ => ?_)
        exact rulesSaved (quiet.withStore _) ⟨event, stored⟩
  · obtain ⟨tier, updated⟩ := made
    obtain ⟨event, old, loaded, found, _⟩ := Dossier.updateTierOk ruled
    obtain ⟨stored, _⟩ := Dossier.editableOk loaded
    obtain ⟨n, _, key⟩ := Event.namedWhole found (regular.tiers stored)
    by_cases none : changes.isEmpty = true
    · simp only [if_pos none]
      exact rulesPure tier
    · simp only [if_neg none]
      exact bindPart key fun _ => rulesTold (quiet.withStore _) _ _ _

theorem updateStatusRules (regular : desk.view.Regular) (organizer given wanted : Raw) :
    (updateStatus organizer given wanted).Rules desk
      (desk.attends organizer given fun id =>
        match EventStatus.ofRaw? wanted with
        | none => .error (.event (.unknownStatus wanted.shown))
        | some status => Ruling.answer Prod.snd ((desk.view.dossier id).updateStatus id organizer status)) := by
  unfold updateStatus
  refine bindAttends fun id _ => ?_
  unfold newStatus
  cases EventStatus.ofRaw? wanted with
  | none => exact rulesThrow _
  | some status =>
    refine bindRests (rulesPure status) (bindTells (rulesAtomically quiet idle ?_) fun made _ _ => ?_)
    · refine bindReads (rulesLoadOwned (quiet.withStore _) organizer id) fun event loaded => ?_
      obtain ⟨stored, _⟩ := Dossier.ownedOk loaded
      obtain rfl := regular.named stored
      cases event.status.canBecome status with
      | false => exact bindRests (rulesLog _ _ _) (rulesThrow _)
      | true => exact rulesSaved (quiet.withStore _) ⟨event, stored⟩
    · exact rulesTold (quiet.withStore _) _ _ _

theorem cancelRules (regular : desk.view.Regular) (organizer given : Raw) :
    (cancel organizer given).Rules desk
      (desk.attends organizer given fun id =>
        Ruling.answer Prod.snd ((desk.view.dossier id).cancel id organizer)) := by
  unfold cancel
  refine bindAttends fun id _ => ?_
  refine bindTells (rulesAtomically quiet idle ?_) fun made _ _ => ?_
  · refine bindReads (rulesLoadOwned (quiet.withStore _) organizer id) fun event loaded => ?_
    obtain ⟨stored, _⟩ := Dossier.ownedOk loaded
    obtain rfl := regular.named stored
    cases event.status.canCancel with
    | false => exact rulesThrow _
    | true => exact rulesSaved (quiet.withStore _) ⟨event, stored⟩
  · refine bindRests (rulesLog _ _ _) (bindRests (rulesNotify (quiet.withStore _) _) ?_)
    exact bindRests (rulesNotify (quiet.withStore _) _) (rulesPure _)

end

end Registry

namespace Allocation
open BoxOffice.Action
variable {desk : Desk Journal}

theorem rulesIsRegistered (quiet : desk.Quiet) (id : EventId) (attendee : Raw) :
    (call (.isRegistered id attendee)).Rules desk
      (Ruling.read ((Checked.label attendee).map (desk.view.dossier id).registered)) := by
  refine rulesCall quiet ?_
  simp only [Tables.plan]
  cases Checked.label attendee <;> rfl

theorem rulesTaken {α : Type} (quiet : desk.Quiet) {r : Registration} {party : Label} {updated : Event}
    {value : α} (named : Label.ofRaw? r.attendee = some party)
    (free : (desk.view.dossier r.event).registered party = false)
    (stored : ∃ event, desk.view.events.get? updated.id = some event) :
    (call (.addRegistration r) >>= fun _ => call (.saveEvent updated) >>= fun _ =>
      (pure value : Action Journal α)).Rules desk
      (.ok (value, [.registration party r, .attendee r.event r.attendee, .event updated])) := by
  have checked : Checked.label r.attendee = .ok party := by simp only [Checked.label, named]
  have absent : ¬desk.store.tables.registrations.contains (r.event, party) = true := by
    rw [Bool.not_eq_true]
    exact free
  refine @bindWrites _ _ _ _ () [.registration party r, .attendee r.event r.attendee] [.event updated] _ _
    (rulesCall quiet ?_) (Registry.rulesSaved (quiet.withStore _) stored)
  simp only [Tables.plan, checked]
  exact if_neg absent

theorem registerRules (quiet : desk.Quiet) (idle : desk.store.Idle) (regular : desk.view.Regular)
    (attendee given named : Raw) :
    (register attendee given named).Rules desk
      (desk.attends attendee given fun id =>
        Ruling.answer Prod.fst ((desk.view.dossier id).register desk.clock id attendee named)) := by
  unfold register
  refine Registry.bindAttends fun id _ => ?_
  refine bindTells (rulesAtomically quiet idle ?_) fun made edits ruled => ?_
  · refine bindReads (Registry.rulesLoad (quiet.withStore _) id) fun event loaded => ?_
    have stored := Dossier.loadedOk loaded
    obtain rfl := regular.named stored
    refine guardRules fun active => ?_
    cases found : event.tier? named with
    | none => exact rulesThrow _
    | some tier =>
      obtain ⟨n, _, key⟩ := Event.namedWhole found (regular.tiers stored)
      have asked : (call (.isRegistered event.id attendee)).Rules { desk with store := desk.store.enter }
          (Ruling.read ((Checked.label attendee).map (desk.view.dossier event.id).registered)) :=
        rulesIsRegistered (quiet.withStore _) event.id attendee
      cases checked : Checked.label attendee with
      | error failure =>
        rw [checked] at asked
        exact @bindReads _ _ _ _ (.error failure) _ (fun _ => .error failure) asked nofun
      | ok party =>
        rw [checked] at asked
        refine bindRests asked ?_
        change Rules (ite _ _ _) _ (ite _ _ _)
        refine guardRules fun free => ?_
        refine bindReads (rulesExcept _) fun full _ => ?_
        cases full with
        | true => exact bindPart key fun _ => bindRests (rulesLog _ _ _) (rulesThrow _)
        | false =>
          refine bindRests rulesNow (bindReads (rulesExcept _) fun sold _ => ?_)
          have free : (desk.view.dossier event.id).registered party = false := by simpa using free
          exact rulesTaken (quiet.withStore _) (labelled checked) free ⟨event, stored⟩
  · obtain ⟨registration, sold⟩ := made
    obtain ⟨event, tier, party, stored, _, found, _, _, _, sells, _, _⟩ := Dossier.registerOk ruled
    obtain ⟨n, _, key⟩ := Event.namedWhole found (regular.tiers stored)
    have fine := Tier.sellRegular (regular.tiers stored _ (Event.tierMem found).1) sells
    obtain ⟨count, isSold⟩ := fine.sold
    obtain ⟨capacity, isCapacity⟩ := fine.capacity
    refine bindPart key fun _ => ?_
    refine bindPart (congrArg Raw.key isSold) fun _ => bindPart (congrArg Raw.key isCapacity) fun _ => ?_
    exact bindRests (rulesLog _ _ _) (bindRests (rulesNotify (quiet.withStore _) _) (rulesPure _))

end Allocation

theorem Ruling.answerBind {α β γ : Type} (value : Except Failure γ) (next : γ → Except Failure (Ruled α))
    (f : α → β) : answer f (value >>= next) = value >>= fun c => answer f (next c) := by
  cases value <;> rfl

theorem Ruling.answerTwice {α β γ : Type} (ruling : Except Failure (Ruled α)) (f : α → β) (g : β → γ) :
    answer g (answer f ruling) = answer (fun a => g (f a)) ruling := by
  cases ruling <;> rfl

theorem Desk.answerAttends {α β : Type} (desk : Desk Journal) (caller given : Raw)
    (ruling : EventId → Except Failure (Ruled α)) (f : α → β) :
    Ruling.answer f (desk.attends caller given ruling) =
      desk.attends caller given fun id => Ruling.answer f (ruling id) := by
  unfold Desk.attends
  rw [Ruling.answerBind]
  congr 1
  funext _
  exact Ruling.answerBind _ _ f

namespace Operation
open BoxOffice.Action
variable {desk : Desk Journal}

theorem rulesAnswer {α : Type} {a : Action Journal α} {request : Operation} {caller given : Raw}
    {ruling : EventId → Except Failure (Ruled α)} {f : α → Answer}
    (rules : a.Rules desk (desk.attends caller given ruling))
    (same : ∀ id, Ruling.answer f (ruling id) =
      request.rulingOn desk.settings desk.clock id (desk.view.dossier id)) :
    (a >>= fun value => (pure (f value) : Action Journal Answer)).Rules desk
      (request.ruling desk caller given) := by
  have answered : request.ruling desk caller given = Ruling.answer f (desk.attends caller given ruling) := by
    rw [Desk.answerAttends, Operation.ruling]
    exact congrArg (desk.attends caller given) (funext fun id => (same id).symm)
  rw [answered]
  exact bindTells rules fun _ _ _ => rulesPure _

theorem runRules (quiet : desk.Quiet) (reached : desk.store.Reached) {request : Operation}
    {caller given : Raw} (about : request.onEvent? = some (caller, given)) :
    (request.run : Action Journal Answer).Rules desk (request.ruling desk caller given) := by
  have idle := (reached.ready quiet.tame).idle.idle
  have regular := reached.regular
  cases request <;> cases about
  case createEvent name description venue date specs =>
    refine rulesAnswer (Registry.createRules quiet idle caller given name description venue date specs) fun id => ?_
    simp only [Ruling.answerBind, Ruling.answerTwice, rulingOn]
  case updateEventDetails changes =>
    exact rulesAnswer (Registry.updateDetailsRules quiet idle regular caller given changes) fun _ => rfl
  case addTicketTier spec =>
    exact rulesAnswer (Registry.addTierRules quiet idle spec fun _ _ _ stored => ⟨regular.named stored,
      regular.tiers stored⟩) fun _ => Ruling.answerTwice _ _ _
  case updateTier named changes =>
    exact rulesAnswer (Registry.updateTierRules quiet idle regular caller given named changes)
      fun _ => Ruling.answerTwice _ _ _
  case updateEventStatus wanted =>
    refine rulesAnswer (Registry.updateStatusRules quiet idle regular caller given wanted) fun id => ?_
    simp only [rulingOn]
    cases EventStatus.ofRaw? wanted with
    | none => rfl
    | some status => exact Ruling.answerTwice _ _ _
  case cancelEvent =>
    exact rulesAnswer (Registry.cancelRules quiet idle regular caller given) fun _ => Ruling.answerTwice _ _ _
  case registerForEvent named =>
    exact rulesAnswer (Allocation.registerRules quiet idle regular caller given named)
      fun _ => Ruling.answerTwice _ _ _

theorem performRuling (quiet : desk.Quiet) (reached : desk.store.Reached) {request : Operation}
    {caller given : Raw} (about : request.onEvent? = some (caller, given)) :
    ∃ log notices, request.run.perform desk =
      (Ruling.outcome (request.ruling desk caller given),
        { desk.edited (Ruling.edits (request.ruling desk caller given)) with log, notices }) :=
  runRules quiet reached about desk.log desk.notices

end Operation

theorem Desk.viewEdited (desk : Desk Journal) (edits : List Edit) :
    (desk.edited edits).view = edits.foldl View.edit desk.view := by
  rw [view, edited, Journal.recordAllTables, Tables.viewEdits]
  rfl

structure Desk.ComesTo (desk : Desk Journal) (ruling : Except Failure (Ruled Answer))
    (outcome : Except Failure Answer) (after : Desk Journal) : Prop extends desk.Around after where
  outcome : outcome = Ruling.outcome ruling
  reached : after.store.Reached
  quiet : after.Quiet
  view : after.view = (Ruling.edits ruling).foldl View.edit desk.view

theorem Operation.comesToRuling {desk : Desk Journal} (quiet : desk.Quiet) (reached : desk.store.Reached)
    {request : Operation} {caller given : Raw} (about : request.onEvent? = some (caller, given)) :
    desk.ComesTo (request.ruling desk caller given) (request.run.perform desk).1
      (request.run.perform desk).2 := by
  have reached' : (request.run.perform desk).2.store.Reached := .operation request reached quiet.tame
  obtain ⟨log, notices, ran⟩ := performRuling quiet reached about
  rw [ran] at reached' ⊢
  have around : desk.Around desk := .refl desk
  exact {
    verifier := rfl
    clock := rfl
    settings := rfl
    escrowAccount := rfl
    checksEvents := rfl
    keepsFunds := rfl
    faults := around.faults
    receivers := around.receivers
    outcome := rfl
    reached := reached'
    quiet := ⟨quiet.faults, quiet.receivers⟩
    view := desk.viewEdited _ }

end BoxOffice
