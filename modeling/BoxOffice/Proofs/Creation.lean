import BoxOffice.Proofs.Desk.Accepted
import BoxOffice.Proofs.Interchange.Agree
import BoxOffice.Proofs.Proposal

/-! A new event at a desk. Its rules, in their order, decide whether it is made or under which code it is refused.
What a store has to do for that is said once, for every store. -/
namespace BoxOffice

section
variable {σ : Type} {desk : Desk σ} {now : Moment} {p : Proposal}

namespace Desk

/- At the desk nothing is disturbed, the clock shows this time, the verifier knows whether the organizer may act,
and dates and capacities can be compared with the settings. -/
structure Decides (desk : Desk σ) (now : Moment) (p : Proposal) : Prop where
  quiet : desk.Quiet
  clock : desk.clock = some now
  settings : desk.settings.Rules now
  verifier : ∃ verified, (desk.verifier.getD .trustedHost).verify p.organizer = .ok verified

def drafts (desk : Desk σ) (p : Proposal) : Except Failure Event := do
  desk.admits p.organizer (.event .callerNotVerified)
  p.draft desk.settings desk.clock

theorem admitsObeys (decides : desk.Decides now p) : Obeys (desk.admits p.organizer (.event .callerNotVerified))
    [⟨(desk.verifier.getD .trustedHost).verify p.organizer = .ok true, .unauthorized⟩] := by
  obtain ⟨verified, asked⟩ := decides.verifier
  rw [admits, asked]
  cases verified with
  | true => exact .kept rfl ()
  | false =>
    refine .broken ?_ rfl
    intro is
    cases is

theorem draftsDescribes {event : Event} (decides : desk.Decides now p) (drafted : desk.drafts p = .ok event) :
    p.draft desk.settings (some now) = .ok event ∧ p.Describes now event := by
  obtain ⟨_, _, drafted⟩ := bindOk drafted
  rw [decides.clock] at drafted
  exact ⟨drafted, Proposal.draftDescribes decides.settings drafted⟩

def verdict (desk : Desk σ) (events : EventId → Option Event) (p : Proposal) : Except Failure Event := do
  let event ← desk.drafts p
  if (events event.id).isSome then throw (.event .alreadyExists)
  return event

theorem verdictOk {events : EventId → Option Event} {event : Event} (passes : desk.verdict events p = .ok event) :
    desk.drafts p = .ok event ∧ (events event.id).isSome = false := by
  obtain ⟨_, drafted, passes⟩ := bindOk passes
  obtain ⟨new, passes⟩ := guardOk passes
  cases passes
  exact ⟨drafted, by simpa using new⟩

end Desk

namespace Registry
open BoxOffice.Action

def announce (organizer : Raw) (event : Event) : Action σ Answer := do
  info s!"Event {event.id.text} created by {organizer.plain} with {event.tiers.length} tiers"
  notify (.eventCreated event.id organizer event.name event.venue event.date event.tiers)
  return .event event

theorem performAnnounce (quiet : desk.Quiet) (organizer : Raw) (event : Event) :
    ∃ log notices, (announce organizer event).perform desk = (.ok (.event event), { desk with log, notices }) := by
  have heard (name : String) : desk.brokenReceivers.contains name = false := by
    rw [quiet.receivers]
    rfl
  rw [announce, performBind, info, log, performModify]
  simp only
  rw [performBind, performNotify]
  simp only [heard]
  exact ⟨_, _, rfl⟩

end Registry

variable [RecordStore σ]

structure RecordStore.Keeps (store : σ) (events : EventId → Option Event) : Prop where
  free : barrier σ (fun _ => none) = none
  found : ∀ id, call (.getEvent id) store = (.ok (events id), store)
  known : ∀ id, call (.eventExists id) (enter store) = (.ok (events id).isSome, enter store)
  back : rollBack (enter store) = store

def RecordStore.Takes (store : σ) (event stored : Event) : Prop :=
  ∃ filled after, call (.addEvent event) (enter store) = (.ok (), filled) ∧ commit filled = .ok after ∧
    call (.getEvent event.id) after = (.ok (some stored), after)

namespace Desk

def Knows (desk : Desk σ) (given : Raw) : Prop :=
  ∃ event after, (Operation.getEvent given).run.perform desk = (.ok (.event event), after)

def rulesOn (desk : Desk σ) (now : Moment) (p : Proposal) : List Rule :=
  [⟨(desk.verifier.getD .trustedHost).verify p.organizer = .ok true, .unauthorized⟩,
    ⟨p.Complete, .invalidInput⟩, ⟨p.Timely desk.settings now, .invalidEventDate⟩,
    ⟨∀ spec ∈ p.tiers, spec.Placed desk.settings, .invalidTicketCount⟩,
    ⟨∀ spec ∈ p.tiers, spec.Priced, .invalidPrice⟩, ⟨¬desk.Knows p.id, .eventAlreadyExists⟩]

/-- A proposal is refused for the first rule that it breaks, and for nothing else; a failure leaves the desk as
it was. What is accepted can be got afterwards as it was proposed. -/
structure Creates (desk : Desk σ) (now : Moment) (p : Proposal) : Prop where
  refused : ∀ code, Rule.FirstBroken (desk.rulesOn now p) code ↔
    ∃ refusal : EventRefusal, p.request.run.perform desk = (.error (.event refusal), desk) ∧ refusal.code = code
  accepted : (∀ rule ∈ desk.rulesOn now p, rule.holds) ↔
    ∃ answer after, p.request.run.perform desk = (.ok answer, after)
  unchanged : ∀ failure after, p.request.run.perform desk = (.error failure, after) → after = desk
  created : ∀ answer after, p.request.run.perform desk = (.ok answer, after) →
    ∃ event stored, answer = .event event ∧ p.Describes now event ∧
      ((Operation.getEvent p.id).run.perform after).1 = .ok (.event stored) ∧ p.Describes now stored

end Desk

namespace Registry
open BoxOffice.Action
variable {events : EventId → Option Event} {event : Event}

def put (event : Event) : Action σ Unit := do
  if ← call (.eventExists event.id) then throw (.event .alreadyExists)
  call (.addEvent event)

theorem performPutKnown (quiet : desk.Quiet) (keeps : RecordStore.Keeps desk.store events)
    (known : (events event.id).isSome = true) :
    (atomically (put event)).perform desk = (.error (.event .alreadyExists), desk) := by
  have inside : (put event).perform { desk with store := RecordStore.enter desk.store } =
      (.error (.event .alreadyExists), { desk with store := RecordStore.enter desk.store }) := by
    rw [put, performBind, performCall (quiet.withStore (RecordStore.enter desk.store)).faults]
    simp only [keeps.known, known]
    rfl
  rw [atomically, performBind, performOpening quiet.faults keeps.free]
  simp only
  rw [block, performStep]
  simp only [inside, keeps.back]

theorem performPutNew {stored : Event} (quiet : desk.Quiet) (keeps : RecordStore.Keeps desk.store events)
    (new : (events event.id).isSome = false) (takes : RecordStore.Takes desk.store event stored) :
    ∃ after, (atomically (put event)).perform desk = (.ok (), { desk with store := after }) ∧
      RecordStore.call (.getEvent event.id) after = (.ok (some stored), after) := by
  obtain ⟨filled, after, added, committed, got⟩ := takes
  refine ⟨after, ?_, got⟩
  have entered := quiet.withStore (RecordStore.enter desk.store)
  have inside : (put event).perform { desk with store := RecordStore.enter desk.store } =
      (.ok (), { desk with store := filled }) := by
    rw [put, performBind, performCall entered.faults]
    simp only [keeps.known, new, Bool.false_eq_true, if_false]
    rw [performCall entered.faults]
    simp only [added]
  rw [atomically, performBind, performOpening quiet.faults keeps.free]
  simp only
  rw [block, performStep]
  simp only [inside, committed]

theorem performCreate (desk : Desk σ) (p : Proposal) :
    p.request.run.perform desk =
      match desk.drafts p with
      | .error failure => (.error failure, desk)
      | .ok event => (atomically (put event) >>= fun _ => announce p.organizer event).perform desk := by
  have ruled : (settings : Action σ Settings).perform desk = (.ok desk.settings, desk) := rfl
  have shown : (now : Action σ (Option Moment)).perform desk = (.ok desk.clock, desk) := rfl
  -- Step by step: a check that fails ends both sides alike, and one that passes leaves the desk to the next.
  rw [Proposal.request, Operation.run, performBind, create, performBind, authenticate, performAuthenticate,
    Desk.drafts]
  cases desk.admits p.organizer (.event .callerNotVerified) with
  | error failure => rfl
  | ok _ =>
    simp only [bindPassed]
    rw [performBind, performNamed, Proposal.draft]
    cases EventId.named p.id with
    | error failure => rfl
    | ok id =>
      simp only [bindPassed]
      rw [performBind, ruled]
      simp only
      rw [performBind, shown]
      simp only
      rw [performBind, performExcept]
      cases drafted : Event.draft desk.settings desk.clock p.organizer id p.name p.description p.venue (some p.date)
          p.tiers with
      | error failure => rfl
      | ok event =>
        obtain rfl := (Event.draftOk drafted).id
        simp only
        rw [← performBind]
        simp only [bind_assoc]
        rfl

end Registry

namespace Desk
open BoxOffice.Action
variable {events : EventId → Option Event} {event : Event}

theorem performGetEvent (quiet : desk.Quiet) {id : EventId} {found : Option Event}
    (answered : RecordStore.call (.getEvent id) desk.store = (.ok found, desk.store)) :
    (Operation.getEvent (.text id.text)).run.perform desk =
      (found.elim (.error (.eventMissing id)) fun event => .ok (.event event), desk) := by
  rw [Operation.run, performBind, Registry.get, Registry.eventId, performEventId, pure_bind,
    performFound quiet.faults answered]
  cases found <;> rfl

theorem knowsIff (quiet : desk.Quiet) (keeps : RecordStore.Keeps desk.store events) (id : EventId) :
    desk.Knows (.text id.text) ↔ (events id).isSome = true := by
  rw [Knows, performGetEvent quiet (keeps.found id)]
  cases events id <;> simp

theorem verdictObeys (decides : desk.Decides now p) (keeps : RecordStore.Keeps desk.store events) :
    Obeys (desk.verdict events p) (desk.rulesOn now p) := by
  have drafts : Obeys (desk.drafts p) _ := (admitsObeys decides).bind fun _ _ =>
    decides.clock ▸ Proposal.draftObeys decides.settings p
  refine drafts.bind fun event drafted => ?_
  rw [(draftsDescribes decides drafted).2.id]
  refine Obeys.restate (.guard .alreadyExists fun _ => .none event) ?_
  exact not_congr (knowsIff decides.quiet keeps event.id).symm

theorem performFails {failure : Failure} (quiet : desk.Quiet) (keeps : RecordStore.Keeps desk.store events)
    (fails : desk.verdict events p = .error failure) : p.request.run.perform desk = (.error failure, desk) := by
  rw [Registry.performCreate]
  cases drafted : desk.drafts p with
  | error other =>
    simp only [verdict, drafted] at fails
    cases fails
    rfl
  | ok event =>
    simp only [verdict, drafted, bindPassed] at fails
    split at fails
    · cases fails
      rename_i known
      simp only
      rw [performBind, Registry.performPutKnown quiet keeps known]
    · cases fails

theorem performPasses {stored : Event} (decides : desk.Decides now p) (keeps : RecordStore.Keeps desk.store events)
    (passes : desk.verdict events p = .ok event) (takes : RecordStore.Takes desk.store event stored) :
    ∃ after, p.request.run.perform desk = (.ok (.event event), after) ∧
      ((Operation.getEvent p.id).run.perform after).1 = .ok (.event stored) := by
  obtain ⟨drafted, new⟩ := verdictOk passes
  obtain ⟨store, entered, got⟩ := Registry.performPutNew decides.quiet keeps new takes
  obtain ⟨log, notices, told⟩ := Registry.performAnnounce (decides.quiet.withStore store) p.organizer event
  refine ⟨{ desk with store, log, notices }, ?_, ?_⟩
  · rw [Registry.performCreate, drafted]
    simp only
    rw [performBind, entered]
    exact told
  · rw [(draftsDescribes decides drafted).2.id,
      @performGetEvent _ { desk with store, log, notices } _ ⟨decides.quiet.faults, decides.quiet.receivers⟩ _ _ got]
    rfl

theorem createsByVerdict (decides : desk.Decides now p) (keeps : RecordStore.Keeps desk.store events)
    (takes : ∀ event, p.draft desk.settings (some now) = .ok event → events event.id = none →
      ∃ stored, p.Describes now stored ∧ RecordStore.Takes desk.store event stored) : desk.Creates now p := by
  have obeys := verdictObeys decides keeps
  cases ruled : desk.verdict events p with
  | error failure =>
    have ran := performFails decides.quiet keeps ruled
    rw [ruled] at obeys
    refine ⟨fun code => ?_, ?_, fun _ _ fails => ?_, fun _ _ passes => ?_⟩
    · rw [obeys.refusedIff, ran]
      simp
    · rw [obeys.okIff, ran]
      simp
    · cases ran.symm.trans fails
      rfl
    · cases ran.symm.trans passes
  | ok event =>
    obtain ⟨drafted, new⟩ := verdictOk ruled
    obtain ⟨checked, describes⟩ := draftsDescribes decides drafted
    obtain ⟨stored, described, takes⟩ := takes event checked (by simpa using new)
    obtain ⟨after, ran, got⟩ := performPasses decides keeps ruled takes
    rw [ruled] at obeys
    refine ⟨fun code => ?_, ?_, fun _ _ fails => ?_, fun _ _ passes => ?_⟩
    · rw [obeys.refusedIff, ran]
      simp
    · rw [obeys.okIff, ran]
      simp
    · cases ran.symm.trans fails
    · cases ran.symm.trans passes
      exact ⟨event, stored, rfl, describes, got, described⟩

end Desk

end

namespace Journal
variable {s : Journal}

theorem keeps (clear : s.marks = [] → s.entries = []) : RecordStore.Keeps s s.tables.view.events.get? where
  free := rfl
  found _ := rfl
  known _ := rfl
  back := rollBackEntered clear

theorem takes {event : Event} (new : s.tables.view.events.get? event.id = none) :
    RecordStore.Takes s event event := by
  have free : s.tables.events.contains event.id = false := congrArg Option.isSome new
  have filled : s.enter.call (.addEvent event) = (.ok (), s.enter.record (.event event)) := by
    have planned : s.enter.tables.plan (.addEvent event) = (.ok (), [.event event]) :=
      if_neg (by simp [enter, free])
    simp only [call, planned]
    rfl
  have got : (s.enter.record (.event event)).leave.tables.events.get? event.id = some event := by
    rw [leaveTables]
    exact Table.getPutSame _ _ _
  exact ⟨_, _, filled, rfl, congrArg (fun found => (Except.ok found, _)) got⟩

end Journal

namespace Relational
variable {s : Relational Decimal.Finite} {v : View}

theorem keeps (shows : s.rows.Shows v) : RecordStore.Keeps s fun id => (v.events.get? id).map Event.settled := by
  have linked := shows.linked
  refine ⟨rfl, fun id => ?_, fun id => ?_, rfl⟩
  · simp only [RecordStore.call, call, Rows.call, shows.event, linked, Bool.or_true, if_true]
  · have known : s.enter.rows.hasEvent id = ((v.events.get? id).map Event.settled).isSome := by
      rw [Option.isSome_map]
      exact shows.hasEvent id
    simp only [RecordStore.call, RecordStore.enter, call, Rows.call, known]
    rfl

theorem takes {event : Event} (shows : s.rows.Shows v) (fits : event.Fits) (new : v.events.get? event.id = none) :
    RecordStore.Takes s event event.settled := by
  obtain ⟨rows, added, shows'⟩ := shows.addEvent fits new
  have linked := shows'.linked
  have stored : rows.event? event.id = some event.settled := by
    rw [shows'.event]
    exact congrArg (Option.map Event.settled) (Table.getPutSame _ _ _)
  refine ⟨⟨rows, s.rows :: s.starts⟩, ⟨rows, s.starts⟩, ?_, ?_, ?_⟩
  · simp only [RecordStore.call, RecordStore.enter, call, enter, Rows.call, added, bindPassed]
    rfl
  · simp only [RecordStore.commit, commit, linked, Bool.or_true]
    rfl
  · simp only [RecordStore.call, call, Rows.call, stored, linked, Bool.or_true, if_true]

end Relational

/- The rows at a desk show the records of some view, and its columns have room for what is proposed: for its texts
and times, for its prices, which are below 10 ^ 16, and for as many places as the settings allow. -/
structure Desk.HasRoom (desk : TableDesk) (now : Moment) (p : Proposal) : Prop where
  rows : ∃ v, desk.store.rows.Shows v
  clock : now.isDatable = true
  limit : (desk.settings.maxTierCapacity.number?.any fun most => decide (most ≤ (wordLimit : Int))) = true
  request : p.request.fits = true

/-- Whatever is stored, in memory or in tables with room for it, a proposal is made an event exactly if it keeps
all its rules. Else it is refused under the code of the first rule that it breaks, and nothing has changed. -/
theorem creationByTheRules (now : Moment) (p : Proposal) :
    (∀ desk : Desk Journal, desk.Decides now p → (desk.store.marks = [] → desk.store.entries = []) →
        desk.Creates now p) ∧
      ∀ desk : TableDesk, desk.Decides now p → desk.HasRoom now p → desk.Creates now p := by
  refine ⟨fun desk decides clear => ?_, fun desk decides room => ?_⟩
  · refine Desk.createsByVerdict decides (Journal.keeps clear) fun event drafted new => ?_
    exact ⟨event, Proposal.draftDescribes decides.settings drafted, Journal.takes new⟩
  · obtain ⟨v, shows⟩ := room.rows
    refine Desk.createsByVerdict decides (Relational.keeps shows) fun event drafted new => ?_
    obtain ⟨id, _, made⟩ := bindOk drafted
    have fits : event.Fits := Event.fitsDraft room.limit ⟨now, rfl, room.clock, decides.settings.aware⟩ room.request
      (Event.draftOk made)
    exact ⟨event.settled, (Proposal.draftDescribes decides.settings drafted).settled,
      Relational.takes shows fits (Option.map_eq_none_iff.mp new)⟩

/- Of a tier for less than nothing and one for no number of people it is the latter that counts. With one tier
that keeps the rules the gala is made. -/
theorem creationByTheRulesGala :
    let now : Moment := ⟨0, some 0⟩
    let gala (tiers : List TierSpec) : Proposal :=
      ⟨.text "host", .text "gala", .text "Gala", .text "", .text "Hall", ⟨2 * Moment.microsPerDay, some 0⟩, tiers⟩
    let wrong := gala [⟨.text "Stalls", .text "-1", .whole 2⟩, ⟨.text "Circle", .whole 8, .truth true⟩]
    let right := gala [⟨.text "Stalls", .text "7.50", .whole 2⟩]
    let memory : Desk Journal := .opened .empty none (some now) .standard (.text "escrow") false true
    let tables : TableDesk := .opened .empty none (some now) .standard (.text "escrow") false true
    (memory.Decides now wrong ∧ memory.store.marks = [] ∧ memory.store.entries = []) ∧
      (tables.Decides now right ∧ tables.HasRoom now right) ∧
      (∃ refusal : EventRefusal, wrong.request.run.perform memory = (.error (.event refusal), memory) ∧
        refusal.code = .invalidTicketCount) ∧
      ∃ stored, ((Operation.getEvent (.text "gala")).run.perform (right.request.run.perform tables).2).1 =
        .ok (.event stored) ∧ right.Describes now stored := by
  intro now gala wrong right memory tables
  have limit : Quantity.ofRaw? Settings.standard.maxTierCapacity = some (.whole 100000) := rfl
  have settings : Settings.standard.Rules now := ⟨rfl, by decide, .whole 100000, limit, nofun⟩
  have memory' : memory.Decides now wrong := ⟨⟨rfl, rfl⟩, rfl, settings, true, rfl⟩
  have tables' : tables.Decides now right := ⟨⟨rfl, rfl⟩, rfl, settings, true, rfl⟩
  have room : tables.HasRoom now right := ⟨⟨_, Rows.Shows.empty⟩, by decide, by decide, by decide +kernel⟩
  have broken : Rule.FirstBroken (memory.rulesOn now wrong) .invalidTicketCount := by
    refine .later rfl (.later ?_ (.later ⟨rfl, by decide⟩ (.here _ ?_)))
    · exact ⟨⟨⟨"gala", rfl⟩, rfl⟩, rfl, rfl, List.cons_ne_nil _ _, by decide⟩
    · intro placed
      obtain ⟨_, is, _⟩ := placed _ (List.mem_cons_of_mem _ List.mem_cons_self)
      cases is
  have refused := ((creationByTheRules now wrong).1 memory memory' fun _ => rfl).refused .invalidTicketCount
  have created := ((creationByTheRules now right).2 tables tables' room).created
  have accepts : tables.Accepts [right.request] (right.request.run.perform tables).2 := .ran (by decide +kernel)
  obtain ⟨answer, ran⟩ := Desk.Accepts.one.mp accepts
  obtain ⟨_, stored, _, _, got, described⟩ := created _ _ ran
  exact ⟨⟨memory', rfl, rfl⟩, ⟨tables', room⟩, refused.mp broken, stored, got, described⟩

end BoxOffice
