import BoxOffice.Proofs.Desk.Accepted
import BoxOffice.Proofs.Drafting

/-! Two ways of giving an event its tiers: all of them when it is made, or some of them then and the others one
by one. Both are open to the same tiers and leave the same store. -/
namespace BoxOffice

namespace Desk

def Keeping (start : Desk Journal) (event : Event) (desk : Desk Journal) : Prop :=
  ∃ log notices, desk = { start.edited [.event event] with log, notices }

structure Tiering (start : Desk Journal) (organizer given : Raw) (event : Event) (desk : Desk Journal) : Prop where
  quiet : start.Quiet
  idle : start.store.Idle
  admitted : start.admits organizer (.event .callerNotVerified) = .ok ()
  named : EventId.named given = .ok event.id
  own : event.organizer.same organizer = true
  upcoming : event.status = .upcoming
  ids : event.tiers.map Tier.id = (List.range event.tiers.length).map fun n : Nat => .whole n
  regular : ∀ tier ∈ event.tiers, tier.Regular
  keeping : start.Keeping event desk

section
variable {start desk after : Desk Journal} {event : Event} {organizer given : Raw}

theorem Keeping.stored (keeping : start.Keeping event desk) : desk.view.events.get? event.id = some event := by
  obtain ⟨log, notices, rfl⟩ := keeping
  exact Table.getPutSame _ _ _

theorem Keeping.quiet (keeping : start.Keeping event desk) (quiet : start.Quiet) : desk.Quiet := by
  obtain ⟨log, notices, rfl⟩ := keeping
  exact ⟨quiet.faults, quiet.receivers⟩

theorem Keeping.store (keeping : start.Keeping event desk) (idle : start.store.Idle) :
    desk.store = ⟨start.store.tables.edit (.event event), [], []⟩ := by
  obtain ⟨log, notices, rfl⟩ := keeping
  exact Journal.recordAllIdle idle [.event event]

theorem Keeping.idle (keeping : start.Keeping event desk) (idle : start.store.Idle) : desk.store.Idle := by
  rw [keeping.store idle]
  exact ⟨rfl, rfl⟩

theorem Keeping.again {updated : Event} (keeping : start.Keeping event desk) (idle : start.store.Idle)
    (same : updated.id = event.id) (log : List LogLine) (notices : List Notice) :
    start.Keeping updated { desk.edited [.event updated] with log, notices } := by
  have store : (desk.edited [.event updated]).store = (start.edited [.event updated]).store := by
    rw [edited, edited, Journal.recordAllIdle (keeping.idle idle), Journal.recordAllIdle idle, keeping.store idle]
    simp only [List.foldl_cons, List.foldl_nil, Tables.edit, same, Table.putTwice]
  obtain ⟨_, _, rfl⟩ := keeping
  refine ⟨log, notices, ?_⟩
  simp only [edited] at store ⊢
  rw [store]

end
end Desk

namespace Dossier
variable {dossier : Dossier} {event : Event} {id : EventId} {organizer : Raw}

theorem addTierNext {settings : Settings} (editable : dossier.editable id organizer = .ok event)
    (ids : event.tiers.map Tier.id = (List.range event.tiers.length).map fun n : Nat => .whole n) (spec : TierSpec) :
    dossier.addTier settings id organizer spec = do
      let tier ← Tier.ofSpec settings (.whole event.tiers.length) spec
      return ((tier, event.withTier tier), [.event (event.withTier tier)]) := by
  simp only [addTier, editable, bind, Except.bind, Event.nextTierIdNumbered ids]

end Dossier

namespace Desk.Tiering
variable {start desk after : Desk Journal} {event : Event} {organizer given : Raw} {spec : TierSpec}

theorem rules (tiering : start.Tiering organizer given event desk) :
    (Operation.addTicketTier organizer given spec).run.Rules desk (do
      let tier ← Tier.ofSpec start.settings (.whole event.tiers.length) spec
      return (.tier tier, [.event (event.withTier tier)])) := by
  have quiet := tiering.keeping.quiet tiering.quiet
  have idle := tiering.keeping.idle tiering.idle
  have stored := tiering.keeping.stored
  have settings : desk.settings = start.settings := by
    obtain ⟨log, notices, rfl⟩ := tiering.keeping
    rfl
  have admitted : desk.admits organizer (.event .callerNotVerified) = .ok () := by
    obtain ⟨log, notices, rfl⟩ := tiering.keeping
    exact tiering.admitted
  have editable : (desk.view.dossier event.id).editable event.id organizer = .ok event :=
    Dossier.editableOwned stored tiering.own tiering.upcoming
  have added := @Registry.addTierRules desk quiet idle organizer given spec fun id found named there => by
    cases named.symm.trans tiering.named
    cases there.symm.trans stored
    exact ⟨rfl, tiering.regular⟩
  rw [Desk.attendsNamed admitted tiering.named, Dossier.addTierNext editable tiering.ids, settings] at added
  have answered := Action.bindTells added fun made edits _ => Action.rulesPure (Answer.tier made)
  rw [Ruling.answerTwice, Ruling.answerBind] at answered
  exact answered

theorem again {tier : Tier} (tiering : start.Tiering organizer given event desk)
    (made : Tier.ofSpec start.settings (.whole event.tiers.length) spec = .ok tier)
    (log : List LogLine) (notices : List Notice) :
    start.Tiering organizer given { event with tiers := event.tiers ++ [tier] }
      { desk.edited [.event (event.withTier tier)] with log, notices } := by
  obtain ⟨name, capacity, price, _, _, _, rfl⟩ := Tier.ofSpecIff.mp made
  have added := @Event.withTierNext event (.fresh (.whole event.tiers.length) name price capacity) tiering.ids rfl
  refine { tiering with ids := ?_, regular := fun tier mem => ?_, keeping := ?_ }
  · rw [List.length_append, List.length_singleton, List.range_succ, List.map_append, List.map_append, ← tiering.ids]
    rfl
  · rcases List.mem_append.mp mem with old | new
    · exact tiering.regular tier old
    · exact List.mem_singleton.mp new ▸ Tier.freshRegular _ name price capacity
  · have same : (event.withTier (.fresh (.whole event.tiers.length) name price capacity)).id = event.id := rfl
    rw [← added]
    exact tiering.keeping.again tiering.idle same log notices

theorem accepted {more : List TierSpec} (tiering : start.Tiering organizer given event desk)
    (accepts : desk.Accepts (more.map (Operation.addTicketTier organizer given)) after) :
    ∃ others, Tier.ofSpecs start.settings event.tiers.length more = .ok others ∧
      start.Keeping { event with tiers := event.tiers ++ others } after := by
  -- By induction on the tiers that are still to come, each added to the event that those before it have made.
  induction more generalizing event desk with
  | nil =>
    obtain _ | _ := accepts
    refine ⟨[], rfl, ?_⟩
    rw [List.append_nil]
    exact tiering.keeping
  | cons spec more ih =>
    obtain ⟨answer, next, answered, later⟩ := Desk.Accepts.cons.mp accepts
    obtain ⟨edits, ruled, log, notices, rfl⟩ := tiering.rules.accepted answered
    obtain ⟨tier, made, ruled⟩ := bindOk ruled
    cases ruled
    obtain ⟨others, checked, keeping⟩ := ih (tiering.again made log notices) later
    rw [List.length_append, List.length_singleton, Nat.cast_succ] at checked
    refine ⟨tier :: others, Tier.ofSpecsCons.mpr ⟨tier, others, made, checked, rfl⟩, ?_⟩
    rw [List.append_assoc] at keeping
    exact keeping

theorem accepts {more : List TierSpec} {others : List Tier} (tiering : start.Tiering organizer given event desk)
    (made : Tier.ofSpecs start.settings event.tiers.length more = .ok others) :
    ∃ after, desk.Accepts (more.map (Operation.addTicketTier organizer given)) after := by
  induction more generalizing event desk others with
  | nil => exact ⟨desk, .none⟩
  | cons spec more ih =>
    obtain ⟨tier, others, here, later, rfl⟩ := Tier.ofSpecsCons.mp made
    have rules : (Operation.addTicketTier organizer given spec).run.Rules desk _ := tiering.rules
    rw [here] at rules
    obtain ⟨log, notices, answered⟩ := rules.accepts
    have next : Tier.ofSpecs start.settings (event.tiers ++ [tier]).length more = .ok others := by
      rw [List.length_append, List.length_singleton, Nat.cast_succ]
      exact later
    obtain ⟨after, accepts⟩ := ih (tiering.again here log notices) next
    exact ⟨after, .more answered accepts⟩

end Desk.Tiering

namespace Desk
variable {start after : Desk Journal} {organizer given name description venue : Raw} {date : Option Moment}
  {specs : List TierSpec} {event : Event} {id : EventId}

structure Drafting (start : Desk Journal) (organizer given name description venue : Raw) (date : Option Moment)
    (specs : List TierSpec) (id : EventId) (event : Event) : Prop where
  admitted : start.admits organizer (.event .callerNotVerified) = .ok ()
  named : EventId.named given = .ok id
  free : start.view.events.get? id = none
  drafted : Event.draft start.settings start.clock organizer id name description venue date specs = .ok event

theorem createRules (quiet : start.Quiet) (idle : start.store.Idle) :
    (Operation.createEvent organizer given name description venue date specs).run.Rules start
      (start.attends organizer given fun id => do
        let event ← Event.draft start.settings start.clock organizer id name description venue date specs
        Ruling.answer (fun _ => .event event) ((start.view.dossier id).create event)) := by
  have rules := Action.bindTells (Registry.createRules quiet idle organizer given name description venue date specs)
    fun event edits _ => Action.rulesPure (Answer.event event)
  simp only [Desk.answerAttends, Ruling.answerBind, Ruling.answerTwice] at rules
  exact rules

theorem Drafting.accepts (quiet : start.Quiet) (idle : start.store.Idle)
    (drafting : start.Drafting organizer given name description venue date specs id event) :
    ∃ log notices, (Operation.createEvent organizer given name description venue date specs).run.perform start =
      (.ok (.event event), { start.edited [.event event] with log, notices }) := by
  have rules : (Operation.createEvent organizer given name description venue date specs).run.Rules start _ :=
    createRules quiet idle
  have create : (start.view.dossier id).create event = .ok ((), [.event event]) := by
    simp only [Dossier.create, View.dossier, drafting.free]
    rfl
  rw [Desk.attendsNamed drafting.admitted drafting.named, drafting.drafted] at rules
  simp only [bind, Except.bind, create] at rules
  exact rules.accepts

theorem Drafting.accepted {answer : Answer} (quiet : start.Quiet) (idle : start.store.Idle)
    (ran : (Operation.createEvent organizer given name description venue date specs).run.perform start =
      (.ok answer, after)) :
    ∃ id event, start.Drafting organizer given name description venue date specs id event ∧
      start.Keeping event after := by
  obtain ⟨edits, ruled, log, notices, rfl⟩ := (createRules quiet idle).accepted ran
  obtain ⟨id, admitted, named, ruled⟩ := Desk.attendsOk ruled
  obtain ⟨event, drafted, ruled⟩ := bindOk ruled
  obtain ⟨_, created, _⟩ := Ruling.answerOk ruled
  obtain ⟨free, rfl⟩ := Dossier.createOk created
  exact ⟨id, event, ⟨admitted, named, free, drafted⟩, log, notices, rfl⟩

theorem Drafting.tiering {desk : Desk Journal} (quiet : start.Quiet) (idle : start.store.Idle)
    (self : organizer ≠ .fraction .nan)
    (drafting : start.Drafting organizer given name description venue date specs id event)
    (keeping : start.Keeping event desk) : start.Tiering organizer given event desk := by
  have drafted := Event.draftOk drafting.drafted
  exact {
    quiet, idle, keeping
    admitted := drafting.admitted
    named := drafted.id ▸ drafting.named
    own := by
      rw [drafted.organizer, Raw.sameIffAlike self, Raw.alikeIffKey]
    upcoming := drafted.status
    ids := (Event.draftNumbered drafting.drafted).2
    regular := fun tier mem => by
      obtain ⟨n, name, price, capacity, _, rfl⟩ := drafted.tier.2 tier mem
      exact Tier.freshRegular n name price capacity }

def Tiered (start : Desk Journal) (organizer given name description venue : Raw) (date : Option Moment)
    (first more : List TierSpec) (after : Desk Journal) : Prop :=
  ∃ id begun others, start.Drafting organizer given name description venue date first id begun ∧
    Tier.ofSpecs start.settings begun.tiers.length more = .ok others ∧
    start.Keeping { begun with tiers := begun.tiers ++ others } after

section
variable {first more : List TierSpec} (quiet : start.Quiet) (idle : start.store.Idle)
include quiet idle

theorem tieredAtOnce (some : first ≠ [])
    (accepts : start.Accepts [.createEvent organizer given name description venue date (first ++ more)] after) :
    start.Tiered organizer given name description venue date first more after := by
  obtain ⟨answer, answered⟩ := Accepts.one.mp accepts
  obtain ⟨id, event, drafting, keeping⟩ := Drafting.accepted quiet idle answered
  obtain ⟨begun, others, drafted, made, rfl⟩ := (Event.draftMore some).mp drafting.drafted
  rw [← (Event.draftNumbered drafted).1] at made
  exact ⟨id, begun, others, { drafting with drafted }, made, keeping⟩

theorem Tiered.atOnce (some : first ≠ [])
    (tiered : start.Tiered organizer given name description venue date first more after) :
    ∃ once, start.Accepts [.createEvent organizer given name description venue date (first ++ more)] once := by
  obtain ⟨id, begun, others, drafting, made, _⟩ := tiered
  rw [(Event.draftNumbered drafting.drafted).1] at made
  have drafted := (Event.draftMore some).mpr ⟨begun, others, drafting.drafted, made, rfl⟩
  obtain ⟨log, notices, answered⟩ := Drafting.accepts quiet idle { drafting with drafted }
  exact ⟨_, Accepts.one.mpr ⟨_, answered⟩⟩

theorem tieredInTurn (self : organizer ≠ .fraction .nan)
    (accepts : start.Accepts (.createEvent organizer given name description venue date first ::
      more.map (.addTicketTier organizer given)) after) :
    start.Tiered organizer given name description venue date first more after := by
  obtain ⟨answer, next, answered, later⟩ := Accepts.cons.mp accepts
  obtain ⟨id, begun, drafting, keeping⟩ := Drafting.accepted quiet idle answered
  obtain ⟨others, made, last⟩ := (drafting.tiering quiet idle self keeping).accepted later
  exact ⟨id, begun, others, drafting, made, last⟩

theorem Tiered.inTurn (self : organizer ≠ .fraction .nan)
    (tiered : start.Tiered organizer given name description venue date first more after) :
    ∃ last, start.Accepts (.createEvent organizer given name description venue date first ::
      more.map (.addTicketTier organizer given)) last := by
  obtain ⟨id, begun, others, drafting, made, _⟩ := tiered
  obtain ⟨log, notices, answered⟩ := drafting.accepts quiet idle
  obtain ⟨last, later⟩ := (drafting.tiering quiet idle self ⟨log, notices, rfl⟩).accepts made
  exact ⟨last, .more answered later⟩

omit quiet in
theorem Tiered.same {last : Desk Journal}
    (tiered : start.Tiered organizer given name description venue date first more after)
    (again : start.Tiered organizer given name description venue date first more last) :
    after.store = last.store ∧ ∃ id event, given = .text id.text ∧ after.view.events.get? id = some event ∧
      last.view.events.get? id = some event := by
  obtain ⟨id, begun, others, drafting, made, keeping⟩ := tiered
  obtain ⟨id', begun', others', drafting', made', keeping'⟩ := again
  cases drafting'.named.symm.trans drafting.named
  cases drafting'.drafted.symm.trans drafting.drafted
  cases made'.symm.trans made
  have own : begun.id = id := (Event.draftOk drafting.drafted).id
  exact ⟨(keeping.store idle).trans (keeping'.store idle).symm, id, { begun with tiers := begun.tiers ++ others },
    EventId.namedText drafting.named, own ▸ keeping.stored, own ▸ keeping'.stored⟩

end
end Desk

/-- An organizer gives an event some tiers when it is made and more of them one by one, or all of them when it is
made. Either way is open exactly if the other is, and both leave one store, with one record of the event. -/
theorem tiersEitherWay {start : Desk Journal} (quiet : start.Quiet) (idle : start.store.Idle) {organizer : Raw}
    (self : organizer ≠ .fraction .nan) (given name description venue : Raw) (date : Option Moment)
    {first : List TierSpec} (some : first ≠ []) (more : List TierSpec) :
    let create := Operation.createEvent organizer given name description venue date
    let atOnce := [create (first ++ more)]
    let inTurn := create first :: more.map (Operation.addTicketTier organizer given)
    ((∃ after, start.Accepts atOnce after) ↔ ∃ after, start.Accepts inTurn after) ∧
      ∀ {once last}, start.Accepts atOnce once → start.Accepts inTurn last →
        once.store = last.store ∧ ∃ id event, given = .text id.text ∧
          once.view.events.get? id = .some event ∧ last.view.events.get? id = .some event := by
  intro create atOnce inTurn
  refine ⟨⟨?_, ?_⟩, fun accepts accepted => ?_⟩
  · rintro ⟨after, accepts⟩
    exact (Desk.tieredAtOnce quiet idle some accepts).inTurn quiet idle self
  · rintro ⟨after, accepts⟩
    exact (Desk.tieredInTurn quiet idle self accepts).atOnce quiet idle some
  · exact (Desk.tieredAtOnce quiet idle some accepts).same idle (Desk.tieredInTurn quiet idle self accepted)

theorem tiersEitherWayGala :
    let start : Desk Journal :=
      .opened .empty none (some ⟨0, some 0⟩) .standard (.text "escrow") false true
    let stalls : TierSpec := ⟨.text "Stalls", .whole 5, .whole 1⟩
    let circle : TierSpec := ⟨.text "Circle", .whole 8, .whole 2⟩
    let create := Operation.createEvent (.text "host") (.text "gala") (.text "Gala") .nothing (.text "Hall")
      (some ⟨2 * Moment.microsPerDay, some 0⟩)
    start.Quiet ∧ start.store.Idle ∧ Raw.text "host" ≠ .fraction .nan ∧ [stalls] ≠ [] ∧
      ∃ once last, start.Accepts [create [stalls, circle]] once ∧
        start.Accepts [create [stalls], .addTicketTier (.text "host") (.text "gala") circle] last ∧
        once.store = last.store ∧
        (last.view.events.get? ⟨"gala", rfl⟩).map Event.tiers =
          some [⟨.whole 0, .text "Stalls", ⟨.ofInt 5, rfl⟩, .whole 1, .whole 0⟩,
            ⟨.whole 1, .text "Circle", ⟨.ofInt 8, rfl⟩, .whole 2, .whole 0⟩] := by
  intro start stalls circle create
  have quiet : start.Quiet := ⟨rfl, rfl⟩
  have idle : start.store.Idle := ⟨rfl, rfl⟩
  have self : Raw.text "host" ≠ .fraction .nan := nofun
  obtain ⟨either, same⟩ := tiersEitherWay quiet idle self (.text "gala") (.text "Gala") .nothing (.text "Hall")
    (some ⟨2 * Moment.microsPerDay, some 0⟩) (List.cons_ne_nil stalls []) [circle]
  let once := ((create [stalls, circle]).run.perform start).2
  have accepts : start.Accepts [create [stalls, circle]] once := .ran (by decide +kernel)
  obtain ⟨last, accepted⟩ := either.mp ⟨once, accepts⟩
  obtain ⟨stored, _⟩ := same accepts accepted
  refine ⟨quiet, idle, self, List.cons_ne_nil stalls [], once, last, accepts, accepted, stored, ?_⟩
  rw [Desk.view, ← stored]
  decide +kernel

end BoxOffice
