import BoxOffice.Proofs.Amendment
import BoxOffice.Proofs.Desk.Accepted

/-! Partial updates of an event that has not opened, and of its tiers, where nothing disturbs the desk. What is
recorded after some of them is the event with their amendments, so updates compose as amendments do. -/
namespace BoxOffice

namespace Dossier
variable {dossier : Dossier} {event : Event} {id : EventId} {organizer : Raw} {settings : Settings}
  {now : Option Moment} {amendment : Amendment}

theorem amends (editable : dossier.editable id organizer = .ok event) (counted : event.Counted)
    (admits : event.Admits settings now amendment) :
    ∃ answer edits, (amendment.request organizer id).rulingOn settings now id dossier = .ok (answer, edits) ∧
      (amendment.isEmpty = true ∧ edits = [] ∨ edits = [.event (event.amended amendment)]) := by
  cases amendment with
  | details changes =>
    have changed : event.change settings now changes = .ok (event.amended (.details changes)) :=
      Event.changeIff.mpr ⟨admits, rfl⟩
    simp only [Amendment.request, Operation.rulingOn, updateDetails, editable, changed, bind, Except.bind]
    split <;> rename_i none
    · exact ⟨_, _, rfl, .inl ⟨none, rfl⟩⟩
    · exact ⟨_, _, rfl, .inr rfl⟩
  | tier named changes =>
    obtain ⟨tier, found, valid⟩ := admits
    have changed : tier.change settings changes = .ok (changes.applied tier) := Tier.changeIff.mpr ⟨valid, rfl⟩
    simp only [Amendment.request, Operation.rulingOn, updateTier, editable, found, changed, bind, Except.bind,
      Event.withTierApplied counted found]
    split <;> rename_i none
    · exact ⟨_, _, rfl, .inl ⟨none, rfl⟩⟩
    · exact ⟨_, _, rfl, .inr rfl⟩

theorem amended {answer : Answer} {edits : List Edit}
    (ruled : (amendment.request organizer id).rulingOn settings now id dossier = .ok (answer, edits)) :
    ∃ event, dossier.editable id organizer = .ok event ∧ event.Admits settings now amendment := by
  cases amendment with
  | details changes =>
    obtain ⟨updated, ruled, _⟩ := Ruling.answerOk ruled
    obtain ⟨event, editable, ends⟩ := updateDetailsOk ruled
    refine ⟨event, editable, ?_⟩
    split at ends
    · exact EventChanges.validEmpty (by assumption)
    · exact (Event.changeIff.mp ends.1).1
  | tier named changes =>
    obtain ⟨made, ruled, _⟩ := @Ruling.answerOk _ _ (fun made : Tier × Event => Answer.tier made.1) _ _ _ ruled
    obtain ⟨event, tier, editable, found, ends⟩ := updateTierOk ruled
    refine ⟨event, editable, tier, found, ?_⟩
    split at ends
    · exact TierChanges.validEmpty (by assumption)
    · exact (Tier.changeIff.mp ends.1).1

end Dossier

theorem View.editTwice (v : View) {event updated : Event} (same : updated.id = event.id) :
    (v.edit (.event event)).edit (.event updated) = v.edit (.event updated) := by
  simp only [edit, same, Table.putTwice]

theorem View.editStored {v : View} {event : Event} (stored : v.events.get? event.id = some event) :
    v.edit (.event event) = v := by
  simp only [edit, Table.putStored stored]

namespace Desk

structure Editing (start : Desk Journal) (organizer : Raw) (id : EventId) (event : Event) (desk : Desk Journal) :
    Prop extends start.Around desk where
  reached : desk.store.Reached
  quiet : desk.Quiet
  admitted : start.admits organizer (.event .callerNotVerified) = .ok ()
  named : event.id = id
  own : event.organizer.same organizer = true
  upcoming : event.status = .upcoming
  view : desk.view = start.view.edit (.event event)

namespace Editing
variable {start desk after : Desk Journal} {organizer : Raw} {id : EventId} {event : Event}
  {amendment : Amendment} {amendments : List Amendment} {answer : Answer}

theorem stored (editing : start.Editing organizer id event desk) : desk.view.events.get? id = some event := by
  rw [editing.view, ← editing.named]
  exact Table.getPutSame _ _ _

theorem counted (editing : start.Editing organizer id event desk) : event.Counted :=
  editing.reached.counted editing.stored

theorem comesTo (editing : start.Editing organizer id event desk) (amendment : Amendment) :
    desk.ComesTo
      ((amendment.request organizer id).rulingOn start.settings start.clock id (desk.view.dossier id))
      ((amendment.request organizer id).run.perform desk).1
      ((amendment.request organizer id).run.perform desk).2 := by
  have about : (amendment.request organizer id).onEvent? = some (organizer, .text id.text) := by
    cases amendment <;> rfl
  have admitted : desk.admits organizer (.event .callerNotVerified) = .ok () := by
    rw [admits, editing.verifier]
    exact editing.admitted
  have comes := Operation.comesToRuling editing.quiet editing.reached about
  rw [Operation.ruling, attendsNamed admitted (EventId.namedSelf id), editing.settings, editing.clock] at comes
  exact comes

theorem accepts (editing : start.Editing organizer id event desk)
    (admits : event.Admits start.settings start.clock amendment) :
    ∃ answer after, (amendment.request organizer id).run.perform desk = (.ok answer, after) ∧
      start.Editing organizer id (event.amended amendment) after := by
  have editable : (desk.view.dossier id).editable id organizer = .ok event :=
    Dossier.editableOwned editing.stored editing.own editing.upcoming
  obtain ⟨answer, edits, ruled, made⟩ := Dossier.amends editable editing.counted admits
  have comes := editing.comesTo amendment
  rw [ruled] at comes
  have kept : (event.amended amendment).id = event.id ∧ (event.amended amendment).organizer = event.organizer ∧
      (event.amended amendment).status = event.status := by
    cases amendment <;> exact ⟨rfl, rfl, rfl⟩
  refine ⟨answer, _, Prod.ext comes.outcome rfl, ?_⟩
  exact {
    toAround := editing.toAround.trans comes.toAround
    reached := comes.reached
    quiet := comes.quiet
    admitted := editing.admitted
    named := kept.1.trans editing.named
    own := kept.2.1 ▸ editing.own
    upcoming := kept.2.2.trans editing.upcoming
    view := by
      refine comes.view.trans ?_
      obtain ⟨empty, rfl⟩ | rfl := made
      · rw [Event.amendedEmpty event empty]
        exact editing.view
      · refine (congrArg (View.edit · (.event (event.amended amendment))) editing.view).trans ?_
        exact View.editTwice _ kept.1 }

theorem accepted (editing : start.Editing organizer id event desk)
    (ran : (amendment.request organizer id).run.perform desk = (.ok answer, after)) :
    event.Admits start.settings start.clock amendment ∧
      start.Editing organizer id (event.amended amendment) after := by
  have comes := editing.comesTo amendment
  have outcome := comes.outcome
  rw [ran] at outcome
  have admits : event.Admits start.settings start.clock amendment := by
    cases ruled : (amendment.request organizer id).rulingOn start.settings start.clock id (desk.view.dossier id) with
    | error failure =>
      rw [ruled] at outcome
      cases outcome
    | ok made =>
      obtain ⟨found, editable, admits⟩ := Dossier.amended ruled
      cases editing.stored.symm.trans (Dossier.editableOk editable).1
      exact admits
  obtain ⟨_, _, again, later⟩ := editing.accepts admits
  cases ran.symm.trans again
  exact ⟨admits, later⟩

theorem acceptsAll (editing : start.Editing organizer id event desk)
    (admits : ∀ amendment ∈ amendments, event.Admits start.settings start.clock amendment) :
    ∃ after, desk.Accepts (amendments.map (Amendment.request organizer id)) after := by
  induction amendments generalizing event desk with
  | nil => exact ⟨desk, .none⟩
  | cons amendment rest ih =>
    obtain ⟨here, later⟩ := List.forall_mem_cons.mp admits
    obtain ⟨answer, next, answered, amended⟩ := editing.accepts here
    obtain ⟨after, accepts⟩ := ih amended fun other mem => Event.admitsAmended.mpr (later other mem)
    exact ⟨after, .more answered accepts⟩

theorem acceptedAll (editing : start.Editing organizer id event desk)
    (accepts : desk.Accepts (amendments.map (Amendment.request organizer id)) after) :
    (∀ amendment ∈ amendments, event.Admits start.settings start.clock amendment) ∧
      start.Editing organizer id (amendments.foldl Event.amended event) after := by
  induction amendments generalizing event desk with
  | nil =>
    obtain _ | _ := accepts
    exact ⟨nofun, editing⟩
  | cons amendment rest ih =>
    obtain ⟨answer, next, answered, accepts⟩ := Accepts.cons.mp accepts
    obtain ⟨here, amended⟩ := editing.accepted answered
    obtain ⟨later, last⟩ := ih amended accepts
    exact ⟨List.forall_mem_cons.mpr ⟨here, fun other mem => Event.admitsAmended.mp (later other mem)⟩, last⟩

section
variable (reached : start.store.Reached) (quiet : start.Quiet)
  (stored : start.view.events.get? event.id = some event) (upcoming : event.status = .upcoming)
include reached quiet stored upcoming

theorem begins (admitted : start.admits organizer (.event .callerNotVerified) = .ok ())
    (own : event.organizer.same organizer = true) : start.Editing organizer event.id event start where
  toAround := .refl start
  reached := reached
  quiet := quiet
  admitted := admitted
  named := rfl
  own := own
  upcoming := upcoming
  view := (View.editStored stored).symm

theorem entitled (ran : (amendment.request organizer event.id).run.perform start = (.ok answer, after)) :
    start.Editing organizer event.id event start := by
  have about : (amendment.request organizer event.id).onEvent? = some (organizer, .text event.id.text) := by
    cases amendment <;> rfl
  have outcome := (Operation.comesToRuling quiet reached about).outcome
  rw [ran] at outcome
  cases ruled : (amendment.request organizer event.id).ruling start organizer (.text event.id.text) with
  | error failure =>
    rw [ruled] at outcome
    cases outcome
  | ok made =>
    obtain ⟨id, admitted, named, ruled⟩ := attendsOk ruled
    cases (EventId.namedSelf event.id).symm.trans named
    obtain ⟨found, editable, _⟩ := Dossier.amended ruled
    obtain ⟨there, own, _⟩ := Dossier.editableOk editable
    cases stored.symm.trans there
    exact begins reached quiet stored upcoming admitted own

end

end Editing

theorem admitsIff {desk : Desk Journal} {caller : Raw} {refusal : Failure} :
    desk.admits caller refusal = .ok () ↔ desk.Verified caller := by
  refine ⟨fun admitted => ?_, fun verified => admitsVerified verified refusal⟩
  obtain ⟨known, verified, admitted⟩ := bindOk admitted
  obtain ⟨is, _⟩ := guardOk admitted
  rw [Verified, verified, show known = true by simpa using is]

def Amends (start : Desk Journal) (organizer : Raw) (event : Event) (amendments : List Amendment)
    (after : Desk Journal) : Prop :=
  start.Accepts (amendments.map (Amendment.request organizer event.id)) after

/-- How partial updates of an event and its tiers compose. Two that can be merged come to what their merge comes
to, and two that are apart can change places; what an update does not set it leaves, an empty one changes and
tells nothing, and one that is made again changes nothing more. -/
structure UpdatesCompose (start : Desk Journal) (organizer : Raw) (event : Event) : Prop where
  accepts : ∀ {amendment}, (∃ after, start.Amends organizer event [amendment] after) ↔
    start.Verified organizer ∧ event.organizer.same organizer = true ∧
      event.Admits start.settings start.clock amendment
  both : ∀ {first second once other}, start.Amends organizer event [first] once →
    start.Amends organizer event [second] other → ∃ after, start.Amends organizer event [first, second] after
  merge : ∀ {first second merged after}, event.Merges first second merged →
    start.Amends organizer event [first, second] after →
    ∃ once, start.Amends organizer event [merged] once ∧ once.view = after.view
  swap : ∀ {first second after}, event.Apart first second → start.Amends organizer event [first, second] after →
    ∃ last, start.Amends organizer event [second, first] last ∧ last.view = after.view
  leaves : ∀ {amendment after}, start.Amends organizer event [amendment] after →
    ∃ updated, event.Leaves updated amendment ∧ after.view.events.get? event.id = some updated ∧
      after.view = start.view.edit (.event updated)
  empty : ∀ {amendment after}, amendment.isEmpty = true → start.Amends organizer event [amendment] after →
    after.view = start.view ∧ after.funds = start.funds ∧ after.notices = start.notices
  again : ∀ {amendment after}, start.Amends organizer event [amendment] after →
    ∃ last, after.Amends organizer event [amendment] last ∧ last.view = after.view

end Desk

theorem Operation.emptyTells {start after : Desk Journal} (ready : start.Ready) {organizer : Raw} {id : EventId}
    {amendment : Amendment} (empty : amendment.isEmpty = true) {answer : Answer}
    (ran : (amendment.request organizer id).run.perform start = (.ok answer, after)) :
    after.view = start.view ∧ after.funds = start.funds ∧ after.notices = start.notices := by
  have ends := (amendment.request organizer id).ends ready
  rw [ran] at ends
  generalize asked : amendment.request organizer id = request at ends
  cases ends with
  | found finds took => exact ⟨took.view, took.funds, by rw [took.notices, List.append_nil]⟩
  | done effect took =>
    cases amendment with
    | details changes =>
      cases asked
      cases effect with
      | detailsUpdated owns editable some changed => exact nomatch some.symm.trans empty
    | tier named changes =>
      cases asked
      cases effect with
      | tierUpdated owns editable found some changed => exact nomatch some.symm.trans empty

namespace Desk.Editing
variable {start after once other : Desk Journal} {organizer : Raw} {event : Event}
  {first second merged amendment : Amendment} (editing : start.Editing organizer event.id event start)
include editing

theorem both (amends : start.Amends organizer event [first] once) (amends' : start.Amends organizer event [second] other) :
    ∃ after, start.Amends organizer event [first, second] after := by
  obtain ⟨admits, _⟩ := editing.acceptedAll amends
  obtain ⟨admits', _⟩ := editing.acceptedAll amends'
  exact editing.acceptsAll (List.forall_mem_cons.mpr ⟨admits first List.mem_cons_self, admits'⟩)

theorem merge (merges : event.Merges first second merged)
    (amends : start.Amends organizer event [first, second] after) :
    ∃ once, start.Amends organizer event [merged] once ∧ once.view = after.view := by
  obtain ⟨admits, last⟩ := editing.acceptedAll amends
  obtain ⟨here, there⟩ := List.forall_mem_cons.mp admits
  have there := there second List.mem_cons_self
  obtain ⟨once, accepts⟩ := editing.acceptsAll
    (List.forall_mem_singleton.mpr (Event.admitsMerged merges here there))
  obtain ⟨_, single⟩ := editing.acceptedAll accepts
  refine ⟨once, accepts, ?_⟩
  rw [single.view, last.view]
  exact congrArg (fun event => start.view.edit (.event event))
    (Event.amendedMerged editing.counted merges here there)

theorem swap (apart : event.Apart first second) (amends : start.Amends organizer event [first, second] after) :
    ∃ last, start.Amends organizer event [second, first] last ∧ last.view = after.view := by
  obtain ⟨admits, ends⟩ := editing.acceptedAll amends
  obtain ⟨here, there⟩ := List.forall_mem_cons.mp admits
  have there := there second List.mem_cons_self
  obtain ⟨last, accepts⟩ := editing.acceptsAll
    (List.forall_mem_cons.mpr ⟨there, List.forall_mem_singleton.mpr here⟩)
  obtain ⟨_, swapped⟩ := editing.acceptedAll accepts
  refine ⟨last, accepts, ?_⟩
  rw [swapped.view, ends.view]
  exact congrArg (fun event => start.view.edit (.event event))
    (Event.amendedApart editing.counted apart here there)

theorem leaves (amends : start.Amends organizer event [amendment] after) :
    ∃ updated, event.Leaves updated amendment ∧ after.view.events.get? event.id = some updated ∧
      after.view = start.view.edit (.event updated) := by
  obtain ⟨_, ends⟩ := editing.acceptedAll amends
  exact ⟨event.amended amendment, event.amendedLeaves amendment, ends.stored, ends.view⟩

theorem again (amends : start.Amends organizer event [amendment] after) :
    ∃ last, after.Amends organizer event [amendment] last ∧ last.view = after.view := by
  obtain ⟨admits, ends⟩ := editing.acceptedAll amends
  have admits := admits amendment List.mem_cons_self
  obtain ⟨answer, last, answered, later⟩ := ends.accepts (Event.admitsAmended.mpr admits)
  refine ⟨last, Accepts.one.mpr ⟨answer, answered⟩, ?_⟩
  rw [later.view, ends.view]
  exact congrArg (fun event => start.view.edit (.event event)) (Event.amendedTwice amendment)

end Desk.Editing

/-- Partial updates of an event that has not opened compose, at a desk that requests reach and nothing disturbs. -/
theorem updatesCompose {start : Desk Journal} (reached : start.store.Reached) (quiet : start.Quiet) {event : Event}
    (stored : start.view.events.get? event.id = some event) (upcoming : event.status = .upcoming)
    (organizer : Raw) : start.UpdatesCompose organizer event := by
  have begins {amendment : Amendment} {rest : List Amendment} {after : Desk Journal}
      (amends : start.Amends organizer event (amendment :: rest) after) :
      start.Editing organizer event.id event start := by
    obtain ⟨answer, next, ran, _⟩ := Desk.Accepts.cons.mp amends
    exact Desk.Editing.entitled reached quiet stored upcoming ran
  refine {
    accepts := ⟨?_, ?_⟩
    both := fun amends => (begins amends).both amends
    merge := fun merges amends => (begins amends).merge merges amends
    swap := fun apart amends => (begins amends).swap apart amends
    leaves := fun amends => (begins amends).leaves amends
    empty := fun empty amends => ?_
    again := fun amends => (begins amends).again amends }
  · rintro ⟨after, amends⟩
    have editing := begins amends
    obtain ⟨admits, _⟩ := editing.acceptedAll amends
    exact ⟨Desk.admitsIff.mp editing.admitted, editing.own, admits _ List.mem_cons_self⟩
  · rintro ⟨verified, own, admits⟩
    have editing := Desk.Editing.begins reached quiet stored upcoming (Desk.admitsIff.mpr verified) own
    exact editing.acceptsAll (List.forall_mem_singleton.mpr admits)
  · obtain ⟨answer, ran⟩ := Desk.Accepts.one.mp amends
    exact Operation.emptyTells (reached.ready quiet.tame) empty ran

/- The gala is given another name and then another hall, or both at once; its stalls are given another name and
then another price, or both at once; and the stalls and the circle may be renamed in either order. -/
theorem updatesComposeGala :
    let host := Raw.text "host"
    let steps : List Step :=
      [.operation (.createEvent host (.text "gala") (.text "Gala") .nothing (.text "Hall")
        (some ⟨2 * Moment.microsPerDay, some 0⟩)
        [⟨.text "Stalls", .whole 5, .whole 1⟩, ⟨.text "Circle", .whole 9, .whole 2⟩])]
    let desk : Desk Journal :=
      .opened .empty none (some ⟨0, some 0⟩) .standard (.text "escrow") false true
    let start := (Step.takeAll steps desk).2
    let event : Event :=
      ⟨⟨"gala", rfl⟩, host, .text "Gala", .text "", .text "Hall", some ⟨2 * Moment.microsPerDay, some 0⟩,
        some ⟨0, some 0⟩, .upcoming, [⟨.whole 0, .text "Stalls", ⟨.ofInt 5, rfl⟩, .whole 1, .whole 0⟩,
          ⟨.whole 1, .text "Circle", ⟨.ofInt 9, rfl⟩, .whole 2, .whole 0⟩]⟩
    let ball : Amendment := .details ⟨some (.text "Ball"), none, none, none⟩
    let palace : Amendment := .details ⟨none, none, some (.text "Palace"), none⟩
    let both : Amendment := .details ⟨some (.text "Ball"), none, some (.text "Palace"), none⟩
    let pit : Amendment := .tier (.whole 0) ⟨some (.text "Pit"), none, none⟩
    let cheap : Amendment := .tier (.whole 0) ⟨none, some (.whole 3), none⟩
    let cheapPit : Amendment := .tier (.whole 0) ⟨some (.text "Pit"), some (.whole 3), none⟩
    let ring : Amendment := .tier (.whole 1) ⟨some (.text "Ring"), none, none⟩
    let tiers (after : Desk Journal) : Option (List (Raw × Decimal.Finite)) :=
      (after.view.events.get? event.id).map fun event => event.tiers.map fun tier => (tier.name, tier.price.amount)
    start.store.Reached ∧ start.Quiet ∧ start.view.events.get? event.id = some event ∧
      event.status = .upcoming ∧ start.UpdatesCompose host event ∧
      (∃ after once, start.Amends host event [ball, palace] after ∧ start.Amends host event [both] once ∧
        once.view = after.view ∧ (after.view.events.get? event.id).map (fun event => (event.name, event.venue)) =
          some (.text "Ball", .text "Palace")) ∧
      (∃ after once, start.Amends host event [pit, cheap] after ∧ start.Amends host event [cheapPit] once ∧
        once.view = after.view ∧ tiers after = some [(.text "Pit", .ofInt 3), (.text "Circle", .ofInt 9)]) ∧
      ∃ after last, start.Amends host event [pit, ring] after ∧ start.Amends host event [ring, pit] last ∧
        last.view = after.view := by
  intro host steps desk start event ball palace both pit cheap cheapPit ring tiers
  have ordinary : ∀ step ∈ steps, step.Ordinary := by simp [steps, Step.Ordinary]
  have tame : desk.Tame := by
    intro fault mem
    cases mem
  obtain ⟨reached, _⟩ := @Step.takeAllReached steps desk ordinary .empty tame
  have quiet : start.Quiet := ⟨by decide +kernel, by decide +kernel⟩
  have stored : start.view.events.get? event.id = some event := by decide +kernel
  have composes : start.UpdatesCompose host event := updatesCompose reached quiet stored rfl host
  have named : start.Amends host event [ball] _ := .ran (by decide +kernel)
  have placed : start.Amends host event [palace] _ := .ran (by decide +kernel)
  have lowered : start.Amends host event [pit] _ := .ran (by decide +kernel)
  have reduced : start.Amends host event [cheap] _ := .ran (by decide +kernel)
  have rounded : start.Amends host event [ring] _ := .ran (by decide +kernel)
  obtain ⟨after, amends⟩ := composes.both named placed
  obtain ⟨once, single, same⟩ := composes.merge (.details _ _) amends
  obtain ⟨after', amends'⟩ := composes.both lowered reduced
  obtain ⟨once', single', same'⟩ := composes.merge (.tier rfl _ _) amends'
  obtain ⟨crossed, crosses⟩ := composes.both lowered rounded
  obtain ⟨last, swapped, ends⟩ := composes.swap (.tiers (by decide +kernel)) crosses
  refine ⟨reached, quiet, stored, rfl, composes, ⟨after, once, amends, single, same, ?_⟩,
    ⟨after', once', amends', single', same', ?_⟩, crossed, last, crosses, swapped, ends⟩
  · obtain ⟨answer, ran⟩ := Desk.Accepts.one.mp single
    have is : once = ((both.request host event.id).run.perform start).2 := (congrArg Prod.snd ran).symm
    rw [← same, is]
    decide +kernel
  · obtain ⟨answer, ran⟩ := Desk.Accepts.one.mp single'
    have is : once' = ((cheapPit.request host event.id).run.perform start).2 := (congrArg Prod.snd ran).symm
    simp only [tiers, ← same', is]
    decide +kernel

end BoxOffice
