import BoxOffice.Proofs.Desk.Rules

/-! How the requests to the event registry end. -/
namespace BoxOffice.Registry
open BoxOffice.Action
variable {α : Type} {start desk : Desk Journal} {view : View} {next : Event → Action Journal α}
  {fails : Failure → Desk Journal → Prop} {holds : α → Desk Journal → Prop}

theorem createEnds (ready : start.Ready) (organizer given name description venue : Raw)
    (date : Option Moment) (specs : List TierSpec) :
    (create organizer given name description venue date specs).Concludes start
      (.createEvent organizer given name description venue date specs) .event := by
  have covers := ready.started.covers (.createEvent organizer given name description venue date specs)
  unfold create
  refine bindAuthenticate nofun covers fun verified => ?_
  refine bindEventId nofun covers fun id named => ?_
  refine bindSettings (bindNow (bindCheck (Event.draftSpares _ _ _ _ _ _ _ _ _) covers fun event drafted => ?_))
  obtain rfl := (Event.draftOk drafted).id
  let ends (_ : Unit) (edits : List Edit) : Prop :=
    start.Effect (.createEvent organizer given name description venue date specs) edits start.funds
      [.eventCreated event.id organizer event.name event.venue event.date event.tiers] (.event event)
  refine bindBlock ends ready.under rfl (fun first inside => ?_) fun _ edits after effect took => ?_
  · refine bindWork inside fun stored none next works inside => ?_
    obtain ⟨rfl, rfl⟩ := Works.eventExists works
    refine guardCovered nofun inside.covers fun free => ?_
    refine leadsMono (leadsWork _ inside) (fun _ _ h => h) ?_
    rintro _ last ⟨edits, works, inside⟩
    obtain ⟨free, rfl⟩ := Works.addEvent works
    exact ⟨_, .created verified named drafted free, inside⟩
  · exact bindLog nofun fun after still => tellsOnce effect (took.still still)

theorem leadsLoad (id : EventId) (inside : start.Inside view desk) :
    (load id).Leads desk (start.Stops [start.view]) fun event after =>
      view.events.get? id = some event ∧ start.Inside view after := by
  unfold load
  refine bindWork inside fun found none after works inside => ?_
  obtain ⟨rfl, rfl⟩ := Works.getEvent works
  split
  · rename_i event stored
    exact leadsPure ⟨stored, inside⟩
  · exact leadsThrow (inside.covers _ _ (by simp) (.refl _))

theorem leadsLoadOwned {organizer given : Raw} {id : EventId} (ready : start.Ready)
    (verified : start.Verified organizer) (named : given = .text id.text)
    (inside : start.Inside start.view desk) :
    (loadOwned organizer id).Leads desk (start.Stops [start.view]) fun event after =>
      event.id = id ∧ start.Owns organizer given event ∧ start.Inside start.view after := by
  unfold loadOwned
  refine leadsBind (leadsLoad id inside) fun event after ⟨stored, inside⟩ => ?_
  obtain rfl := ready.regular.named stored
  refine guardCovered nofun inside.covers fun own => ?_
  exact leadsPure ⟨rfl, ⟨⟨named, stored⟩, verified, by simpa using own⟩, inside⟩

theorem leadsLoadEditable {organizer given : Raw} {id : EventId} (ready : start.Ready)
    (verified : start.Verified organizer) (named : given = .text id.text)
    (inside : start.Inside start.view desk) :
    (loadEditable organizer id).Leads desk (start.Stops [start.view]) fun event after =>
      event.id = id ∧ start.Owns organizer given event ∧ event.status = .upcoming ∧
        start.Inside start.view after := by
  unfold loadEditable
  refine leadsBind (leadsLoadOwned ready verified named inside) fun event after ⟨same, owns, inside⟩ => ?_
  refine guardCovered nofun inside.covers fun editable => ?_
  exact leadsPure ⟨same, owns, by simpa [EventStatus.isEditable] using editable, inside⟩

theorem savesEvent {β : Type} {updated : Event} {value : β} {ends : β → List Edit → Prop}
    (inside : start.Inside start.view desk) (end' : ends value [.event updated]) :
    (call (.saveEvent updated) >>= fun _ => (pure value : Action Journal β)).Leads desk
      (start.Stops [start.view]) fun b after =>
        ∃ edits, ends b edits ∧ start.Inside (edits.foldl View.edit start.view) after := by
  refine bindWork inside fun _ edits after works inside => ?_
  obtain rfl := Works.saveEvent works
  exact leadsPure ⟨_, end', inside⟩

theorem updateDetailsEnds (ready : start.Ready) (organizer given : Raw) (changes : EventChanges) :
    (updateDetails organizer given changes).Concludes start
      (.updateEventDetails organizer given changes) .event := by
  have covers := ready.started.covers (.updateEventDetails organizer given changes)
  unfold updateDetails
  refine bindAuthenticate nofun covers fun verified => ?_
  refine bindEventId nofun covers fun id named => ?_
  let ends (event : Event) (edits : List Edit) : Prop :=
    if changes.isEmpty then
      edits = [] ∧ start.Finds (.updateEventDetails organizer given changes) (.event event)
    else
      start.Effect (.updateEventDetails organizer given changes) edits start.funds
        [.eventUpdated event] (.event event)
  refine bindBlock ends ready.under rfl (fun first inside => ?_) fun event edits after end' took => ?_
  · refine leadsBind (leadsLoadEditable ready verified named inside) fun event here loaded => ?_
    obtain ⟨_, owns, editable, inside⟩ := loaded
    split
    · rename_i none
      exact leadsPure ⟨[], (if_pos none).mpr ⟨rfl, .sameDetails owns editable none⟩, inside⟩
    · rename_i some
      refine bindSettings (bindNow (bindCheck (Event.changeSpares _ _ _ _) inside.covers
        fun updated changed => savesEvent inside ?_))
      rw [inside.kept.settings, inside.kept.clock] at changed
      exact (if_neg some).mpr (.detailsUpdated owns editable (by simpa using some) changed)
  · simp only [ends] at end'
    split at end' <;> rename_i given
    · obtain ⟨rfl, finds⟩ := end'
      rw [if_pos given]
      exact leadsPure (.found finds took)
    · rw [if_neg given]
      exact bindLog nofun fun after still => tellsOnce end' (took.still still)

theorem addTierEnds (ready : start.Ready) (organizer given : Raw) (spec : TierSpec) :
    (addTier organizer given spec).Concludes start (.addTicketTier organizer given spec) .tier := by
  have covers := ready.started.covers (.addTicketTier organizer given spec)
  unfold addTier
  refine bindAuthenticate nofun covers fun verified => ?_
  refine bindEventId nofun covers fun id named => ?_
  let ends (made : Tier × Event) (edits : List Edit) : Prop :=
    (∃ n : Int, made.1.id.key = .whole n) ∧
      start.Effect (.addTicketTier organizer given spec) edits start.funds [.eventUpdated made.2]
        (.tier made.1)
  refine bindBlock ends ready.under rfl (fun first inside => ?_) fun made edits after end' took => ?_
  · refine leadsBind (leadsLoadEditable ready verified named inside) fun event here loaded => ?_
    obtain ⟨_, owns, editable, inside⟩ := loaded
    refine bindCheck (Event.nextTierIdSpares event) inside.covers fun number next => ?_
    refine bindSettings (bindCheck (Tier.ofSpecSpares _ _ _) inside.covers fun tier made => ?_)
    rw [inside.kept.settings] at made
    obtain ⟨n, same, _⟩ := Event.nextTierIdWhole (ready.regular.tiers owns.stored)
    have key : tier.id.key = .whole n := by
      cases next.symm.trans same
      obtain ⟨name, price, capacity, _, _, _, rfl⟩ := Tier.ofSpecOk made
      rfl
    exact savesEvent inside ⟨⟨n, key⟩, .tierAdded owns editable next made⟩
  · obtain ⟨tier, event⟩ := made
    obtain ⟨⟨n, key⟩, effect⟩ := end'
    exact bindWhole key fun _ => bindLog nofun fun after still => tellsOnce effect (took.still still)

theorem updateTierEnds (ready : start.Ready) (organizer given named : Raw) (changes : TierChanges) :
    (updateTier organizer given named changes).Concludes start
      (.updateTier organizer given named changes) .tier := by
  have covers := ready.started.covers (.updateTier organizer given named changes)
  unfold updateTier
  refine bindAuthenticate nofun covers fun verified => ?_
  refine bindEventId nofun covers fun id stated => ?_
  let ends (made : Tier × Event) (edits : List Edit) : Prop :=
    if changes.isEmpty then
      edits = [] ∧ start.Finds (.updateTier organizer given named changes) (.tier made.1)
    else
      (∃ n : Int, named.key = .whole n) ∧
        start.Effect (.updateTier organizer given named changes) edits start.funds
          [.eventUpdated made.2] (.tier made.1)
  refine bindBlock ends ready.under rfl (fun first inside => ?_) fun made edits after end' took => ?_
  · refine leadsBind (leadsLoadEditable ready verified stated inside) fun event here loaded => ?_
    obtain ⟨_, owns, editable, inside⟩ := loaded
    split
    · exact leadsThrow (inside.covers _ _ nofun (.refl _))
    · rename_i tier found
      split
      · rename_i none
        exact leadsPure ⟨[], (if_pos none).mpr ⟨rfl, .sameTier owns editable found none⟩, inside⟩
      · rename_i some
        refine bindSettings (bindCheck (Tier.changeSpares _ _ _) inside.covers
          fun updated changed => savesEvent inside ?_)
        rw [inside.kept.settings] at changed
        obtain ⟨n, _, key⟩ := Event.namedWhole found (ready.regular.tiers owns.stored)
        exact (if_neg some).mpr
          ⟨⟨n, key⟩, .tierUpdated owns editable found (by simpa using some) changed⟩
  · obtain ⟨tier, event⟩ := made
    simp only [ends] at end' ⊢
    split at end' <;> rename_i given
    · obtain ⟨rfl, finds⟩ := end'
      rw [if_pos given]
      exact leadsPure (.found finds took)
    · obtain ⟨⟨n, key⟩, effect⟩ := end'
      rw [if_neg given]
      exact bindWhole key fun _ => bindLog nofun fun after still => tellsOnce effect (took.still still)

theorem bindNewStatus {given : Raw} {next : EventStatus → Action Journal α}
    (covers : desk.Covers fails)
    (later : ∀ status, EventStatus.ofRaw? given = some status → (next status).Leads desk fails holds) :
    (newStatus given >>= next).Leads desk fails holds := by
  unfold newStatus
  split
  · rename_i status known
    exact later status known
  · exact throwCovered nofun covers

theorem updateStatusEnds (ready : start.Ready) (organizer given wanted : Raw) :
    (updateStatus organizer given wanted).Concludes start
      (.updateEventStatus organizer given wanted) .event := by
  have covers := ready.started.covers (.updateEventStatus organizer given wanted)
  unfold updateStatus
  refine bindAuthenticate nofun covers fun verified => ?_
  refine bindEventId nofun covers fun id named => ?_
  refine bindNewStatus covers fun status known => ?_
  let ends (made : EventStatus × Event) (edits : List Edit) : Prop :=
    start.Effect (.updateEventStatus organizer given wanted) edits start.funds
      [.eventStatusChanged id made.1 status] (.event made.2)
  refine bindBlock ends ready.under rfl (fun first inside => ?_) fun made edits after effect took => ?_
  · refine leadsBind (leadsLoadOwned ready verified named inside) fun event here loaded => ?_
    obtain ⟨rfl, owns, inside⟩ := loaded
    split
    · refine bindLog nofun fun after still => ?_
      exact throwCovered nofun (inside.still still).covers
    · rename_i allowed
      exact savesEvent inside (.statusUpdated owns known (by simpa using allowed))
  · obtain ⟨old, event⟩ := made
    exact bindLog nofun fun after still => tellsOnce effect (took.still still)

theorem cancelEnds (ready : start.Ready) (organizer given : Raw) :
    (cancel organizer given).Concludes start (.cancelEvent organizer given) .event := by
  have covers := ready.started.covers (.cancelEvent organizer given)
  unfold cancel
  refine bindAuthenticate nofun covers fun verified => ?_
  refine bindEventId nofun covers fun id named => ?_
  let ends (made : EventStatus × Event) (edits : List Edit) : Prop :=
    start.Effect (.cancelEvent organizer given) edits start.funds
      [.eventStatusChanged id made.1 .cancelled, .eventCancelled id] (.event made.2)
  refine bindBlock ends ready.under rfl (fun first inside => ?_) fun made edits after effect took => ?_
  · refine leadsBind (leadsLoadOwned ready verified named inside) fun event here loaded => ?_
    obtain ⟨rfl, owns, inside⟩ := loaded
    refine guardCovered nofun inside.covers fun allowed => ?_
    exact savesEvent inside (.cancelled owns (by simpa using allowed))
  · obtain ⟨old, event⟩ := made
    refine bindLog nofun fun after still => ?_
    refine bindNotify (took.still still) (fun after took => ?_) fun after took => ?_
    · exact .unheard effect (by simp) (by simp) took
    · refine bindNotify took (fun after took => ?_) fun after took => ?_
      · exact .unheard effect (by simp) (List.prefix_refl _) took
      · exact leadsPure (.done effect took)

theorem leadsGet (ready : start.Ready) (request : Operation) (given : Raw) :
    (get given).Leads start (fun failure after => start.Ends request (.error failure) after)
      fun event after => start.Names given event ∧ start.Took start.view start.funds [] after := by
  have covers := ready.started.covers request
  unfold get
  refine bindEventId nofun covers fun id named => ?_
  unfold load
  refine bindLook ready.started (fun _ => rfl) covers fun found after works took => ?_
  obtain ⟨rfl, _⟩ := Works.getEvent works
  split
  · rename_i event stored
    obtain rfl := ready.regular.named stored
    exact leadsPure ⟨⟨named, stored⟩, took⟩
  · exact leadsThrow (took.covers request _ _ nofun (.refl _))

theorem getEnds (ready : start.Ready) (given : Raw) :
    (get given).Concludes start (.getEvent given) .event :=
  leadsMono (leadsGet ready (.getEvent given) given) (fun _ _ h => h)
    fun _ _ ⟨names, took⟩ => .found (.event names) took

theorem statusEnds (ready : start.Ready) (given : Raw) :
    (get given).Concludes start (.getEventStatus given) fun event => .status event.status :=
  leadsMono (leadsGet ready (.getEventStatus given) given) (fun _ _ h => h)
    fun _ _ ⟨names, took⟩ => .found (.status names) took

theorem listEnds (ready : start.Ready) (organizer : Raw) :
    (list organizer).Concludes start (.listEvents organizer) .events := by
  have covers := ready.started.covers (.listEvents organizer)
  unfold list
  rw [← bind_pure (call _)]
  refine bindLook ready.started (fun _ => rfl) covers fun events after works took => ?_
  exact leadsPure (.found (.events (Works.listEvents works).1) took)

end BoxOffice.Registry
