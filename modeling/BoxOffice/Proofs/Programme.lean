import BoxOffice.Proofs.Desk.Quiet
import BoxOffice.Proofs.Interchange.Rows
import BoxOffice.Proofs.Replay
import BoxOffice.Proofs.Soundness
import BoxOffice.Proofs.Store.Listing

/-! The list of events. Every event that is stored is on it once, the newest first, and those of one time in the
order in which they were created. The events of one organizer are what is left of it without the others. -/
namespace BoxOffice

namespace Event
variable {settings : Settings} {now : Option Moment}

theorem requireDateZoned {date : Moment} (ok : requireDate settings now date = .ok ()) :
    ∃ m, now = some m ∧ m.isNaive = false := by
  -- The date is compared with the time, and without a zone that fails.
  unfold requireDate at ok
  split at ok
  · cases ok
  rename_i zoned
  cases now with
  | none => cases ok
  | some now =>
    refine ⟨now, rfl, ?_⟩
    split at ok
    · cases ok
    rename_i earliest planned
    rw [← (laterOk planned).2]
    split at ok
    · cases ok
    · rename_i order
      unfold Moment.order? at order
      split at order
      · rename_i alike
        rw [← alike]
        simpa using zoned
      · cases order
    · cases ok

theorem Drafted.zoned {organizer : Raw} {id : EventId} {name description venue : Raw} {date : Option Moment}
    {specs : List TierSpec} {event : Event}
    (drafted : Drafted settings now organizer id name description venue date specs event) : event.Zoned := by
  obtain ⟨_, _, _, required⟩ := drafted.date
  obtain ⟨m, is, zoned⟩ := requireDateZoned required
  exact ⟨m, drafted.createdAt.trans is, zoned⟩

end Event

def View.Zoned (v : View) : Prop :=
  ∀ id event, v.events.get? id = some event → event.Zoned

def Operation.founded : Operation → Option EventId
  | createEvent _ (.text id) _ _ _ _ _ => EventId.ofText? id
  | _ => none

namespace Desk.Effect
variable {desk : Desk Journal} {request : Operation} {edits : List Edit} {funds : Funds} {told : List Notice}
  {answer : Answer}

theorem zoned (effect : desk.Effect request edits funds told answer) (zoned : desk.view.Zoned) :
    (edits.foldl View.edit desk.view).Zoned := by
  have put {later : Event} (made : later.Zoned) : (desk.view.edit (.event later)).Zoned := by
    intro id event stored
    by_cases here : id = later.id
    · subst here
      rw [View.edit, Table.getPutSame] at stored
      cases stored
      exact made
    · rw [View.edit, Table.getPutOther _ here] at stored
      exact zoned id event stored
  have saved {event later : Event} (stored : desk.view.events.get? event.id = some event)
      (same : later.createdAt = event.createdAt) : (desk.view.edit (.event later)).Zoned := by
    obtain ⟨m, made, zone⟩ := zoned _ _ stored
    exact put ⟨m, same.trans made, zone⟩
  cases effect with
  | created verified named drafted => exact put (Event.draftOk drafted).zoned
  | detailsUpdated owns editable some changed =>
    obtain ⟨name, description, venue, date, rfl⟩ := Event.changeOk changed
    exact saved owns.stored rfl
  | tierAdded owns => exact saved owns.stored rfl
  | tierUpdated owns => exact saved owns.stored rfl
  | statusUpdated owns => exact saved owns.stored rfl
  | cancelled owns => exact saved owns.stored rfl
  | registered verified names => exact saved names.stored rfl
  | ticketTransferred =>
    rw [View.handedTo]
    exact zoned
  | _ => exact zoned

theorem foundedTold (effect : desk.Effect request edits funds told answer) :
    told.filterMap Notice.created? = request.founded.toList := by
  cases effect with
  | created verified named => simp [Notice.created?, Operation.founded, named, EventId.ofTextSelf]
  | _ => rfl

end Desk.Effect

theorem foundedGrows : Grows Operation.founded fun v => v.events.entries.map Prod.fst where
  found finds := by cases finds <;> rfl
  grown _ effect := by rw [effect.createdTold, effect.foundedTold]

theorem Journal.Reached.zoned {store : Journal} (reached : store.Reached) : store.tables.view.Zoned :=
  reached.keeps nofun fun _ zoned effect => effect.zoned zoned

/-- A list of the events that are stored, each of them once: those that have been created, the newest first, and
of one time in the order of their creation. -/
structure View.Listed (v : View) (created : List EventId) (all : List Event) : Prop where
  stored : ∀ event, event ∈ all ↔ v.events.get? event.id = some event
  once : (all.map Event.id).Nodup
  founded : (all.map Event.id).Perm created
  timed : ∀ event ∈ all, ∃ m, event.createdAt = some m
  newest : all.Pairwise fun a b => b.made ≤ a.made
  early : ∀ instant, ((all.filter fun event => event.made = instant).map Event.id).Sublist created

namespace View
variable {v : View}

def programme (v : View) : List Event :=
  fallingSort Event.made v.events.values

theorem valuesKeys (distinct : v.Distinct) (regular : v.Regular) :
    v.events.values.map Event.id = v.events.entries.map Prod.fst := by
  rw [Table.values, List.map_map]
  refine List.map_congr_left fun entry mem => ?_
  exact regular.named (Table.getOfMem distinct mem)

theorem programmeListed (distinct : v.Distinct) (regular : v.Regular) (zoned : v.Zoned) :
    v.Listed (v.events.entries.map Prod.fst) v.programme := by
  have keys := valuesKeys distinct regular
  have sorted : v.programme.Perm v.events.values := List.mergeSort_perm _ _
  have named : ∀ entry ∈ v.events.entries, entry.2.id = entry.1 := fun entry mem =>
    regular.named (Table.getOfMem distinct mem)
  have stored (event : Event) : event ∈ v.programme ↔ v.events.get? event.id = some event := by
    rw [sorted.mem_iff]
    exact ⟨Table.namedMem named distinct, Table.valueMem⟩
  have founded : (v.programme.map Event.id).Perm (v.events.entries.map Prod.fst) := keys ▸ sorted.map Event.id
  constructor
  case stored => exact stored
  case once => exact founded.nodup_iff.mpr distinct
  case founded => exact founded
  case timed =>
    intro event mem
    obtain ⟨m, made, _⟩ := zoned _ _ ((stored event).mp mem)
    exact ⟨m, made⟩
  case newest => exact fallingSorted _ _
  case early =>
    intro instant
    have same : v.programme.filter (fun event => event.made = instant) =
        v.events.values.filter fun event => event.made = instant := keyedSort _ instant _
    rw [same, ← keys]
    exact List.filter_sublist.map Event.id

theorem listingProgramme (distinct : v.Distinct) (zoned : v.Zoned) (organizer : Raw) :
    listing v.events.values organizer = .ok (Event.chosen organizer v.programme) := by
  have timed : ∀ event ∈ v.events.values, event.Zoned := by
    intro event mem
    obtain ⟨entry, inside, rfl⟩ := List.mem_map.mp mem
    exact zoned _ _ (Table.getOfMem distinct inside)
  rw [Event.listingZoned timed]
  refine congrArg Except.ok ?_
  cases organizer with
  | nothing => rfl
  | _ => exact fallingSortFilter _ _ _

end View

theorem Operation.performListEvents {desk : Desk Journal} (quiet : desk.storeFaults = []) {organizer : Raw}
    {events : List Event} (listed : listing desk.view.events.values organizer = .ok events) :
    ((listEvents organizer).run.perform desk).1 = .ok (.events events) := by
  have planned : desk.store.tables.plan (.listEvents organizer) = (.ok events, []) :=
    congrArg (fun found => (found, [])) listed
  rw [run, Registry.list, Action.performBind, Action.performRead quiet planned]
  rfl

/-- After any run of ordinary steps from an empty store, whatever the clock does and whichever creations fail,
the list of events has those that are stored, each once, the newest first, and those of one time in the order
in which their creation took effect. The list of one organizer has those of them that are his, in the same
order. -/
theorem programmeNewestFirst {desk : Desk Journal} (empty : desk.store = .empty) (tame : desk.Tame)
    {steps : List Step} (ordinary : ∀ step ∈ steps, step.Ordinary) :
    let after := (Step.takeAll steps desk).2
    let created := (steps.zip (Step.takeAll steps desk).1).filterMap (Step.brought Operation.founded)
    ∃ all, after.view.Listed created all ∧ ∀ organizer,
      RecordStore.call (.listEvents organizer) after.store = (.ok (Event.chosen organizer all), after.store) ∧
      ((Operation.listEvents organizer).run.perform { after with storeFaults := [] }).1 =
        .ok (.events (Event.chosen organizer all)) := by
  intro after created
  have start : desk.store.Reached := empty ▸ .empty
  obtain ⟨reached, _⟩ := Step.takeAllReached ordinary start tame
  have keys : after.view.events.entries.map Prod.fst = created := by
    have none : desk.view.events.entries.map Prod.fst = [] := by
      rw [Desk.view, empty]
      rfl
    have grown := foundedGrows.takeAll ordinary start tame
    rwa [none, List.nil_append] at grown
  have listed := View.listingProgramme reached.distinct reached.zoned
  refine ⟨after.view.programme, keys ▸ View.programmeListed reached.distinct reached.regular reached.zoned,
    fun organizer => ⟨?_, Operation.performListEvents rfl (listed organizer)⟩⟩
  have planned : after.store.tables.plan (.listEvents organizer) =
      (.ok (Event.chosen organizer after.view.programme), []) :=
    congrArg (fun found => (found, [])) (listed organizer)
  simp only [RecordStore.call, Journal.call, planned, List.foldl_nil]

/- The ball is created after the gala by a clock that has gone back, the fair is rolled back, and the show is
made at the same time as the gala, which is opened after that. -/
theorem programmeNewestFirstGala :
    let create (organizer id : String) : Step :=
      .operation (.createEvent (.text organizer) (.text id) (.text id) .nothing (.text "Hall")
        (some ⟨3 * Moment.microsPerDay, some 0⟩) [⟨.text "Stalls", .whole 5, .whole 2⟩])
    let steps : List Step :=
      [create "host" "gala", .advance (.whole (-3600)) (.whole 0), create "club" "ball",
      .breakStore ⟨"add_event", true⟩, create "host" "fair", .advance (.whole 3600) (.whole 0),
      create "host" "show", .operation (.updateEventStatus (.text "host") (.text "gala") (.text "active"))]
    let desk : Desk Journal :=
      .opened .empty none (some ⟨Moment.microsPerDay, some 0⟩) .standard (.text "escrow") false true
    let after := (Step.takeAll steps desk).2
    let gala : EventId := ⟨"gala", rfl⟩
    let ball : EventId := ⟨"ball", rfl⟩
    let show' : EventId := ⟨"show", rfl⟩
    (∀ step ∈ steps, step.Ordinary) ∧
      after.view.events.values.map Event.made = [86400000000, 82800000000, 86400000000] ∧
      ∃ all, after.view.Listed [gala, ball, show'] all ∧
        RecordStore.call (.listEvents .nothing) after.store = (.ok all, after.store) ∧
        RecordStore.call (.listEvents (.text "host")) after.store =
          (.ok (all.filter fun event => event.organizer.same (.text "host")), after.store) := by
  intro create steps desk after gala ball show'
  have ordinary : ∀ step ∈ steps, step.Ordinary := by simp [steps, create, Step.Ordinary, entryMethod]
  have tame : desk.Tame := by
    intro fault mem
    cases mem
  have created : (steps.zip (Step.takeAll steps desk).1).filterMap (Step.brought Operation.founded) =
      [gala, ball, show'] := by
    decide +kernel
  have made : after.view.events.values.map Event.made = [86400000000, 82800000000, 86400000000] := by
    decide +kernel
  obtain ⟨all, listed, lists⟩ := programmeNewestFirst rfl tame ordinary
  rw [created] at listed
  exact ⟨ordinary, made, all, listed, (lists .nothing).1, (lists (.text "host")).1⟩

end BoxOffice
