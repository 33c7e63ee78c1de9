import BoxOffice.Proofs.Attendance
import BoxOffice.Proofs.History.Alteration

/-! The history of events. What is recorded of an event at one time bounds what is recorded of it at any later
time, and places are taken by registrations alone, one at a time. -/
namespace BoxOffice

namespace EventStatus

open Relation (ReflTransGen)

variable {old new : EventStatus}

theorem followsPassed (follows : ReflTransGen Follows old new) (passed : old ≠ upcoming) :
    new ≠ upcoming := by
  induction follows with
  | refl => exact passed
  | tail _ follows _ => exact follows.passed

end EventStatus

structure Tier.Continues (tier later : Tier) : Prop where
  id : later.id = tier.id
  sold : ∃ m n : Int, tier.sold = .whole m ∧ later.sold = .whole n ∧ m ≤ n

def Tier.AllContinue (tiers later : List Tier) : Prop :=
  ∀ (position : Nat) (tier : Tier), tiers[position]? = some tier →
    ∃ after, later[position]? = some after ∧ tier.Continues after

structure Event.Continues (event later : Event) : Prop where
  id : later.id = event.id
  organizer : later.organizer = event.organizer
  createdAt : later.createdAt = event.createdAt
  status : Relation.ReflTransGen EventStatus.Follows event.status later.status
  ids : event.tiers.map Tier.id <+: later.tiers.map Tier.id
  tiers : Tier.AllContinue event.tiers later.tiers
  opened : event.status ≠ .upcoming → later.name = event.name ∧ later.description = event.description ∧
    later.venue = event.venue ∧ later.date = event.date ∧
    later.tiers.map Tier.offer = event.tiers.map Tier.offer
  closed : event.status.Closed → later = event

namespace Tier
variable {tiers middle later : List Tier}

theorem Continues.refl {tier : Tier} (regular : tier.Regular) : tier.Continues tier := by
  obtain ⟨n, is⟩ := regular.sold
  exact ⟨rfl, n, n, is, is, Int.le_refl n⟩

theorem Continues.trans {first second third : Tier} (early : first.Continues second)
    (late : second.Continues third) : first.Continues third := by
  obtain ⟨id, m, n, before, here, grown⟩ := early
  obtain ⟨id', n', k, here', after, grown'⟩ := late
  cases here.symm.trans here'
  exact ⟨id'.trans id, m, k, before, after, Int.le_trans grown grown'⟩

theorem allRefl (regular : ∀ tier ∈ tiers, tier.Regular) : AllContinue tiers tiers :=
  fun _ tier there => ⟨tier, there, .refl (regular tier (List.mem_of_getElem? there))⟩

theorem allTrans (early : AllContinue tiers middle) (late : AllContinue middle later) :
    AllContinue tiers later := by
  intro position tier there
  obtain ⟨between, here, first⟩ := early position tier there
  obtain ⟨after, last, second⟩ := late position between here
  exact ⟨after, last, first.trans second⟩

theorem takenAt (taken : tiers.map Tier.taken <+: later.map Tier.taken) {position : Nat} {tier : Tier}
    (there : tiers[position]? = some tier) :
    ∃ after, later[position]? = some after ∧ after.taken = tier.taken := by
  obtain ⟨rest, whole⟩ := taken
  obtain ⟨inside, _⟩ := List.getElem?_eq_some_iff.mp there
  have here : (later.map Tier.taken)[position]? = some tier.taken := by
    rw [← whole, List.getElem?_append_left (by simpa using inside), List.getElem?_map, there]
    rfl
  simpa using here

theorem allTaken (regular : ∀ tier ∈ tiers, tier.Regular)
    (taken : tiers.map Tier.taken <+: later.map Tier.taken) : AllContinue tiers later := by
  intro position tier there
  obtain ⟨after, here, same⟩ := takenAt taken there
  obtain ⟨id, sold⟩ := Prod.mk.inj same
  obtain ⟨n, is⟩ := (regular tier (List.mem_of_getElem? there)).sold
  exact ⟨after, here, id, n, n, is, sold.trans is, Int.le_refl n⟩

theorem idsTaken (taken : tiers.map Tier.taken <+: later.map Tier.taken) :
    tiers.map Tier.id <+: later.map Tier.id := by
  have firsts := taken.map Prod.fst
  simpa only [List.map_map, Function.comp_def, Tier.taken] using firsts

end Tier

namespace Event
variable {event middle later : Event}

theorem Continues.refl (regular : ∀ tier ∈ event.tiers, tier.Regular) : event.Continues event :=
  ⟨rfl, rfl, rfl, .refl, List.prefix_refl _, Tier.allRefl regular, fun _ => ⟨rfl, rfl, rfl, rfl, rfl⟩,
    fun _ => rfl⟩

theorem Continues.trans (early : event.Continues middle) (late : middle.Continues later) :
    event.Continues later where
  id := late.id.trans early.id
  organizer := late.organizer.trans early.organizer
  createdAt := late.createdAt.trans early.createdAt
  status := early.status.trans late.status
  ids := early.ids.trans late.ids
  tiers := Tier.allTrans early.tiers late.tiers
  opened passed := by
    obtain ⟨name, description, venue, date, offers⟩ := early.opened passed
    obtain ⟨name', description', venue', date', offers'⟩ :=
      late.opened (EventStatus.followsPassed early.status passed)
    exact ⟨name'.trans name, description'.trans description, venue'.trans venue, date'.trans date,
      offers'.trans offers⟩
  closed closed := by
    obtain rfl := early.closed closed
    exact late.closed closed

theorem Sells.continues {named : Raw} (sells : event.Sells named later) (active : event.status = .active)
    (regular : ∀ tier ∈ event.tiers, tier.Regular) : event.Continues later := by
  obtain ⟨position, tier, sold, there, _, is, rfl⟩ := sells
  let one : Tier := { tier with sold := .whole (sold + 1) }
  have tiers : Tier.AllContinue event.tiers (event.tiers.set position one) := by
    intro place other here
    by_cases same : position = place
    · subst same
      cases there.symm.trans here
      obtain ⟨inside, _⟩ := List.getElem?_eq_some_iff.mp there
      exact ⟨one, List.getElem?_set_self inside, rfl, sold, sold + 1, is, rfl, by omega⟩
    · exact ⟨other, (List.getElem?_set_ne same).trans here,
        .refl (regular other (List.mem_of_getElem? here))⟩
  have ids : (event.tiers.set position one).map Tier.id = event.tiers.map Tier.id :=
    mapSet there Tier.id rfl
  have offers : (event.tiers.set position one).map Tier.offer = event.tiers.map Tier.offer :=
    mapSet there Tier.offer rfl
  exact ⟨rfl, rfl, rfl, .refl, ids ▸ List.prefix_refl _, tiers, fun _ => ⟨rfl, rfl, rfl, rfl, offers⟩,
    fun closed => by simp [EventStatus.Closed, active] at closed⟩

end Event

namespace Desk
variable {desk : Desk Journal} {request : Operation} {edits : List Edit} {funds : Funds}
  {told : List Notice} {answer : Answer} {event later : Event} {id : EventId}

theorem Alters.continues (alters : desk.Alters request event later)
    (regular : ∀ tier ∈ event.tiers, tier.Regular) : event.Continues later := by
  cases alters with
  | edited asks about owns editable taken =>
    exact ⟨rfl, rfl, rfl, .refl, Tier.idsTaken taken, Tier.allTaken regular taken,
      fun passed => absurd editable passed, fun closed => by simp [EventStatus.Closed, editable] at closed⟩
  | moved asks about owns follows =>
    exact ⟨rfl, rfl, rfl, .single follows, List.prefix_refl _, Tier.allRefl regular,
      fun _ => ⟨rfl, rfl, rfl, rfl, rfl⟩, fun closed => absurd closed follows.notClosed⟩
  | sold asks verified names active sells => exact sells.continues active regular

theorem Alters.raised (alters : desk.Alters request event later) {position : Nat} {tier after : Tier}
    (there : event.tiers[position]? = some tier) (here : later.tiers[position]? = some after)
    (raised : after.sold ≠ tier.sold) : ∃ attendee named,
      request = .registerForEvent attendee (.text event.id.text) named ∧ event.Sells named later := by
  cases alters with
  | edited asks about owns editable taken =>
    obtain ⟨kept, is, same⟩ := Tier.takenAt taken there
    cases here.symm.trans is
    exact absurd (Prod.mk.inj same).2 raised
  | moved asks about owns follows =>
    cases there.symm.trans here
    exact absurd rfl raised
  | sold asks verified names active sells =>
    obtain rfl := names.named
    exact ⟨_, _, asks, sells⟩

theorem Effect.registers {attendee named : Raw}
    (effect : desk.Effect (.registerForEvent attendee (.text id.text) named) edits funds told answer) :
    (∃ label, Label.ofRaw? attendee = some label ∧ desk.view.registrations.get? (id, label) = none ∧
      (edits.foldl View.edit desk.view).registrations.get? (id, label) =
        some ⟨id, attendee, named, desk.clock⟩) ∧
    ∀ other, other ≠ id → (edits.foldl View.edit desk.view).events.get? other = desk.view.events.get? other := by
  cases effect with
  | @registered _ _ _ event tier sold label verified names active found party free =>
    obtain rfl : id = event.id := EventId.textInjective (Raw.text.inj names.named)
    exact ⟨⟨label, party, free, Table.getPutSame _ _ _⟩, fun other apart => Table.getPutOther _ apart _⟩

theorem Effect.attendeesClosed (effect : desk.Effect request edits funds told answer)
    (stored : desk.view.events.get? id = some event) (closed : event.status.Closed) :
    (edits.foldl View.edit desk.view).attendees id = desk.view.attendees id := by
  cases effect with
  | @registered attendee given named other tier sold label verified names active =>
    have apart : id ≠ other.id := by
      rintro rfl
      cases stored.symm.trans names.stored
      simp [EventStatus.Closed, active] at closed
    exact Function.update_of_ne apart _ _
  | ticketTransferred => rw [View.handedTo]; rfl
  | _ => rfl

end Desk

/-- The events of an earlier time as they are later on. None is missing, and of one that is over the list of
attendees is closed too. -/
def View.Continues (v w : View) : Prop :=
  ∀ id event, v.events.get? id = some event → ∃ later, w.events.get? id = some later ∧
    event.Continues later ∧ (event.status.Closed → w.attendees id = v.attendees id)

namespace View.Continues
variable {v w u : View}

theorem refl (regular : v.Regular) : v.Continues v :=
  fun _ event stored => ⟨event, stored, .refl (regular.tiers stored), fun _ => rfl⟩

theorem trans (early : v.Continues w) (late : w.Continues u) : v.Continues u := by
  intro id event stored
  obtain ⟨middle, here, first, same⟩ := early id event stored
  obtain ⟨later, there, second, same'⟩ := late id middle here
  refine ⟨later, there, first.trans second, fun closed => ?_⟩
  obtain rfl := first.closed closed
  exact (same' closed).trans (same closed)

end View.Continues

theorem Desk.Effect.continues {desk : Desk Journal} {request : Operation} {edits : List Edit} {funds : Funds}
    {told : List Notice} {answer : Answer} (effect : desk.Effect request edits funds told answer)
    (regular : desk.view.Regular) : desk.view.Continues (edits.foldl View.edit desk.view) := by
  intro id event stored
  obtain same | ⟨later, there, alters⟩ := (effect.eventTurns regular id).stored stored
  · exact ⟨event, same, .refl (regular.tiers stored), effect.attendeesClosed stored⟩
  · exact ⟨later, there, alters.continues (regular.tiers stored), effect.attendeesClosed stored⟩

namespace Step
variable {step : Step} {steps : List Step} {desk : Desk Journal}

theorem takeAllContinues (ordinary : ∀ step ∈ steps, step.Ordinary) (reached : desk.store.Reached)
    (tame : desk.Tame) : desk.view.Continues (takeAll steps desk).2.view :=
  takeAllKeeps ordinary reached tame (View.Continues.refl reached.regular) fun reached early effect =>
    View.Continues.trans early (effect.continues reached.regular)

/-- A step that registers an attendee, who was not registered there, for an event. One place of the named tier
is sold, and no other event changes. -/
structure Seats (step : Step) (desk : Desk Journal) (id : EventId) (event later : Event) : Prop where
  asks : ∃ attendee named label,
    step = .operation (.registerForEvent attendee (.text id.text) named) ∧ event.Sells named later ∧
    Label.ofRaw? attendee = some label ∧ desk.view.registrations.get? (id, label) = none ∧
    (step.take desk).2.view.registrations.get? (id, label) = some ⟨id, attendee, named, desk.clock⟩
  answered : (∃ answer, (step.take desk).1.outcome = .ok answer) ∨
    (step.take desk).1.outcome = .error .receiverFailed
  others : ∀ other, other ≠ id → (step.take desk).2.view.events.get? other = desk.view.events.get? other

theorem takeSeats (ordinary : step.Ordinary) (reached : desk.store.Reached) (tame : desk.Tame)
    {id : EventId} {event later : Event} (stored : desk.view.events.get? id = some event)
    (found : (step.take desk).2.view.events.get? id = some later) {position : Nat} {tier after : Tier}
    (there : event.tiers[position]? = some tier) (here : later.tiers[position]? = some after)
    (raised : after.sold ≠ tier.sold) : step.Seats desk id event later := by
  obtain same | ⟨request, edits, funds, told, answer, rfl, effect, changed, answered⟩ :=
    takeEffective ordinary reached tame
  · rw [same, stored] at found
    cases found
    cases there.symm.trans here
    exact absurd rfl raised
  · rw [changed] at found
    obtain same | ⟨other, new, alters⟩ := (effect.eventTurns reached.regular id).stored stored
    · cases found.symm.trans same
      cases there.symm.trans here
      exact absurd rfl raised
    · cases found.symm.trans new
      obtain ⟨attendee, named, rfl, sells⟩ := alters.raised there here raised
      have own : event.id = id := reached.regular.named stored
      subst own
      obtain ⟨⟨label, party, free, registered⟩, others⟩ := effect.registers
      rw [← changed] at registered others
      exact ⟨⟨attendee, named, label, rfl, sells, party, free, registered⟩,
        answered.imp_left fun ok => ⟨answer, ok⟩, others⟩

end Step

/-- From any state of a run of ordinary steps on, every event that is stored there goes on as events do, and
each step that raises a count of sold places is a registration that raises this one by one. -/
theorem eventHistory {desk : Desk Journal} (empty : desk.store = .empty) (tame : desk.Tame)
    {steps : List Step} (ordinary : ∀ step ∈ steps, step.Ordinary) :
    let earlier := (Step.takeAll steps desk).2
    (∀ more : List Step, (∀ step ∈ more, step.Ordinary) →
      earlier.view.Continues (Step.takeAll more earlier).2.view) ∧
    ∀ step : Step, step.Ordinary → ∀ {id event later},
      earlier.view.events.get? id = some event →
      (step.take earlier).2.view.events.get? id = some later →
      ∀ {position : Nat} {tier after : Tier}, event.tiers[position]? = some tier →
        later.tiers[position]? = some after → after.sold ≠ tier.sold →
        step.Seats earlier id event later := by
  intro earlier
  have start : desk.store.Reached := empty ▸ .empty
  obtain ⟨reached, tame'⟩ := Step.takeAllReached ordinary start tame
  refine ⟨fun more ordinary' => Step.takeAllContinues ordinary' reached tame', ?_⟩
  intro step ordinary' id event later stored found position tier after there here raised
  exact Step.takeSeats ordinary' reached tame' stored found there here raised

/- Ann takes a place though the receiver fails that should hear of it; when the gala is cancelled she keeps it,
and bob gets none. -/
theorem eventHistoryGala :
    let id : EventId := ⟨"gala", rfl⟩
    let steps : List Step :=
      [.operation (.createEvent (.text "host") (.text "gala") (.text "Gala") .nothing (.text "Hall")
        (some ⟨2 * Moment.microsPerDay, some 0⟩) [⟨.text "Stalls", .whole 5, .whole 2⟩]),
      .operation (.updateEventStatus (.text "host") (.text "gala") (.text "active")),
      .breakReceiver "attendee_registered"]
    let register (attendee : String) : Step :=
      .operation (.registerForEvent (.text attendee) (.text "gala") (.whole 0))
    let more : List Step :=
      [register "ann", .operation (.cancelEvent (.text "host") (.text "gala")), register "bob"]
    let desk : Desk Journal :=
      .opened .empty none (some ⟨0, some 0⟩) .standard (.text "escrow") false true
    let stalls (sold : Int) : Tier := ⟨.whole 0, .text "Stalls", ⟨.ofInt 5, rfl⟩, .whole 2, .whole sold⟩
    let gala (status : EventStatus) (sold : Int) : Event :=
      ⟨id, .text "host", .text "Gala", .text "", .text "Hall", some ⟨2 * Moment.microsPerDay, some 0⟩,
        some ⟨0, some 0⟩, status, [stalls sold]⟩
    let earlier := (Step.takeAll steps desk).2
    let later := (Step.takeAll more earlier).2
    (∀ step ∈ steps ++ more, step.Ordinary) ∧ earlier.view.Continues later.view ∧
      later.view.events.get? id = some (gala .cancelled 1) ∧
      (register "ann").Seats earlier id (gala .active 0) (gala .active 1) := by
  intro id steps register more desk stalls gala earlier later
  have ordinary : ∀ step ∈ steps ++ more, step.Ordinary := by
    simp [steps, more, register, Step.Ordinary]
  have tame : desk.Tame := by
    intro fault mem
    cases mem
  have early : ∀ step ∈ steps, step.Ordinary := fun step mem => ordinary step (List.mem_append_left _ mem)
  have late : ∀ step ∈ more, step.Ordinary := fun step mem => ordinary step (List.mem_append_right _ mem)
  obtain ⟨continues, seats⟩ := @eventHistory desk rfl tame steps early
  have before : earlier.view.events.get? id = some (gala .active 0) := by decide +kernel
  have after : ((register "ann").take earlier).2.view.events.get? id = some (gala .active 1) := by
    decide +kernel
  have last : later.view.events.get? id = some (gala .cancelled 1) := by decide +kernel
  have there : (gala .active 0).tiers[0]? = some (stalls 0) := rfl
  have here : (gala .active 1).tiers[0]? = some (stalls 1) := rfl
  have raised : (stalls 1).sold ≠ (stalls 0).sold := by decide
  exact ⟨ordinary, continues more late, last,
    seats (register "ann") trivial before after there here raised⟩

end BoxOffice
