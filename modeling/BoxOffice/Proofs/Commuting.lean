import BoxOffice.Proofs.Desk.Decision
import BoxOffice.Proofs.Store.Listing
import BoxOffice.Proofs.Store.Table

/-! Requests about different events do not meet: in either order each is answered in the same way, and the
records show the same afterwards. Only two new events may be listed in the order in which they were made. -/
namespace BoxOffice

def Edit.About (id : EventId) : Edit → Prop
  | .event saved => saved.id = id
  | .registration _ r => r.event = id
  | .attendee place _ => place = id
  | _ => False

def Edit.saved? : Edit → Option Event
  | .event saved => some saved
  | _ => none

def Operation.creates : Operation → Bool
  | createEvent _ _ _ _ _ _ _ => true
  | _ => false

namespace Tables
variable {t u w : Tables} {id other : EventId} {e : Edit} {edits more : List Edit}

structure Same (id : EventId) (t u : Tables) : Prop where
  event : t.events.get? id = u.events.get? id
  registrations : ∀ party, t.registrations.get? (id, party) = u.registrations.get? (id, party)
  attendees : t.attendees.items id = u.attendees.items id

def beside (t : Tables) : Tables :=
  { t with events := .empty, registrations := .empty, attendees := .empty }

theorem Same.refl (t : Tables) : t.Same id t := ⟨rfl, fun _ => rfl, rfl⟩

theorem Same.symm (same : t.Same id u) : u.Same id t :=
  ⟨same.event.symm, fun party => (same.registrations party).symm, same.attendees.symm⟩

theorem Same.trans (first : t.Same id u) (second : u.Same id w) : t.Same id w :=
  ⟨first.event.trans second.event, fun party => (first.registrations party).trans (second.registrations party),
    first.attendees.trans second.attendees⟩

theorem editElsewhere (about : e.About other) (apart : id ≠ other) (t : Tables) : (t.edit e).Same id t := by
  cases e with
  | event event =>
    obtain rfl : event.id = other := about
    exact ⟨Table.getPutOther _ apart _, fun _ => rfl, rfl⟩
  | registration party r =>
    obtain rfl : r.event = other := about
    exact ⟨rfl, fun party => Table.getPutOther _ (fun same => apart (Prod.mk.inj same).1) _, rfl⟩
  | attendee event attendee =>
    obtain rfl : event = other := about
    refine ⟨rfl, fun _ => rfl, ?_⟩
    simp only [edit, Shelf.push, Shelf.itemsPut]
    exact Function.update_of_ne apart _ _
  | _ => exact about.elim

theorem editHere (about : e.About id) (same : t.Same id u) : (t.edit e).Same id (u.edit e) := by
  cases e with
  | event event =>
    obtain rfl : event.id = id := about
    exact ⟨(Table.getPutSame _ _ _).trans (Table.getPutSame _ _ _).symm, same.registrations, same.attendees⟩
  | registration party r =>
    refine ⟨same.event, fun other => ?_, same.attendees⟩
    by_cases here : (id, other) = (r.event, party)
    · simp only [edit, here, Table.getPutSame]
    · simp only [edit, Table.getPutOther _ here, same.registrations other]
  | attendee event attendee =>
    obtain rfl : event = id := about
    refine ⟨same.event, same.registrations, ?_⟩
    simp only [edit, Shelf.push, Shelf.itemsPut, Function.update_self, same.attendees]
  | _ => exact about.elim

theorem editBeside (about : e.About id) (t : Tables) : (t.edit e).beside = t.beside := by
  cases e <;> first | rfl | exact about.elim

theorem editsElsewhere (about : ∀ e ∈ edits, e.About other) (apart : id ≠ other) (t : Tables) :
    (edits.foldl edit t).Same id t := by
  induction edits generalizing t with
  | nil => exact .refl t
  | cons e rest ih =>
    obtain ⟨first, later⟩ := List.forall_mem_cons.mp about
    exact (ih later (t.edit e)).trans (editElsewhere first apart t)

theorem editsHere (about : ∀ e ∈ edits, e.About id) (same : t.Same id u) :
    (edits.foldl edit t).Same id (edits.foldl edit u) := by
  induction edits generalizing t u with
  | nil => exact same
  | cons e rest ih =>
    obtain ⟨first, later⟩ := List.forall_mem_cons.mp about
    exact ih later (editHere first same)

theorem editsBeside (about : ∀ e ∈ edits, e.About id) (t : Tables) :
    (edits.foldl edit t).beside = t.beside := by
  induction edits generalizing t with
  | nil => rfl
  | cons e rest ih =>
    obtain ⟨first, later⟩ := List.forall_mem_cons.mp about
    exact (ih later (t.edit e)).trans (editBeside first t)

theorem editsSame (first : ∀ e ∈ edits, e.About id) (second : ∀ e ∈ more, e.About other) (apart : id ≠ other)
    (t : Tables) (any : EventId) :
    ((edits ++ more).foldl edit t).Same any ((more ++ edits).foldl edit t) := by
  rw [List.foldl_append, List.foldl_append]
  by_cases here : any = id
  · subst here
    exact (editsElsewhere second apart _).trans (editsHere first (editsElsewhere second apart t).symm)
  · refine .trans ?_ (editsElsewhere first here _).symm
    by_cases there : any = other
    · subst there
      exact editsHere second (editsElsewhere first here t)
    · exact (editsElsewhere second there _).trans
        ((editsElsewhere first here t).trans (editsElsewhere second there t).symm)

theorem editsBesideSame (first : ∀ e ∈ edits, e.About id) (second : ∀ e ∈ more, e.About other) (t : Tables) :
    ((edits ++ more).foldl edit t).beside = ((more ++ edits).foldl edit t).beside := by
  rw [List.foldl_append, List.foldl_append, editsBeside second, editsBeside first, editsBeside first,
    editsBeside second]

theorem answersSame (same : ∀ id, t.Same id u) (rest : t.beside = u.beside) (c : StoreCall)
    (other : ∀ organizer, c ≠ .listEvents organizer) : (t.plan c).1 = (u.plan c).1 := by
  have events (id : EventId) : t.events.get? id = u.events.get? id := (same id).event
  have known (id : EventId) : t.events.contains id = u.events.contains id := congrArg Option.isSome (events id)
  have registered (id : EventId) (party : Label) :
      t.registrations.contains (id, party) = u.registrations.contains (id, party) :=
    congrArg Option.isSome ((same id).registrations party)
  have attendees (id : EventId) : t.attendees.items id = u.attendees.items id := (same id).attendees
  simp only [beside, mk.injEq, true_and] at rest
  obtain ⟨escrow, payments, eventPayments, revenue, tickets, ownerTickets, eventTickets, lastPayment,
    lastTicket⟩ := rest
  cases c with
  | listEvents organizer => exact absurd rfl (other organizer)
  | addEvent event | saveEvent event =>
    simp only [plan]
    rw [known]
  | addRegistration r =>
    simp only [plan]
    cases Checked.label r.attendee with
    | error failure => rfl
    | ok party =>
      simp only
      rw [registered]
  | _ =>
    simp only [plan, events, known, registered, attendees, escrow, payments, eventPayments, revenue, tickets,
      ownerTickets, eventTickets, lastPayment, lastTicket, disowning]

theorem eventsSaved (edits : List Edit) (t : Tables) : (edits.foldl edit t).events =
    (edits.filterMap Edit.saved?).foldl (fun table event => table.put event.id event) t.events := by
  induction edits generalizing t with
  | nil => rfl
  | cons e rest ih =>
    rw [List.foldl_cons, ih]
    cases e <;> rfl

end Tables

namespace Operation

inductive Makes (request : Operation) (now : Option Moment) (id : EventId) (dossier : Dossier) :
    List Edit → Prop
  | nothing : Makes request now id dossier []
  | made {event} (own : event.id = id) (creates : request.creates = true) (made : event.createdAt = now) :
      Makes request now id dossier [.event event]
  | saved {event} (own : event.id = id) (known : dossier.event.isSome = true) :
      Makes request now id dossier [.event event]
  | placed {party r attendee event} (own : event.id = id) (place : r.event = id)
      (known : dossier.event.isSome = true) :
      Makes request now id dossier [.registration party r, .attendee id attendee, .event event]

theorem rulingMakes {settings : Settings} {now : Option Moment} {id : EventId} {dossier : Dossier}
    (ids : ∀ event, dossier.event = some event → event.id = id) (request : Operation) :
    request.Makes now id dossier (Ruling.edits (request.rulingOn settings now id dossier)) := by
  cases ruled : request.rulingOn settings now id dossier with
  | error failure => exact .nothing
  | ok made =>
    obtain ⟨answer, edits⟩ := made
    change request.Makes now id dossier edits
    have saved {event updated : Event} (stored : dossier.event = some event) (same : updated.id = event.id) :
        request.Makes now id dossier [.event updated] :=
      .saved (same.trans (ids event stored)) (by rw [stored]; rfl)
    cases request with
    | createEvent organizer given name description venue date specs =>
      obtain ⟨event, drafted, ruled⟩ := bindOk ruled
      obtain ⟨_, ruled, _⟩ := Ruling.answerOk ruled
      obtain ⟨free, rfl⟩ := Dossier.createOk ruled
      exact .made (Event.draftOk drafted).id rfl (Event.draftOk drafted).createdAt
    | updateEventDetails organizer given changes =>
      obtain ⟨updated, ruled, _⟩ := Ruling.answerOk ruled
      obtain ⟨event, loaded, ruled⟩ := Dossier.updateDetailsOk ruled
      split at ruled <;> obtain ⟨changed, rfl⟩ := ruled
      · exact .nothing
      · obtain ⟨name, description, venue, date, rfl⟩ := Event.changeOk changed
        exact saved (Dossier.editableOk loaded).1 rfl
    | addTicketTier organizer given spec =>
      simp only [rulingOn] at ruled
      obtain ⟨made, ruled, _⟩ := Ruling.answerOk ruled
      obtain ⟨event, next, loaded, _, _, updated, rfl⟩ := Dossier.addTierOk ruled
      exact saved (Dossier.editableOk loaded).1 (by rw [updated]; rfl)
    | updateTier organizer given named changes =>
      simp only [rulingOn] at ruled
      obtain ⟨made, ruled, _⟩ := Ruling.answerOk ruled
      obtain ⟨event, tier, loaded, _, ruled⟩ := Dossier.updateTierOk ruled
      split at ruled
      · obtain ⟨_, rfl⟩ := ruled
        exact .nothing
      · obtain ⟨_, updated, rfl⟩ := ruled
        exact saved (Dossier.editableOk loaded).1 (by rw [updated]; rfl)
    | updateEventStatus organizer given wanted =>
      simp only [rulingOn] at ruled
      split at ruled
      · cases ruled
      · obtain ⟨made, ruled, _⟩ := Ruling.answerOk ruled
        obtain ⟨event, loaded, _, _, rfl⟩ := Dossier.updateStatusOk ruled
        exact saved (Dossier.ownedOk loaded).1 rfl
    | cancelEvent organizer given =>
      simp only [rulingOn] at ruled
      obtain ⟨made, ruled, _⟩ := Ruling.answerOk ruled
      obtain ⟨event, loaded, _, _, rfl⟩ := Dossier.cancelOk ruled
      exact saved (Dossier.ownedOk loaded).1 rfl
    | registerForEvent attendee given named =>
      simp only [rulingOn] at ruled
      obtain ⟨made, ruled, _⟩ := Ruling.answerOk ruled
      obtain ⟨event, tier, party, stored, _, _, _, _, _, _, registration, rfl⟩ := Dossier.registerOk ruled
      have place : made.1.event = id := by rw [registration]
      exact .placed (ids event stored) place (by rw [stored]; rfl)
    | _ => cases ruled

section
variable {request : Operation} {now : Option Moment} {id : EventId} {dossier : Dossier} {edits : List Edit}

theorem Makes.about (makes : request.Makes now id dossier edits) : ∀ e ∈ edits, e.About id := by
  cases makes with
  | nothing => exact List.forall_mem_nil _
  | made own | saved own => simpa [Edit.About] using own
  | placed own place => simpa [Edit.About] using ⟨place, own⟩

theorem Makes.saves (makes : request.Makes now id dossier edits) : edits.filterMap Edit.saved? = [] ∨
    ∃ event, edits.filterMap Edit.saved? = [event] ∧ event.id = id ∧
      (dossier.event.isSome = true ∨ request.creates = true ∧ event.createdAt = now) := by
  cases makes with
  | nothing => exact .inl rfl
  | made own creates made => exact .inr ⟨_, rfl, own, .inr ⟨creates, made⟩⟩
  | saved own known | placed own _ known => exact .inr ⟨_, rfl, own, .inl known⟩

end

section
variable {desk after : Desk Journal}

theorem deskMakes (regular : desk.view.Regular) (request : Operation) (caller given : Raw) :
    Ruling.edits (request.ruling desk caller given) = [] ∨ ∃ id, given = .text id.text ∧
      request.Makes desk.clock id (desk.view.dossier id) (Ruling.edits (request.ruling desk caller given)) := by
  cases admitted : desk.admits caller (.event .callerNotVerified) with
  | error failure =>
    rw [ruling, Desk.attendsUnknown admitted]
    exact .inl rfl
  | ok _ =>
    cases named : EventId.named given with
    | error failure =>
      rw [ruling, Desk.attendsUnnamed admitted named]
      exact .inl rfl
    | ok id =>
      rw [ruling, Desk.attendsNamed admitted named]
      exact .inr ⟨id, EventId.namedText named, rulingMakes (fun event stored => regular.named stored) request⟩

theorem rulingSame (around : desk.Around after) {caller given : Raw}
    (same : ∀ id, given = .text id.text → after.view.dossier id = desk.view.dossier id) (request : Operation) :
    request.ruling after caller given = request.ruling desk caller given := by
  have admits : after.admits caller (.event .callerNotVerified) =
      desk.admits caller (.event .callerNotVerified) := by rw [Desk.admits, around.verifier, Desk.admits]
  rw [ruling, ruling, Desk.attends, Desk.attends, admits, around.settings, around.clock]
  cases named : EventId.named given with
  | error failure => rfl
  | ok id =>
    have ruled : request.rulingOn desk.settings desk.clock id (after.view.dossier id) =
        request.rulingOn desk.settings desk.clock id (desk.view.dossier id) := by
      rw [same id (EventId.namedText named)]
    exact congrArg (fun ruling => desk.admits caller _ >>= fun _ => ruling) ruled

end

end Operation

/- Stores in which every call finds the same, but that a list of events may have two neighbours of one time in
the other order, where that is allowed. -/
structure Journal.Alike (exchanged : Prop) (s t : Journal) : Prop where
  answers : ∀ c : StoreCall, (∀ organizer, c ≠ .listEvents organizer) →
    (RecordStore.call c s).1 = (RecordStore.call c t).1
  listing : ∀ organizer,
    (RecordStore.call (.listEvents organizer) s).1 = (RecordStore.call (.listEvents organizer) t).1 ∨
    exchanged ∧ ∃ before after a b, a.createdAt = b.createdAt ∧
      (RecordStore.call (.listEvents organizer) s).1 = .ok (before ++ a :: b :: after) ∧
      (RecordStore.call (.listEvents organizer) t).1 = .ok (before ++ b :: a :: after)

namespace Tables
variable {t : Tables} {first second : Operation} {now : Option Moment} {id other : EventId}
  {edits more : List Edit}

theorem eventsExchanged (one : first.Makes now id (t.view.dossier id) edits)
    (two : second.Makes now other (t.view.dossier other) more) (apart : id ≠ other) :
    ((edits ++ more).foldl edit t).events = ((more ++ edits).foldl edit t).events ∨
    (first.creates = true ∧ second.creates = true) ∧ ∃ a b, a.createdAt = b.createdAt ∧
      ((edits ++ more).foldl edit t).events.values = t.events.values ++ [a, b] ∧
      ((more ++ edits).foldl edit t).events.values = t.events.values ++ [b, a] := by
  simp only [eventsSaved, List.filterMap_append]
  obtain none | ⟨a, saved, rfl, known⟩ := one.saves
  · simp [none]
  obtain none | ⟨b, saved', rfl, known'⟩ := two.saves
  · simp [none]
  simp only [saved, saved', List.singleton_append, List.foldl_cons, List.foldl_nil]
  by_cases old : t.events.contains a.id = true ∨ t.events.contains b.id = true
  · exact .inl (Table.putCommute apart old a b)
  · obtain ⟨newA, newB⟩ := not_or.mp old
    obtain ⟨creates, made⟩ := known.resolve_left newA
    obtain ⟨creates', made'⟩ := known'.resolve_left newB
    have freeA := containsFalse newA
    have freeB := containsFalse newB
    refine .inr ⟨⟨creates, creates'⟩, a, b, made.trans made'.symm, ?_, ?_⟩
    · rw [Table.putNewValues ((Table.getPutOther _ apart.symm _).trans freeB), Table.putNewValues freeA]
      simp
    · rw [Table.putNewValues ((Table.getPutOther _ apart _).trans freeA), Table.putNewValues freeB]
      simp

theorem alike (one : first.Makes now id (t.view.dossier id) edits)
    (two : second.Makes now other (t.view.dossier other) more) (apart : id ≠ other) :
    Journal.Alike (first.creates = true ∧ second.creates = true) ⟨(edits ++ more).foldl edit t, [], []⟩
      ⟨(more ++ edits).foldl edit t, [], []⟩ where
  answers := answersSame (editsSame one.about two.about apart t) (editsBesideSame one.about two.about t)
  listing organizer := by
    have shown (edits : List Edit) :
        (RecordStore.call (.listEvents organizer) (⟨edits.foldl edit t, [], []⟩ : Journal)).1 =
          BoxOffice.listing (edits.foldl edit t).events.values organizer := rfl
    rw [shown, shown]
    obtain same | ⟨creates, a, b, once, early, late⟩ := eventsExchanged one two apart
    · rw [same]
      exact .inl rfl
    · rw [early, late]
      exact (listingPair once t.events.values organizer).imp_right fun ⟨before, after, here, there⟩ =>
        ⟨creates, before, after, a, b, once, here, there⟩

theorem alikeSelf (exchanged : Prop) (s : Journal) : Journal.Alike exchanged s s :=
  ⟨fun _ _ => rfl, fun _ => .inl rfl⟩

end Tables

namespace Operation

section
variable {desk : Desk Journal} {first second : Operation} {caller given caller' given' : Raw}

theorem performAfter (quiet : desk.Quiet) (reached : desk.store.Reached)
    (one : first.onEvent? = some (caller, given)) (two : second.onEvent? = some (caller', given'))
    (apart : ∀ id : EventId, given = .text id.text → given' ≠ .text id.text) :
    (second.run.perform (first.run.perform desk).2).1 = (second.run.perform desk).1 ∧
      (second.run.perform (first.run.perform desk).2).2.store =
        ⟨(Ruling.edits (first.ruling desk caller given) ++
          Ruling.edits (second.ruling desk caller' given')).foldl Tables.edit desk.store.tables, [], []⟩ := by
  have regular := reached.regular
  have reached' : (first.run.perform desk).2.store.Reached := .operation first reached quiet.tame
  obtain ⟨log, notices, ran⟩ := performRuling quiet reached one
  obtain ⟨_, _, alone⟩ := performRuling quiet reached two
  rw [ran] at reached' ⊢
  have makes := deskMakes regular first caller given
  generalize Ruling.edits (first.ruling desk caller given) = edits at reached' makes ⊢
  let after : Desk Journal := { desk.edited edits with log, notices }
  have around : desk.Around after :=
    ⟨rfl, rfl, rfl, rfl, rfl, rfl, fun _ mem => mem, fun _ mem => mem⟩
  have same (id : EventId) (named : given' = .text id.text) : after.view.dossier id = desk.view.dossier id := by
    obtain rfl | ⟨other, named', makes⟩ := makes
    · rfl
    · have elsewhere : (edits.foldl Tables.edit desk.store.tables).Same id desk.store.tables :=
        Tables.editsElsewhere makes.about (fun same => apart other named' (same ▸ named)) _
      have tables : after.view = (edits.foldl Tables.edit desk.store.tables).view := by
        rw [Desk.view]
        exact congrArg Tables.view (Journal.recordAllTables desk.store edits)
      rw [tables, View.dossier, View.dossier, Dossier.mk.injEq]
      exact ⟨elsewhere.event, funext fun party => congrArg Option.isSome (elsewhere.registrations party)⟩
  have quiet' : after.Quiet := ⟨quiet.faults, quiet.receivers⟩
  obtain ⟨_, _, ran'⟩ := performRuling quiet' reached' two
  rw [rulingSame around same] at ran'
  rw [ran', alone]
  refine ⟨rfl, ?_⟩
  rw [← Journal.recordAllIdle (reached.ready quiet.tame).idle.idle, List.foldl_append]
  rfl

end

end Operation

/-- Two requests about different events, made at one desk in either order: each is answered in the same way,
and the records show the same afterwards, but for the order of two new events in a list. -/
theorem requestsCommute {desk : Desk Journal} (reached : desk.store.Reached) (quiet : desk.Quiet)
    {first second : Operation} {caller given caller' given' : Raw}
    (one : first.onEvent? = some (caller, given)) (two : second.onEvent? = some (caller', given'))
    (apart : ∀ id : EventId, given = .text id.text → given' ≠ .text id.text) :
    let early := first.run.perform desk
    let late := second.run.perform desk
    (first.run.perform late.2).1 = early.1 ∧ (second.run.perform early.2).1 = late.1 ∧
      Journal.Alike (first.creates = true ∧ second.creates = true) (second.run.perform early.2).2.store
        (first.run.perform late.2).2.store := by
  intro early late
  obtain ⟨answered, store⟩ := Operation.performAfter quiet reached one two apart
  obtain ⟨answered', store'⟩ :=
    Operation.performAfter quiet reached two one fun id named named' => apart id named' named
  refine ⟨answered', answered, ?_⟩
  rw [store, store']
  obtain none | ⟨id, named, makes⟩ := Operation.deskMakes reached.regular first caller given
  · rw [none, List.nil_append, List.append_nil]
    exact Tables.alikeSelf _ _
  obtain none | ⟨other, named', makes'⟩ := Operation.deskMakes reached.regular second caller' given'
  · rw [none, List.nil_append, List.append_nil]
    exact Tables.alikeSelf _ _
  refine Tables.alike makes makes' fun same => ?_
  exact apart id named (same ▸ named')

theorem requestsCommuteGala :
    let desk : Desk Journal :=
      .opened .empty none (some ⟨0, some 0⟩) .standard (.text "escrow") false true
    let create (name : String) : Operation :=
      .createEvent (.text "host") (.text name) (.text name) .nothing (.text "Hall")
        (some ⟨2 * Moment.microsPerDay, some 0⟩) [⟨.text "Stalls", .whole 5, .whole 2⟩]
    let early := (create "gala").run.perform desk
    let late := (create "ball").run.perform desk
    let names (store : Journal) : List String := store.tables.events.values.map fun event => event.id.text
    let both := ((create "ball").run.perform early.2).2.store
    let exchanged := ((create "gala").run.perform late.2).2.store
    desk.store.Reached ∧ desk.Quiet ∧
      ((create "gala").run.perform late.2).1 = early.1 ∧ ((create "ball").run.perform early.2).1 = late.1 ∧
      Journal.Alike ((create "gala").creates = true ∧ (create "ball").creates = true) both exchanged ∧
      names both = ["gala", "ball"] ∧ names exchanged = ["ball", "gala"] := by
  intro desk create early late names both exchanged
  have quiet : desk.Quiet := ⟨rfl, rfl⟩
  have apart (id : EventId) (gala : Raw.text "gala" = .text id.text) : Raw.text "ball" ≠ .text id.text := by
    rw [← gala]
    decide
  obtain ⟨answered, answered', alike⟩ :=
    @requestsCommute desk .empty quiet (create "gala") (create "ball") _ _ _ _ rfl rfl apart
  have listed : names both = ["gala", "ball"] ∧ names exchanged = ["ball", "gala"] := by
    decide +kernel
  exact ⟨.empty, quiet, answered, answered', alike, listed⟩

end BoxOffice
