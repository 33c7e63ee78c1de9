import BoxOffice.Proofs.Interchange.Agree

/-! Requests to the event registry at two desks. Events come out of the rows in their settled form, which no
rule tells apart from the event that was stored. -/
namespace BoxOffice

theorem Rows.saveEventSettled {τ : Type} (rows : Rows τ) (event : Event) :
    rows.saveEvent event.settled = rows.saveEvent event := by
  unfold saveEvent saveEventRow
  rw [EventRow.ofEventSettled]
  simp only [show event.settled.tiers = event.tiers.map Tier.settled from rfl, putTiersSettled]
  rfl

namespace Registry
open BoxOffice.Action
variable {γ δ : Type} {start : Desk Journal} {blocks : List (View × Rows Decimal.Finite)} {v : View}
  {first : Desk Journal} {second : TableDesk} {ends : γ → δ → Desk Journal → TableDesk → Prop}

theorem getEventAgrees {next : Option Event → Action Journal γ}
    {next' : Option Event → Action (Relational Decimal.Finite) δ} (id : EventId)
    (stand : start.Stand blocks v first second)
    (later : ∀ after other, start.Stand blocks v after other →
      (next (v.events.get? id)).Agree start blocks (next' ((v.events.get? id).map Event.settled)) after other ends) :
    (call (.getEvent id) >>= next).Agree start blocks (call (.getEvent id) >>= next') first second ends := by
  have planned : first.store.tables.plan (.getEvent id) = (.ok (v.events.get? id), []) := by
    rw [← stand.view]
    rfl
  have answered : second.store.rows.call (.getEvent id) =
      .ok ((v.events.get? id).map Event.settled, second.store.rows) := by
    rw [← stand.shows.event]
    rfl
  exact agreeCall stand planned answered stand.shows later

section
variable {next : Event → Action Journal γ} {next' : Event → Action (Relational Decimal.Finite) δ}

theorem loadAgrees (id : EventId) (stand : start.Stand blocks v first second)
    (later : ∀ event after other, v.events.get? id = some event → event.id = id → event.Fits →
      start.Stand blocks v after other → (next event).Agree start blocks (next' event.settled) after other ends) :
    (load id >>= next).Agree start blocks (load id >>= next') first second ends := by
  unfold load
  rw [bind_assoc, bind_assoc]
  refine getEventAgrees id stand fun after other stand => ?_
  cases stored : v.events.get? id with
  | none => exact agreeThrow stand _
  | some event =>
    obtain ⟨fits, named⟩ := stand.shows.fitOf stored
    exact later event after other stored named fits stand

theorem loadOwnedAgrees (organizer : Raw) (id : EventId) (stand : start.Stand blocks v first second)
    (later : ∀ event after other, v.events.get? id = some event → event.id = id → event.Fits →
      start.Stand blocks v after other → (next event).Agree start blocks (next' event.settled) after other ends) :
    (loadOwned organizer id >>= next).Agree start blocks (loadOwned organizer id >>= next') first second ends := by
  unfold loadOwned
  rw [bind_assoc, bind_assoc]
  refine loadAgrees id stand fun event after other stored named fits stand => ?_
  rw [show event.settled.organizer = event.organizer from rfl]
  cases event.organizer.same organizer with
  | false => exact agreeThrow stand _
  | true => exact later event after other stored named fits stand

theorem loadEditableAgrees (organizer : Raw) (id : EventId) (stand : start.Stand blocks v first second)
    (later : ∀ event after other, v.events.get? id = some event → event.id = id → event.Fits →
      start.Stand blocks v after other → (next event).Agree start blocks (next' event.settled) after other ends) :
    (loadEditable organizer id >>= next).Agree start blocks (loadEditable organizer id >>= next') first second
      ends := by
  unfold loadEditable
  rw [bind_assoc, bind_assoc]
  refine loadOwnedAgrees organizer id stand fun event after other stored named fits stand => ?_
  rw [show event.settled.status = event.status from rfl]
  cases event.status.isEditable with
  | false => exact agreeThrow stand _
  | true => exact later event after other stored named fits stand

end

theorem existsAgrees {next : Bool → Action Journal γ} {next' : Bool → Action (Relational Decimal.Finite) δ}
    (id : EventId) (stand : start.Stand blocks v first second)
    (later : ∀ after other, start.Stand blocks v after other →
      (next (v.events.contains id)).Agree start blocks (next' (v.events.contains id)) after other ends) :
    (call (.eventExists id) >>= next).Agree start blocks (call (.eventExists id) >>= next') first second ends := by
  have planned : first.store.tables.plan (.eventExists id) = (.ok (v.events.contains id), []) := by
    rw [← stand.view]
    rfl
  have answered : second.store.rows.call (.eventExists id) = .ok (v.events.contains id, second.store.rows) := by
    rw [← stand.shows.hasEvent]
    rfl
  exact agreeCall stand planned answered stand.shows later

variable {next : Unit → Action Journal γ} {next' : Unit → Action (Relational Decimal.Finite) δ}

theorem saveAgrees {event event' old : Event} (same : event'.settled = event.settled) (fits : event.Fits)
    (stored : v.events.get? event.id = some old) (more : old.tiers.length ≤ event.tiers.length)
    (stand : start.Stand blocks v first second)
    (later : ∀ after other, start.Stand blocks (v.edit (.event event)) after other →
      (next ()).Agree start blocks (next' ()) after other ends) :
    (call (.saveEvent event) >>= next).Agree start blocks (call (.saveEvent event') >>= next') first second
      ends := by
  obtain ⟨rows, saved, shows⟩ := stand.shows.saveEvent fits stored more
  have planned : first.store.tables.plan (.saveEvent event) = (.ok (), [.event event]) := by
    have known : first.store.tables.events.contains event.id = true := by
      rw [show first.store.tables.events = v.events from congrArg View.events stand.view, Table.contains, stored]
      rfl
    simp only [Tables.plan, known, if_true]
  have answered : second.store.rows.call (.saveEvent event') = .ok ((), rows) := by
    rw [Rows.call, ← Rows.saveEventSettled, same, Rows.saveEventSettled, saved]
    rfl
  exact agreeCall stand planned answered shows later

theorem createMeets (starts : start.Starts second) {organizer given name description venue : Raw}
    {date : Option Moment} {specs : List TierSpec}
    (fits : (Operation.createEvent organizer given name description venue date specs).fits = true) :
    Meet start second (create organizer given name description venue date specs)
      (create organizer given name description venue date specs) fun x y => x.settled = y.settled := by
  unfold Meet create
  have stand := starts.stand
  refine agreeAuthenticate stand ?_
  refine agreeEventId stand fun id _ => ?_
  refine agreeSettings stand (agreeNow stand (agreeCheck stand fun event drafted => ?_))
  have drafted := Event.draftOk drafted
  have fit : event.Fits := Event.fitsDraft starts.fits.capacity starts.fits.now fits drafted
  let made (_ _ : Unit) (_ : View) : Prop := True
  refine agreeAtomically made stand (fun first other stand => ?_) fun _ _ w after other _ stand => ?_
  · refine existsAgrees id stand fun after other stand => ?_
    refine agreeGuard stand Iff.rfl fun free => ?_
    have free : start.view.events.get? event.id = none := by
      rw [drafted.id]
      exact containsFalse free
    obtain ⟨rows, added, shows⟩ := stand.shows.addEvent fit free
    have planned : after.store.tables.plan (.addEvent event) = (.ok (), [.event event]) := by
      have unknown : after.store.tables.events.contains event.id = false := by
        rw [show after.store.tables.events = start.view.events from congrArg View.events stand.view,
          Table.contains, free]
        rfl
      simp only [Tables.plan, unknown]
      rfl
    have answered : other.store.rows.call (.addEvent event) = .ok ((), rows) := by
      rw [Rows.call, added]
      rfl
    refine agreeMono (agreeAnswered stand planned answered shows) ?_
    rintro _ _ last last' ⟨_, _, stand⟩
    exact ⟨_, trivial, stand⟩
  · refine agreeLog stand fun after other stand => ?_
    exact agreeNotify rfl stand fun after other stand => agreePure ⟨rfl, w, stand⟩

theorem updateDetailsMeets (starts : start.Starts second) (organizer given : Raw) {changes : EventChanges}
    (fits : changes.fits = true) :
    Meet start second (updateDetails organizer given changes) (updateDetails organizer given changes)
      fun x y => x.settled = y.settled := by
  unfold Meet updateDetails
  have stand := starts.stand
  refine agreeAuthenticate stand ?_
  refine agreeEventId stand fun id _ => ?_
  let made (x y : Event) (_ : View) : Prop := x.settled = y.settled
  refine agreeAtomically made stand (fun first other stand => ?_) fun x y w after other same stand => ?_
  · refine loadEditableAgrees organizer id stand fun event after other stored named fit stand => ?_
    split
    · exact agreePure ⟨_, event.settledTwice.symm, stand⟩
    · refine agreeSettings stand (agreeNow stand (agreeAlike stand (Event.changeSettled _ _ _ event).symm ?_))
      intro updated updated' changed _ same
      obtain ⟨fits', id', tiers⟩ := Event.fitsDetails fits fit changed
      rw [← named, ← id'] at stored
      exact saveAgrees same.symm fits' stored (by rw [tiers]) stand fun _ _ stand => agreePure ⟨_, same, stand⟩
  · split
    · exact agreePure ⟨same, w, stand⟩
    · refine agreeLog stand fun after other stand => ?_
      exact agreeNotify (congrArg Notice.eventUpdated same.symm) stand
        fun after other stand => agreePure ⟨same, w, stand⟩

theorem addTierMeets (starts : start.Starts second) (organizer given : Raw) {spec : TierSpec}
    (fits : spec.fits = true) :
    Meet start second (addTier organizer given spec) (addTier organizer given spec)
      fun x y => x.settled = y.settled := by
  unfold Meet addTier
  have stand := starts.stand
  refine agreeAuthenticate stand ?_
  refine agreeEventId stand fun id _ => ?_
  let made (x y : Tier × Event) (_ : View) : Prop := x.1 = y.1 ∧ x.2.settled = y.2.settled
  refine agreeAtomically made stand (fun first other stand => ?_) fun x y w after other same stand => ?_
  · refine loadEditableAgrees organizer id stand fun event after other stored named fit stand => ?_
    rw [Event.nextTierIdSettled, Event.nextTierIdNumbered fit.ids]
    refine agreeCheck stand fun next is => ?_
    cases is
    refine agreeSettings stand (agreeCheck stand fun tier made => ?_)
    have within := starts.fits.tiers event (Table.valueMem stored)
    obtain ⟨tier', id'⟩ := Tier.fitsSpec starts.fits.capacity within fits made
    obtain ⟨fits', more⟩ := Event.fitsAdd fit tier' id'
    have same : (event.withTier tier).settled = (event.settled.withTier tier).settled :=
      Event.withTierAlike event.settledTwice.symm rfl
    rw [← named] at stored
    exact saveAgrees same.symm fits' stored (by omega) stand fun _ _ stand => agreePure ⟨_, ⟨rfl, same⟩, stand⟩
  · obtain ⟨tier, event⟩ := x
    obtain ⟨tier', event'⟩ := y
    obtain ⟨rfl, same⟩ := same
    refine agreeCheck stand fun number _ => agreeLog stand fun after other stand => ?_
    exact agreeNotify (congrArg Notice.eventUpdated same.symm) stand
      fun after other stand => agreePure ⟨rfl, w, stand⟩

theorem updateTierMeets (starts : start.Starts second) (organizer given named : Raw) {changes : TierChanges}
    (fits : changes.fits = true) :
    Meet start second (updateTier organizer given named changes) (updateTier organizer given named changes)
      fun x y => x.settled = y.settled := by
  unfold Meet updateTier
  have stand := starts.stand
  refine agreeAuthenticate stand ?_
  refine agreeEventId stand fun id _ => ?_
  let made (x y : Tier × Event) (_ : View) : Prop := x.1.settled = y.1.settled ∧ x.2.settled = y.2.settled
  refine agreeAtomically made stand (fun first other stand => ?_) fun x y w after other same stand => ?_
  · refine loadEditableAgrees organizer id stand fun event after other stored called fit stand => ?_
    rw [Event.tierSettled]
    cases found : event.tier? named with
    | none => exact agreeThrow stand _
    | some tier =>
      simp only [Option.map_some]
      split
      · exact agreePure ⟨_, ⟨tier.settledTwice.symm, event.settledTwice.symm⟩, stand⟩
      · refine agreeSettings stand (agreeAlike stand (Tier.changeSettled _ _ tier).symm ?_)
        intro updated updated' changed _ same
        have listed := (Event.tierMem found).1
        have tier' := Tier.fitsChange starts.fits.capacity fits (fit.tiers tier listed) changed
        have known : updated.id ∈ event.tiers.map Tier.id := by
          rw [(Tier.changeOk changed).1]
          exact List.mem_map_of_mem listed
        obtain ⟨fits', length⟩ := Event.fitsPut fit tier' known
        have events : (event.withTier updated).settled = (event.settled.withTier updated').settled :=
          Event.withTierAlike event.settledTwice.symm same
        rw [← called] at stored
        exact saveAgrees events.symm fits' stored (by omega) stand
          fun _ _ stand => agreePure ⟨_, ⟨same, events⟩, stand⟩
  · obtain ⟨tier, event⟩ := x
    obtain ⟨tier', event'⟩ := y
    obtain ⟨same, events⟩ := same
    dsimp only
    split
    · exact agreePure ⟨same, w, stand⟩
    · refine agreeCheck stand fun number _ => agreeLog stand fun after other stand => ?_
      exact agreeNotify (congrArg Notice.eventUpdated events.symm) stand
        fun after other stand => agreePure ⟨same, w, stand⟩

theorem newStatusAgrees {given : Raw} {next : EventStatus → Action Journal γ}
    {next' : EventStatus → Action (Relational Decimal.Finite) δ} (stand : start.Stand blocks v first second)
    (later : ∀ status, (next status).Agree start blocks (next' status) first second ends) :
    (newStatus given >>= next).Agree start blocks (newStatus given >>= next') first second ends := by
  unfold newStatus
  split
  · exact later _
  · exact agreeThrow stand _

theorem saveStatusAgrees {event : Event} (fits : event.Fits) (stored : v.events.get? event.id = some event)
    (status : EventStatus) (stand : start.Stand blocks v first second)
    (later : ({ event with status } : Event).settled = ({ event.settled with status } : Event).settled →
      ∀ after other, start.Stand blocks (v.edit (.event { event with status })) after other →
      (next ()).Agree start blocks (next' ()) after other ends) :
    (call (.saveEvent { event with status }) >>= next).Agree start blocks
      (call (.saveEvent { event.settled with status }) >>= next') first second ends := by
  have same : ({ event with status } : Event).settled = ({ event.settled with status } : Event).settled := by
    simp [Event.settled, Function.comp_def]
  exact saveAgrees same.symm ⟨fits.texts, fits.date, fits.createdAt, fits.ids, fits.tiers⟩ stored (Nat.le_refl _)
    stand (later same)

theorem updateStatusMeets (starts : start.Starts second) (organizer given wanted : Raw) :
    Meet start second (updateStatus organizer given wanted) (updateStatus organizer given wanted)
      fun x y => x.settled = y.settled := by
  unfold Meet updateStatus
  have stand := starts.stand
  refine agreeAuthenticate stand ?_
  refine agreeEventId stand fun id _ => ?_
  refine newStatusAgrees stand fun status => ?_
  let made (x y : EventStatus × Event) (_ : View) : Prop := x.1 = y.1 ∧ x.2.settled = y.2.settled
  refine agreeAtomically made stand (fun first other stand => ?_) fun x y w after other same stand => ?_
  · refine loadOwnedAgrees organizer id stand fun event after other stored named fit stand => ?_
    rw [show event.settled.status = event.status from rfl]
    split
    · exact agreeLog stand fun after other stand => agreeThrow stand _
    · rw [← named] at stored
      exact saveStatusAgrees fit stored status stand
        fun same _ _ stand => agreePure ⟨_, ⟨rfl, same⟩, stand⟩
  · obtain ⟨old, event⟩ := x
    obtain ⟨old', event'⟩ := y
    obtain ⟨rfl, same⟩ := same
    refine agreeLog stand fun after other stand => ?_
    exact agreeNotify rfl stand fun after other stand => agreePure ⟨same, w, stand⟩

theorem cancelMeets (starts : start.Starts second) (organizer given : Raw) :
    Meet start second (cancel organizer given) (cancel organizer given) fun x y => x.settled = y.settled := by
  unfold Meet cancel
  have stand := starts.stand
  refine agreeAuthenticate stand ?_
  refine agreeEventId stand fun id _ => ?_
  let made (x y : EventStatus × Event) (_ : View) : Prop := x.1 = y.1 ∧ x.2.settled = y.2.settled
  refine agreeAtomically made stand (fun first other stand => ?_) fun x y w after other same stand => ?_
  · refine loadOwnedAgrees organizer id stand fun event after other stored named fit stand => ?_
    refine agreeGuard stand Iff.rfl fun _ => ?_
    rw [← named] at stored
    exact saveStatusAgrees fit stored .cancelled stand
      fun same _ _ stand => agreePure ⟨_, ⟨rfl, same⟩, stand⟩
  · obtain ⟨old, event⟩ := x
    obtain ⟨old', event'⟩ := y
    obtain ⟨rfl, same⟩ := same
    refine agreeLog stand fun after other stand => ?_
    refine agreeNotify rfl stand fun after other stand => ?_
    exact agreeNotify rfl stand fun after other stand => agreePure ⟨same, w, stand⟩

theorem getAgrees {next : Event → Action Journal γ} {next' : Event → Action (Relational Decimal.Finite) δ}
    (given : Raw) (stand : start.Stand blocks v first second)
    (later : ∀ event after other, v.events.get? event.id = some event → start.Stand blocks v after other →
      (next event).Agree start blocks (next' event.settled) after other ends) :
    (get given >>= next).Agree start blocks (get given >>= next') first second ends := by
  unfold get
  rw [bind_assoc, bind_assoc]
  refine agreeEventId stand fun id _ => ?_
  refine loadAgrees id stand fun event after other stored named _ stand => ?_
  exact later event after other (by rw [named]; exact stored) stand

theorem listMeets (starts : start.Starts second) {organizer : Raw}
    (fits : (Operation.listEvents organizer).fits = true) :
    Meet start second (list organizer) (list organizer)
      fun x y => x.map Event.settled = y.map Event.settled := by
  have stand := starts.stand
  have column : organizer.inColumn = .ok organizer := by
    rw [Operation.fits, Bool.or_eq_true, beq_iff_eq] at fits
    obtain rfl | legible := fits
    · rfl
    · exact Raw.legibleInColumn legible
  have listed := stand.shows.listing organizer
  obtain ⟨events, found⟩ : ∃ events, listing start.view.events.values organizer = .ok events :=
    ⟨_, Event.listingZoned stand.shows.zoned organizer⟩
  have planned : start.store.tables.plan (.listEvents organizer) = (.ok events, []) :=
    congrArg (fun listed => (listed, [])) found
  have answered : second.store.rows.call (.listEvents organizer) =
      .ok (events.map Event.settled, second.store.rows) := by
    rw [found] at listed
    rw [Rows.call, column, bindPassed, listed]
    rfl
  exact meetFound stand planned answered (by simp [Function.comp_def])

end Registry

end BoxOffice
