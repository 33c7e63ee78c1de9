import BoxOffice.Proofs.Attendance
import BoxOffice.Proofs.Interchange.Registry

/-! Requests to the allocation of places at two desks. Registrations are looked for by the text that names the
attendee, in the rows as well as by its label. -/
namespace BoxOffice.Allocation
open BoxOffice.Action
variable {start : Desk Journal} {second : TableDesk}

theorem namedWithin {event : Event} {tier : Tier} {named : Raw} (whole : named.isWhole = true)
    (found : event.tier? named = some tier) (fits : event.Fits) : ∃ n : Nat, n < wordLimit ∧ named = .whole n := by
  obtain ⟨listed, same⟩ := Event.tierMem found
  obtain ⟨n, within, id⟩ := (fits.tiers tier listed).id
  obtain ⟨m, rfl⟩ := Raw.wholeNumber whole
  rw [id, Raw.sameWholes rfl rfl] at same
  exact ⟨n, within, same.symm⟩

section
variable {γ δ : Type} {blocks : List (View × Rows Decimal.Finite)} {v : View} {first : Desk Journal}
  {ends : γ → δ → Desk Journal → TableDesk → Prop}

theorem isRegisteredAgrees {next : Bool → Action Journal γ} {next' : Bool → Action (Relational Decimal.Finite) δ}
    (id : EventId) {name : String} (encodes : Text.isWhole name = true) (stand : start.Stand blocks v first second)
    (later : ∀ after other, start.Stand blocks v after other →
      (next (v.registrations.contains (id, .named name))).Agree start blocks
        (next' (v.registrations.contains (id, .named name))) after other ends) :
    (call (.isRegistered id (.text name)) >>= next).Agree start blocks
      (call (.isRegistered id (.text name)) >>= next') first second ends := by
  have planned : first.store.tables.plan (.isRegistered id (.text name)) =
      (.ok (v.registrations.contains (id, .named name)), []) := by
    rw [← stand.view]
    rfl
  have answered : second.store.rows.call (.isRegistered id (.text name)) =
      .ok (v.registrations.contains (id, .named name), second.store.rows) := by
    rw [Rows.call, Raw.textInColumn encodes, bindPassed, stand.shows.isRegistered]
    rfl
  exact agreeCall stand planned answered stand.shows later

theorem addRegistrationAgrees {next : Unit → Action Journal γ}
    {next' : Unit → Action (Relational Decimal.Finite) δ} {r : Registration} (fits : r.Fits) {name : String}
    (called : r.attendee = .text name) (free : v.registrations.contains (r.event, .named name) = false)
    (there : v.events.contains r.event = true) (stand : start.Stand blocks v first second)
    (later : ∀ after other,
      start.Stand blocks ([.registration (.named name) r, .attendee r.event r.attendee].foldl View.edit v)
        after other → (next ()).Agree start blocks (next' ()) after other ends) :
    (call (.addRegistration r) >>= next).Agree start blocks (call (.addRegistration r) >>= next') first second
      ends := by
  obtain ⟨rows, added, shows⟩ := stand.shows.addRegistration fits called (containsFalse (by simp [free])) there
  have planned : first.store.tables.plan (.addRegistration r) =
      (.ok (), [.registration (.named name) r, .attendee r.event r.attendee]) := by
    have registrations : first.store.tables.registrations = v.registrations :=
      congrArg View.registrations stand.view
    simp only [Tables.plan, called, show Checked.label (.text name) = .ok (.named name) from rfl, registrations, free]
    rfl
  have answered : second.store.rows.call (.addRegistration r) = .ok ((), rows) := by
    rw [Rows.call, added]
    rfl
  exact agreeCall stand planned answered shows later

end

theorem registerMeets (starts : start.Starts second) {attendee given named : Raw}
    (fits : (Operation.registerForEvent attendee given named).fits = true) :
    Meet start second (register attendee given named) (register attendee given named)
      fun x y => x.settled = y.settled := by
  unfold Meet register
  simp only [Operation.fits, Bool.and_eq_true] at fits
  obtain ⟨legible, whole⟩ := fits
  obtain ⟨name, rfl, encodes⟩ := Raw.legibleText legible
  obtain ⟨m, clock, datable, _⟩ := starts.fits.now
  have stand := starts.stand
  refine agreeAuthenticate stand ?_
  refine agreeEventId stand fun id _ => ?_
  let made (x y : Registration × Tier) (_ : View) : Prop := x.1 = y.1 ∧ x.2.settled = y.2.settled
  refine agreeAtomically made stand (fun first other stand => ?_) fun x y w after other same stand => ?_
  · refine Registry.loadAgrees id stand fun event after other stored here fit stand => ?_
    refine agreeGuard stand Iff.rfl fun _ => ?_
    rw [Event.tierSettled]
    cases found : event.tier? named with
    | none => exact agreeThrow stand _
    | some tier =>
      simp only [Option.map_some]
      refine isRegisteredAgrees id encodes stand fun after other stand => ?_
      refine agreeGuard stand Iff.rfl fun free => ?_
      rw [show tier.settled.isSoldOut = tier.isSoldOut from rfl]
      refine agreeCheck stand fun full places => ?_
      cases full with
      | true =>
        refine agreeCheck stand fun _ _ => ?_
        exact agreeLog stand fun after other stand => agreeThrow stand _
      | false =>
        refine agreeNow stand (agreeAlike stand (Tier.sellSettled tier).symm fun sold sold' sells _ same => ?_)
        obtain ⟨n, within, rfl⟩ := namedWithin whole found fit
        have there : start.view.events.contains id = true := by rw [Table.contains, stored, Option.isSome_some]
        have fits : (⟨id, .text name, .whole n, start.clock⟩ : Registration).Fits :=
          ⟨legible, ⟨n, within, rfl⟩, ⟨m, clock, datable⟩⟩
        refine addRegistrationAgrees fits rfl (by simpa using free) there stand fun after other stand => ?_
        -- the sold place is put into the event as it was loaded
        have listed := (Event.tierMem found).1
        obtain ⟨tier', called⟩ := Tier.fitsSell (fit.tiers tier listed) places sells
        have known : sold.id ∈ event.tiers.map Tier.id := by
          rw [called]
          exact List.mem_map_of_mem listed
        obtain ⟨event', length⟩ := Event.fitsPut fit tier' known
        have events : (event.withTier sold).settled = (event.settled.withTier sold').settled :=
          Event.withTierAlike event.settledTwice.symm same
        rw [← here] at stored
        refine Registry.saveAgrees events.symm event' ?_ length.ge stand
          fun _ _ stand => agreePure ⟨_, ⟨rfl, same⟩, stand⟩
        exact stored
  · obtain ⟨registration, sold⟩ := x
    obtain ⟨registration', sold'⟩ := y
    obtain ⟨rfl, same⟩ := same
    have number : sold'.sold = sold.sold := (congrArg Tier.sold same).symm
    have limit : sold'.capacity = sold.capacity := (congrArg Tier.capacity same).symm
    dsimp only
    rw [number, limit]
    refine agreeCheck stand fun _ _ => agreeCheck stand fun _ _ => agreeCheck stand fun _ _ => ?_
    refine agreeLog stand fun after other stand => ?_
    exact agreeNotify rfl stand fun after other stand => agreePure ⟨rfl, w, stand⟩

theorem isRegisteredMeets (starts : start.Starts second) (given : Raw) {attendee : Raw}
    (legible : attendee.isLegible = true) :
    Meet start second (isRegistered given attendee) (isRegistered given attendee) fun x y => x = y := by
  unfold Meet isRegistered
  obtain ⟨name, rfl, encodes⟩ := Raw.legibleText legible
  refine Registry.getAgrees given starts.stand fun event after other _ stand => ?_
  rw [← bind_pure (call _), ← bind_pure (call (.isRegistered event.settled.id _))]
  exact isRegisteredAgrees event.id encodes stand fun after other stand => agreePure ⟨rfl, _, stand⟩

theorem attendeesMeets (starts : start.Starts second) (given : Raw) :
    Meet start second (attendees given) (attendees given) fun x y => x = y := by
  unfold Meet attendees
  refine Registry.getAgrees given starts.stand fun event after other _ stand => ?_
  have planned : after.store.tables.plan (.listAttendees event.id) =
      (.ok (start.view.attendees event.id), []) := by
    rw [← stand.view]
    rfl
  have answered : other.store.rows.call (.listAttendees event.settled.id) =
      .ok (start.view.attendees event.id, other.store.rows) := by
    have listed : start.view.attendees event.id =
        (start.view.registrationsOf event.id).map Registration.attendee := starts.reached.inventory.listed event.id
    rw [Rows.call, stand.shows.registrations, listed, List.filter_map, List.map_map]
    rfl
  exact meetFound stand planned answered rfl

end BoxOffice.Allocation
