import BoxOffice.Proofs.Desk.Registry

/-! How the requests to the allocation of places end. -/
namespace BoxOffice.Allocation
open BoxOffice.Action
variable {start : Desk Journal}

theorem registerEnds (ready : start.Ready) (attendee given named : Raw) :
    (register attendee given named).Concludes start (.registerForEvent attendee given named)
      .registration := by
  have covers := ready.started.covers (.registerForEvent attendee given named)
  unfold register
  refine bindAuthenticate nofun covers fun verified => ?_
  refine bindEventId nofun covers fun id stated => ?_
  let ends (made : Registration × Tier) (edits : List Edit) : Prop :=
    made.2.Regular ∧ (∃ n : Int, named.key = .whole n) ∧
      start.Effect (.registerForEvent attendee given named) edits start.funds
        [.attendeeRegistered id attendee named made.2.sold] (.registration made.1)
  refine bindBlock ends ready.under rfl (fun first inside => ?_) fun made edits after end' took => ?_
  · refine leadsBind (Registry.leadsLoad id inside) fun event here ⟨stored, inside⟩ => ?_
    obtain rfl := ready.regular.named stored
    refine guardCovered nofun inside.covers fun active => ?_
    split
    · exact leadsThrow (inside.covers _ _ nofun (.refl _))
    rename_i tier found
    refine bindWork inside fun taken none next works inside => ?_
    obtain ⟨label, party, rfl, rfl⟩ := Works.isRegistered works
    refine guardCovered nofun inside.covers fun free => ?_
    refine bindCheck (Tier.soldOutSpares tier) inside.covers fun full places => ?_
    cases full with
    | true =>
      refine bindCheck (Raw.wholePartSpares named) inside.covers fun number _ => ?_
      exact bindLog nofun fun after still => throwCovered nofun (inside.still still).covers
    | false =>
      refine bindNow (bindCheck (Tier.sellSpares tier) inside.covers fun sold sells => ?_)
      rw [inside.kept.clock]
      refine bindWork inside fun _ edits after works inside => ?_
      obtain ⟨other, party', _, rfl⟩ := Works.addRegistration works
      cases party.symm.trans party'
      refine bindWork inside fun _ edits after works inside => ?_
      obtain rfl := Works.saveEvent works
      have regular := Tier.sellRegular (ready.regular.tiers stored _ (Event.tierMem found).1) sells
      obtain ⟨n, _, key⟩ := Event.namedWhole found (ready.regular.tiers stored)
      have effect := Desk.Effect.registered verified ⟨stated, stored⟩ (by simpa using active) found party
        (containsFalse free) places sells
      exact leadsPure ⟨_, ⟨regular, ⟨n, key⟩, effect⟩, inside⟩
  · obtain ⟨registration, tier⟩ := made
    obtain ⟨regular, ⟨n, key⟩, effect⟩ := end'
    obtain ⟨sold, isSold⟩ := regular.sold
    obtain ⟨capacity, isCapacity⟩ := regular.capacity
    refine bindWhole key fun _ => ?_
    refine bindWhole (congrArg Raw.key isSold) fun _ => ?_
    refine bindWhole (congrArg Raw.key isCapacity) fun _ => ?_
    exact bindLog nofun fun after still => tellsOnce effect (took.still still)

theorem isRegisteredEnds (ready : start.Ready) (given attendee : Raw) :
    (isRegistered given attendee).Concludes start (.isRegistered given attendee) .flag := by
  unfold isRegistered
  refine leadsBind (Registry.leadsGet ready _ given) fun event after ⟨names, took⟩ => ?_
  rw [← bind_pure (call _)]
  refine bindLook took (fun _ => rfl) (took.covers _) fun flag after works took => ?_
  obtain ⟨label, party, rfl, _⟩ := Works.isRegistered works
  exact leadsPure (.found (.isRegistered names party) took)

theorem attendeesEnds (ready : start.Ready) (given : Raw) :
    (attendees given).Concludes start (.getAttendees given) .values := by
  unfold attendees
  refine leadsBind (Registry.leadsGet ready _ given) fun event after ⟨names, took⟩ => ?_
  rw [← bind_pure (call _)]
  refine bindLook took (fun _ => rfl) (took.covers _) fun listed after works took => ?_
  obtain ⟨rfl, _⟩ := Works.listAttendees works
  exact leadsPure (.found (.attendees names) took)

end BoxOffice.Allocation
