import BoxOffice.Proofs.Attendance
import BoxOffice.Proofs.Replay.Observer
import BoxOffice.Proofs.Takings

/-! The notices of a run tell its whole story. A replay of them shows the events and the tickets as they are
recorded, and notices of places, payments and tickets are sent one for each record, in the order of the records. -/
namespace BoxOffice

namespace Notice

def created? : Notice → Option EventId
  | eventCreated id .. => some id
  | _ => none

def newcomer? (id : EventId) : Notice → Option Raw
  | attendeeRegistered event attendee _ _ => if event = id then some attendee else none
  | _ => none

def sold? (id : EventId) (tier : Raw) : Notice → Option Raw
  | attendeeRegistered event _ named sold => if event = id ∧ tier.same named = true then some sold else none
  | _ => none

def payment? : Notice → Option (Raw × EventId × Raw × Money)
  | paymentReceived id event payer amount => some (.whole id, event, payer, amount)
  | _ => none

def paid? (id : EventId) : Notice → Option Raw
  | paymentReceived payment event _ _ => if event = id then some (.whole payment) else none
  | _ => none

def minted? : Notice → Option Label
  | ticketMinted id .. => some (.numbered id)
  | _ => none

end Notice

def Payment.received (payment : Payment) : Raw × EventId × Raw × Money :=
  (payment.id, payment.event, payment.payer, payment.amount)

namespace Desk.Effect
variable {desk : Desk Journal} {request : Operation} {edits : List Edit} {funds : Funds}
  {told : List Notice} {answer : Answer}

theorem createdTold (effect : desk.Effect request edits funds told answer) :
    (edits.foldl View.edit desk.view).events.entries.map Prod.fst =
      desk.view.events.entries.map Prod.fst ++ told.filterMap Notice.created? := by
  have saved {event : Event} (stored : desk.view.events.get? event.id = some event) (later : Event)
      (same : later.id = event.id) : (desk.view.edit (.event later)).events.entries.map Prod.fst =
        desk.view.events.entries.map Prod.fst ++ [] := by
    rw [View.edit, same, List.append_nil]
    exact Table.putKnown stored Prod.fst rfl
  cases effect with
  | created verified named drafted free =>
    exact (congrArg _ (Table.putNew free _)).trans List.map_append
  | detailsUpdated owns editable some changed =>
    obtain ⟨name, description, venue, date, rfl⟩ := Event.changeOk changed
    exact saved owns.stored _ rfl
  | tierAdded owns => exact saved owns.stored _ rfl
  | tierUpdated owns => exact saved owns.stored _ rfl
  | statusUpdated owns => exact saved owns.stored _ rfl
  | cancelled owns => exact saved owns.stored _ rfl
  | registered verified names => exact saved names.stored _ rfl
  | ticketTransferred =>
    rw [View.handedTo]
    exact (List.append_nil _).symm
  | _ => exact (List.append_nil _).symm

theorem newcomerTold (effect : desk.Effect request edits funds told answer) (id : EventId) :
    (edits.foldl View.edit desk.view).attendees id =
      desk.view.attendees id ++ told.filterMap (Notice.newcomer? id) := by
  cases effect with
  | @registered attendee given named event tier sold label verified names =>
    by_cases here : event.id = id
    · subst here
      simp [View.edit, Notice.newcomer?]
    · simp [View.edit, Notice.newcomer?, here, Ne.symm here]
  | ticketTransferred =>
    rw [View.handedTo]
    exact (List.append_nil _).symm
  | _ => exact (List.append_nil _).symm

theorem soldTold (effect : desk.Effect request edits funds told answer) (regular : desk.view.Regular)
    (inventory : desk.view.Inventory) (id : EventId) (n : Int) :
    (List.range' 1 ((edits.foldl View.edit desk.view).soldOf id (.whole n))).map (fun k : Nat => Raw.whole k) =
      (List.range' 1 (desk.view.soldOf id (.whole n))).map (fun k : Nat => Raw.whole k) ++
        told.filterMap (Notice.sold? id (.whole n)) := by
  cases effect with
  | @registered attendee given named event tier sold label verified names active found party free places
      sells =>
    let r : Registration := ⟨event.id, attendee, named, desk.clock⟩
    obtain ⟨m, is, key⟩ := Event.namedWhole found (regular.tiers names.stored)
    obtain ⟨_, _, count, _⟩ := (inventory.stocks names.stored).stocked tier (Event.tierMem found).1
    rw [Tier.sellWhole count] at sells
    cases sells
    show (List.range' 1 ((desk.view.edit (.registration label r)).soldOf id (.whole n))).map _ = _
    by_cases here : event.id = id
    · subst here
      have more : (desk.view.edit (.registration label r)).soldOf event.id (.whole n) =
          desk.view.soldOf event.id (.whole n) + if (Raw.whole n).same named then 1 else 0 :=
        View.soldHere free _
      cases hit : (Raw.whole n).same named with
      | true =>
        have one : tier.id = .whole n := is.trans (key.symm.trans (Raw.sameWhole.mp hit))
        rw [more, one]
        simp [List.range'_1_concat, Notice.sold?, hit, Int.add_comm]
      | false =>
        rw [more]
        simp [Notice.sold?, hit]
    · have same : (desk.view.edit (.registration label r)).soldOf id (.whole n) =
          desk.view.soldOf id (.whole n) :=
        congrArg (List.countP _) (View.registrationsThere free (Ne.symm here))
      rw [same]
      simp [Notice.sold?, here]
  | ticketTransferred =>
    rw [View.handedTo]
    exact (List.append_nil _).symm
  | _ => exact (List.append_nil _).symm

theorem paymentTold (effect : desk.Effect request edits funds told answer) (takings : desk.view.Takings) :
    (edits.foldl View.edit desk.view).payments.values.map Payment.received =
      desk.view.payments.values.map Payment.received ++ told.filterMap Notice.payment? := by
  cases effect with
  | paid => exact (congrArg _ (Table.putNewValues takings.series.fresh _)).trans List.map_append
  | ticketTransferred =>
    rw [View.handedTo]
    exact (List.append_nil _).symm
  | _ => exact (List.append_nil _).symm

theorem paidTold (effect : desk.Effect request edits funds told answer) (id : EventId) :
    (edits.foldl View.edit desk.view).eventPayments id =
      desk.view.eventPayments id ++ told.filterMap (Notice.paid? id) := by
  cases effect with
  | @paid payer given sum event =>
    by_cases here : event = id
    · subst here
      simp [paymentEdits, View.edit, Notice.paid?]
    · simp [paymentEdits, View.edit, Notice.paid?, here, Ne.symm here]
  | ticketTransferred =>
    rw [View.handedTo]
    exact (List.append_nil _).symm
  | _ => exact (List.append_nil _).symm

theorem mintedTold (effect : desk.Effect request edits funds told answer) (ownership : desk.view.Ownership) :
    (edits.foldl View.edit desk.view).tickets.entries.map Prod.fst =
      desk.view.tickets.entries.map Prod.fst ++ told.filterMap Notice.minted? := by
  have kept {label : Label} {ticket later : Ticket} (stored : desk.view.tickets.get? label = some ticket) :
      (desk.view.edit (.ticket label later)).tickets.entries.map Prod.fst =
        desk.view.tickets.entries.map Prod.fst := Table.putKnown stored Prod.fst rfl
  cases effect with
  | minted => exact (congrArg _ (Table.putNew ownership.series.fresh _)).trans List.map_append
  | ticketTransferred verified differ someone holds =>
    rw [View.handedTo]
    exact (kept holds.stored).trans (List.append_nil _).symm
  | ticketUsed verified holds => exact (kept holds.stored).trans (List.append_nil _).symm
  | ticketCancelled verified holds => exact (kept holds.stored).trans (List.append_nil _).symm
  | _ => exact (List.append_nil _).symm

end Desk.Effect

theorem createdEchoes : Echoes Notice.created? fun v => v.events.entries.map Prod.fst :=
  ⟨fun _ => rfl, fun _ effect => effect.createdTold⟩

theorem newcomerEchoes (id : EventId) : Echoes (Notice.newcomer? id) fun v => v.attendees id :=
  ⟨fun _ => rfl, fun _ effect => effect.newcomerTold id⟩

theorem soldEchoes (id : EventId) (n : Int) : Echoes (Notice.sold? id (.whole n)) fun v =>
    (List.range' 1 (v.soldOf id (.whole n))).map fun k : Nat => Raw.whole k :=
  ⟨fun _ => rfl, fun reached effect => effect.soldTold reached.regular reached.inventory id n⟩

theorem paymentEchoes : Echoes Notice.payment? fun v => v.payments.values.map Payment.received :=
  ⟨fun _ => rfl, fun reached effect => effect.paymentTold reached.takings⟩

theorem paidEchoes (id : EventId) : Echoes (Notice.paid? id) fun v => v.eventPayments id :=
  ⟨fun _ => rfl, fun _ effect => effect.paidTold id⟩

theorem mintedEchoes : Echoes Notice.minted? fun v => v.tickets.entries.map Prod.fst :=
  ⟨fun _ => rfl, fun reached effect => effect.mintedTold reached.ownership⟩

def View.Distinct (v : View) : Prop :=
  (v.events.entries.map Prod.fst).Nodup

theorem View.editsDistinct {v : View} (once : v.Distinct) (edits : List Edit) :
    (edits.foldl edit v).Distinct := by
  induction edits generalizing v with
  | nil => exact once
  | cons first rest ih =>
    refine ih ?_
    cases first with
    | event event => exact Table.putOnce once _ _
    | _ => exact once

theorem Journal.Reached.distinct {store : Journal} (reached : store.Reached) : store.tables.view.Distinct :=
  reached.keeps List.nodup_nil fun _ once _ => View.editsDistinct once _

/-- What has been told goes together with what is recorded. A replay of it shows the events and the tickets.
Each event and each ticket is new once. The attendees of an event are told in their order, and with them the
places of each tier by number up to the last that is sold; payments are told by number, with payer and amount. -/
structure Desk.Narrated (desk : Desk Journal) : Prop where
  replayed : Observer.replay desk.notices = some desk.view.observed
  created : ∀ id, (desk.notices.filterMap Notice.created?).count id =
    if desk.view.events.contains id then 1 else 0
  attendees : ∀ id, desk.notices.filterMap (Notice.newcomer? id) = desk.view.attendees id
  sold : ∀ {id event}, desk.view.events.get? id = some event → ∀ tier ∈ event.tiers, ∃ count : Nat,
    tier.sold = .whole count ∧ desk.notices.filterMap (Notice.sold? id tier.id) =
      (List.range' 1 count).map fun n : Nat => .whole n
  payments : desk.notices.filterMap Notice.payment? = desk.view.payments.values.map Payment.received
  numbered : ∃ count, (desk.notices.filterMap Notice.payment?).map Prod.fst =
    (List.range' 1 count).map fun n : Nat => .whole n
  eventPayments : ∀ id, desk.notices.filterMap (Notice.paid? id) = desk.view.eventPayments id
  minted : ∀ label, (desk.notices.filterMap Notice.minted?).count label =
    if desk.view.tickets.contains label then 1 else 0

theorem Step.takeAllNarrated {desk : Desk Journal} (empty : desk.store = .empty) (untold : desk.notices = [])
    (tame : desk.Tame) {steps : List Step} (ordinary : ∀ step ∈ steps, step.Ordinary) :
    (takeAll steps desk).2.Narrated := by
  have start : desk.store.Reached := empty ▸ .empty
  obtain ⟨reached, _⟩ := takeAllReached ordinary start tame
  have payments := paymentEchoes.takeAll ordinary empty tame untold rfl
  constructor
  case replayed =>
    have none : Observer.replay desk.notices = some desk.view.observed := by
      rw [untold, Desk.view, empty]
      rfl
    exact replayStory.takeAll ordinary start tame none
  case created =>
    intro id
    rw [createdEchoes.takeAll ordinary empty tame untold rfl]
    exact Table.countKeys reached.distinct id
  case attendees => exact fun id => (newcomerEchoes id).takeAll ordinary empty tame untold rfl
  case sold =>
    intro id event stored tier mem
    obtain ⟨n, is⟩ := (reached.regular.tiers stored tier mem).id
    obtain rfl := reached.regular.named stored
    obtain ⟨_, _, count, _⟩ := (reached.inventory.stocks stored).stocked tier mem
    rw [is] at count ⊢
    exact ⟨_, count, (soldEchoes event.id n).takeAll ordinary empty tame untold rfl⟩
  case payments => exact payments
  case numbered =>
    rw [payments, List.map_map]
    exact ⟨_, reached.takings.series.ids⟩
  case eventPayments => exact fun id => (paidEchoes id).takeAll ordinary empty tame untold rfl
  case minted =>
    intro label
    rw [mintedEchoes.takeAll ordinary empty tame untold rfl]
    exact Table.countKeys reached.ownership.series.once label

/-- After every step of a run of ordinary steps, which starts from an empty store and before anything is told,
the notices tell what is recorded. -/
theorem noticesReplay {desk : Desk Journal} (empty : desk.store = .empty) (untold : desk.notices = [])
    (tame : desk.Tame) {steps : List Step} (ordinary : ∀ step ∈ steps, step.Ordinary) :
    ∀ taken, taken <+: steps → (Step.takeAll taken desk).2.Narrated :=
  fun _ early => Step.takeAllNarrated empty untold tame fun step mem => ordinary step (early.subset mem)

/- Nobody hears that the gala is cancelled, since the receiver of its new status fails; all else is told. -/
theorem noticesReplayGala :
    let steps : List Step :=
      [.operation (.createEvent (.text "host") (.text "gala") (.text "Gala") .nothing (.text "Hall")
        (some ⟨2 * Moment.microsPerDay, some 0⟩) [⟨.text "Stalls", .whole 5, .whole 2⟩]),
      .operation (.updateEventStatus (.text "host") (.text "gala") (.text "active")),
      .breakStore ⟨"save_event", true⟩,
      .operation (.registerForEvent (.text "ann") (.text "gala") (.whole 0)),
      .operation (.registerForEvent (.text "bob") (.text "gala") (.whole 0)),
      .operation (.mintTicket (.text "host") (.text "gala") (.text "bob")),
      .breakReceiver "event_status_changed",
      .operation (.cancelEvent (.text "host") (.text "gala"))]
    let desk : Desk Journal :=
      .opened .empty none (some ⟨0, some 0⟩) .standard (.text "escrow") false true
    let ran := (Step.takeAll steps desk).2
    (∀ step ∈ steps, step.Ordinary) ∧ ran.Narrated ∧
      ran.notices.map Notice.name = ["event_created", "event_status_changed", "attendee_registered",
        "ticket_minted", "event_status_changed"] ∧
      (Observer.replay ran.notices).map (fun known => known.tickets.get? (.numbered 1)) =
        some (some ⟨⟨"gala", rfl⟩, .text "bob", .valid⟩) := by
  intro steps desk ran
  have ordinary : ∀ step ∈ steps, step.Ordinary := by simp [steps, Step.Ordinary, entryMethod]
  have tame : desk.Tame := by
    intro fault mem
    cases mem
  have narrated := @noticesReplay desk rfl rfl tame steps ordinary steps (List.prefix_refl steps)
  have names : ran.notices.map Notice.name = ["event_created", "event_status_changed", "attendee_registered",
      "ticket_minted", "event_status_changed"] := by
    decide +kernel
  have bob : (Observer.replay ran.notices).map (fun known => known.tickets.get? (.numbered 1)) =
      some (some ⟨⟨"gala", rfl⟩, .text "bob", .valid⟩) := by
    decide +kernel
  exact ⟨ordinary, narrated, names, bob⟩

end BoxOffice
