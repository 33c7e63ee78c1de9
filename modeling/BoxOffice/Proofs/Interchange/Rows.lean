import BoxOffice.Proofs.Decimal.Sum
import BoxOffice.Proofs.Interchange.Tiers
import BoxOffice.Proofs.Store.Series

/-! Rows that show what a store in memory shows: the same records in their settled form, in the same order.
Calls whose records fit keep this, and are answered with the settled form. -/
namespace BoxOffice

namespace Event

def Zoned (event : Event) : Prop :=
  ∃ m, event.createdAt = some m ∧ m.isNaive = false

def made (event : Event) : Int :=
  (event.createdAt.map Moment.instant).getD 0

def chosen (organizer : Raw) (events : List Event) : List Event :=
  match organizer with
  | .nothing => events
  | organizer => events.filter fun event => event.organizer.same organizer

variable {events : List Event}

theorem timed (zoned : ∀ event ∈ events, event.Zoned) :
    ∃ timed, (events.mapM fun event => event.createdAt.map (·, event)) = some timed ∧
      timed.map Prod.snd = events ∧ ∀ entry ∈ timed, entry.2.made = entry.1.instant ∧ entry.1.isNaive = false := by
  induction events with
  | nil => exact ⟨[], rfl, rfl, List.forall_mem_nil _⟩
  | cons event rest ih =>
    obtain ⟨m, made, zone⟩ := zoned event List.mem_cons_self
    obtain ⟨timed, read, same, each⟩ := ih fun event mem => zoned event (List.mem_cons_of_mem _ mem)
    refine ⟨(m, event) :: timed, ?_, by rw [List.map_cons, same], ?_⟩
    · rw [List.mapM_cons, made, read]
      rfl
    · exact List.forall_mem_cons.mpr ⟨⟨by simp [Event.made, made], zone⟩, each⟩

theorem listingZoned (zoned : ∀ event ∈ events, event.Zoned) (organizer : Raw) :
    listing events organizer =
      .ok ((chosen organizer events).mergeSort fun a b => b.made ≤ a.made) := by
  have zoned : ∀ event ∈ chosen organizer events, event.Zoned := by
    intro event mem
    unfold chosen at mem
    split at mem
    · exact zoned event mem
    · exact zoned event (List.mem_filter.mp mem).1
  obtain ⟨timed, read, same, each⟩ := timed zoned
  have ordered : isOrdered (timed.map Prod.fst) = true := by
    simp only [isOrdered, Bool.or_eq_true, List.all_eq_true, List.mem_map, Bool.not_eq_true']
    right
    rintro _ ⟨entry, mem, rfl⟩
    exact (each entry mem).2
  have newest : newestFirst timed = (chosen organizer events).mergeSort fun a b => b.made ≤ a.made := by
    rw [newestFirst, ← same]
    refine List.map_mergeSort fun a first b second => ?_
    rw [(each a first).1, (each b second).1]
  unfold listing
  extract_lets listed
  have is : listed = chosen organizer events := rfl
  rw [is]
  split
  · rename_i none
    rw [none, List.mergeSort_nil]
  · rename_i event one
    rw [one, List.mergeSort_singleton]
  · rw [read]
    simp only [ordered, if_true, newest]

theorem listingSettled (zoned : ∀ event ∈ events, event.Zoned) (organizer : Raw) :
    listing (events.map settled) organizer = (listing events organizer).map (List.map settled) := by
  have made (event : Event) : event.settled.made = event.made := by
    cases given : event.createdAt <;> simp [Event.made, settled, given]
  have zoned' : ∀ event ∈ events.map settled, event.Zoned := by
    intro event mem
    obtain ⟨old, inside, rfl⟩ := List.mem_map.mp mem
    obtain ⟨m, given, _⟩ := zoned old inside
    exact ⟨m.settled, by simp [settled, given], rfl⟩
  have chosen : chosen organizer (events.map settled) = (chosen organizer events).map settled := by
    unfold Event.chosen
    split
    · rfl
    · rw [List.filter_map]
      rfl
  rw [listingZoned zoned, listingZoned zoned', chosen]
  refine congrArg Except.ok (List.map_mergeSort fun a _ b _ => ?_).symm
  rw [made, made]

end Event

namespace View

def tiersOf (v : View) (id : EventId) : List Tier :=
  ((v.events.get? id).map Event.tiers).getD []

def Counted (v : View) (rows : Rows Decimal.Finite) (id : EventId) : Prop :=
  ∃ cents : Nat, cents < 10 ^ Decimal.precision ∧ ((v.revenue.get? id).getD .zero).Worth cents ∧
    ((rows.revenue.get? id).getD .zero).Worth cents

end View

structure Rows.Shows (rows : Rows Decimal.Finite) (v : View) : Prop where
  events : rows.events.map (·.toEvent []) = v.events.values.map Event.outline
  named : ∀ entry ∈ v.events.entries, entry.2.id = entry.1
  once : (v.events.entries.map Prod.fst).Nodup
  fit : ∀ event ∈ v.events.values, event.Fits
  tiers : ∀ id, TierRow.ofEvent id rows.tiers = (v.tiersOf id).map Tier.settled
  registrations : rows.registrations = v.registrations.values.map Registration.settled
  registered : ∀ entry ∈ v.registrations.entries, ∃ name,
    entry.2.attendee = .text name ∧ entry.1 = (entry.2.event, .named name)
  placed : ∀ r ∈ v.registrations.values, v.events.contains r.event = true
  escrow : rows.escrow = v.escrow
  priced : ∀ config, v.escrow = some config → config.currency.isLegible = true
  payments : rows.payments.mapKeys Label.numbered = v.payments.mapValues Payment.settled
  revenue : ∀ id, v.Counted rows id
  tickets : rows.tickets.mapKeys Label.numbered = v.tickets.mapValues Ticket.settled
  issued : ∀ label ticket, v.tickets.get? label = some ticket → ticket.Fits ∧ Label.ofRaw? ticket.id = some label
  holdings : ∀ owner, (rows.holdings.filter fun h => h.owner == .text owner).map (fun h => Raw.whole h.ticket) =
    v.ownerTickets (.named owner)
  held : ∀ h ∈ rows.holdings, rows.tickets.contains h.ticket = true
  lastPayment : rows.lastPayment = v.lastPayment
  lastTicket : rows.lastTicket = v.lastTicket

theorem Label.numberedOne : Function.Injective numbered := fun _ _ same => Label.numbered.inj same

namespace Rows.Shows
variable {rows : Rows Decimal.Finite} {v : View}

theorem empty : Rows.Shows .empty Tables.empty.view where
  events := rfl
  named := List.forall_mem_nil _
  once := List.nodup_nil
  fit := List.forall_mem_nil _
  tiers _ := rfl
  registrations := rfl
  registered := List.forall_mem_nil _
  placed := List.forall_mem_nil _
  escrow := rfl
  priced := by simp [Tables.empty, Tables.view]
  payments := rfl
  revenue id := by
    obtain ⟨_, is, worth⟩ := Decimal.zeroWorth
    cases is
    exact ⟨0, by decide, Decimal.zeroWorth, worth⟩
  tickets := rfl
  issued := by simp [Tables.empty, Tables.view, Table.getEmpty]
  holdings _ := rfl
  held := List.forall_mem_nil _
  lastPayment := rfl
  lastTicket := rfl

/-! Events -/

theorem fitOf (shows : rows.Shows v) {id : EventId} {event : Event} (stored : v.events.get? id = some event) :
    event.Fits ∧ event.id = id :=
  ⟨shows.fit event (Table.valueMem stored), shows.named _ (Table.memOfGet stored)⟩

theorem eventRow (shows : rows.Shows v) {event : Event} (mem : event ∈ v.events.values) :
    { event.outline with tiers := rows.tiersOf event.id } = event.settled := by
  have stored := Table.namedMem shows.named shows.once mem
  have ids : (event.tiers.map Tier.settled).map Tier.id =
      (List.range (event.tiers.map Tier.settled).length).map fun n : Nat => .whole n := by
    rw [List.map_map, List.length_map]
    exact (shows.fit event mem).ids
  have kept := shows.tiers event.id
  rw [View.tiersOf, stored] at kept
  rw [tiersOfNumbered kept ids]
  rfl

theorem listed (shows : rows.Shows v) :
    rows.events.map rows.eventOf = v.events.values.map Event.settled := by
  have rebuilt : rows.events.map rows.eventOf = (rows.events.map (·.toEvent [])).map fun event =>
      { event with tiers := rows.tiersOf event.id } := by
    rw [List.map_map]
    rfl
  rw [rebuilt, shows.events, List.map_map]
  exact List.map_congr_left fun event mem => shows.eventRow mem

theorem event (shows : rows.Shows v) (id : EventId) :
    rows.event? id = (v.events.get? id).map Event.settled := by
  have found : rows.event? id = (rows.events.map rows.eventOf).find? fun event => event.id == id := by
    rw [List.find?_map]
    rfl
  rw [found, shows.listed, List.find?_map, Table.getNamed shows.named]
  rfl

theorem hasEvent (shows : rows.Shows v) (id : EventId) : rows.hasEvent id = v.events.contains id := by
  have found : rows.hasEvent id = (rows.events.map (·.toEvent [])).any fun event => event.id == id := by
    rw [List.any_map]
    rfl
  rw [found, shows.events, List.any_map, Table.contains, Table.getNamed shows.named, Bool.eq_iff_iff,
    List.find?_isSome, List.any_eq_true]
  rfl

theorem linked (shows : rows.Shows v) : rows.linked = true := by
  simp only [Rows.linked, Bool.and_eq_true, List.all_eq_true]
  refine ⟨fun r mem => ?_, shows.held⟩
  rw [shows.registrations] at mem
  obtain ⟨old, inside, rfl⟩ := List.mem_map.mp mem
  rw [shows.hasEvent]
  exact shows.placed old inside

theorem tiersPut (shows : rows.Shows v) {event : Event} (fits : event.Fits)
    (more : ∀ old, v.events.get? event.id = some old → old.tiers.length ≤ event.tiers.length)
    (outlines : List EventRow) : ∃ saved,
      Rows.putTiers event.id event.tiers { rows with events := outlines } =
        .ok { rows with events := outlines, tiers := saved } ∧
      ∀ id, TierRow.ofEvent id saved = ((v.edit (.event event)).tiersOf id).map Tier.settled := by
  obtain ⟨saved, put, here, there⟩ := putTiersFit fits.tiers event.id { rows with events := outlines }
  refine ⟨saved, put, fun id => ?_⟩
  by_cases own : id = event.id
  · subst own
    have ids (event : Event) (fits : event.Fits) : (event.tiers.map Tier.settled).map Tier.id =
        (List.range (event.tiers.map Tier.settled).length).map fun n : Nat => .whole n := by
      rw [List.map_map, List.length_map]
      exact fits.ids
    have now : (v.edit (.event event)).tiersOf event.id = event.tiers := by
      simp [View.tiersOf, View.edit, Table.getPutSame]
    rw [here, shows.tiers, now, View.tiersOf]
    cases stored : v.events.get? event.id with
    | none => exact Event.putAllNumbered rfl (ids event fits) (Nat.zero_le _)
    | some old =>
      refine Event.putAllNumbered (ids old (shows.fitOf stored).1) (ids event fits) ?_
      simpa using more old stored
  · rw [there id own]
    refine (shows.tiers id).trans ?_
    have kept : (v.edit (.event event)).events.get? id = v.events.get? id := Table.getPutOther _ own _
    rw [View.tiersOf, View.tiersOf, kept]

theorem addEvent (shows : rows.Shows v) {event : Event} (fits : event.Fits)
    (free : v.events.get? event.id = none) :
    ∃ after, rows.addEvent event = .ok after ∧ after.Shows (v.edit (.event event)) := by
  obtain ⟨row, made, is⟩ := EventRow.ofEventFits fits
  obtain ⟨saved, put, tiers⟩ := shows.tiersPut fits (fun old stored => by rw [free] at stored; cases stored)
    (rows.events ++ [row])
  have new : rows.hasEvent event.id = false := by
    rw [shows.hasEvent, Table.contains, free]
    rfl
  have values : (v.edit (.event event)).events.values = v.events.values ++ [event] :=
    Table.putNewValues free event
  refine ⟨{ rows with events := rows.events ++ [row], tiers := saved }, ?_, { shows with
    events := ?_, named := ?_, once := Table.putNewOnce free shows.once event, fit := ?_,
    tiers := tiers, placed := fun r mem => Table.containsPut _ _ _ _ (shows.placed r mem) }⟩
  · rw [Rows.addEvent, addEventRow, made, new]
    exact put
  · rw [values, List.map_append, List.map_append, shows.events]
    exact congrArg _ (congrArg (fun event => [event]) is)
  · exact Table.putKnownEntries shows.named
  · intro other mem
    rw [values] at mem
    rcases List.mem_append.mp mem with old | here
    · exact shows.fit other old
    · exact List.mem_singleton.mp here ▸ fits

theorem saveEvent (shows : rows.Shows v) {event old : Event} (fits : event.Fits)
    (stored : v.events.get? event.id = some old) (more : old.tiers.length ≤ event.tiers.length) :
    ∃ after, rows.saveEvent event = .ok after ∧ after.Shows (v.edit (.event event)) := by
  obtain ⟨row, made, is⟩ := EventRow.ofEventFits fits
  have id : row.id = event.id := congrArg Event.id is
  obtain ⟨saved, put, tiers⟩ := shows.tiersPut fits (fun other there => by cases stored.symm.trans there; exact more)
    (rows.events.map fun old => if old.id = event.id then row else old)
  have known : v.events.contains event.id = true := by
    rw [Table.contains, stored]
    rfl
  have values : (v.edit (.event event)).events.values =
      v.events.values.map fun old => if old.id = event.id then event else old :=
    Table.putNamedValues shows.named shows.once known
  let outlines := rows.events.map fun old => if old.id = event.id then row else old
  refine ⟨{ rows with events := outlines, tiers := saved }, ?_, { shows with
    events := ?_, named := Table.putKnownEntries shows.named, once := Table.putOnce shows.once _ event,
    fit := ?_, tiers := tiers, placed := fun r mem => Table.containsPut _ _ _ _ (shows.placed r mem) }⟩
  · rw [Rows.saveEvent, saveEventRow, shows.hasEvent, known, made]
    exact put
  · have swapped : (rows.events.map fun old => if old.id = event.id then row else old).map (·.toEvent []) =
        (rows.events.map (·.toEvent [])).map fun old => if old.id = event.id then event.outline else old := by
      rw [List.map_map, List.map_map]
      refine List.map_congr_left fun old _ => ?_
      simp only [Function.comp, apply_ite (EventRow.toEvent · []), is]
      rfl
    rw [swapped, shows.events, values, List.map_map, List.map_map]
    refine List.map_congr_left fun old _ => ?_
    simp only [Function.comp, apply_ite Event.outline]
    rfl
  · intro other mem
    rw [values] at mem
    obtain ⟨before, inside, rfl⟩ := List.mem_map.mp mem
    split
    · exact fits
    · exact shows.fit before inside

theorem zoned (shows : rows.Shows v) : ∀ event ∈ v.events.values, event.Zoned := by
  intro event mem
  obtain ⟨m, made, _, zone⟩ := (shows.fit event mem).createdAt
  exact ⟨m, made, zone⟩

theorem listing (shows : rows.Shows v) (organizer : Raw) :
    BoxOffice.listing (rows.events.map rows.eventOf) organizer =
      (BoxOffice.listing v.events.values organizer).map (List.map Event.settled) := by
  rw [shows.listed, Event.listingSettled shows.zoned]

/-! Registrations and the escrow -/

theorem isRegistered (shows : rows.Shows v) (id : EventId) (name : String) :
    (rows.registrations.any fun r => r.event == id && r.attendee == .text name) =
      v.registrations.contains (id, .named name) := by
  rw [shows.registrations, List.any_map, Bool.eq_iff_iff, List.any_eq_true, Table.containsMem]
  constructor
  · rintro ⟨r, mem, same⟩
    obtain ⟨entry, inside, rfl⟩ := List.mem_map.mp mem
    obtain ⟨other, called, key⟩ := shows.registered entry inside
    simp only [Function.comp, Registration.settled, Bool.and_eq_true, beq_iff_eq, called,
      Raw.text.injEq] at same
    exact List.mem_map.mpr ⟨entry, inside, by rw [key, same.1, same.2]⟩
  · intro mem
    obtain ⟨entry, inside, key⟩ := List.mem_map.mp mem
    obtain ⟨other, called, key'⟩ := shows.registered entry inside
    obtain ⟨rfl, same⟩ := Prod.mk.inj (key'.symm.trans key)
    cases same
    refine ⟨entry.2, List.mem_map_of_mem inside, ?_⟩
    simp [Registration.settled, called]

theorem addRegistration (shows : rows.Shows v) {r : Registration} (fits : r.Fits) {name : String}
    (called : r.attendee = .text name) (free : v.registrations.get? (r.event, .named name) = none)
    (there : v.events.contains r.event = true) :
    ∃ after, rows.addRegistration r = .ok after ∧
      after.Shows ((v.edit (.registration (.named name) r)).edit (.attendee r.event r.attendee)) := by
  have absent : (rows.registrations.any fun old => old.event == r.event && old.attendee == r.attendee) = false := by
    rw [called, shows.isRegistered, Table.contains, free]
    rfl
  let after := (v.edit (.registration (.named name) r)).edit (.attendee r.event r.attendee)
  have entries : after.registrations.entries = v.registrations.entries ++ [((r.event, .named name), r)] :=
    Table.putNew free r
  have values : after.registrations.values = v.registrations.values ++ [r] := Table.putNewValues free r
  refine ⟨_, addRegistrationFits fits rows absent, { shows with
    registrations := ?_, registered := fun entry mem => ?_, placed := fun other mem => ?_ }⟩
  · rw [values, List.map_append, ← shows.registrations]
    rfl
  · rw [entries] at mem
    rcases List.mem_append.mp mem with old | new
    · exact shows.registered entry old
    · obtain rfl := List.mem_singleton.mp new
      exact ⟨name, called, rfl⟩
  · rw [values] at mem
    rcases List.mem_append.mp mem with old | new
    · exact shows.placed other old
    · exact List.mem_singleton.mp new ▸ there

theorem setEscrow (shows : rows.Shows v) {config : EscrowConfig} (admin : config.admin.isLegible = true)
    (currency : config.currency.isLegible = true) :
    ∃ after, rows.setEscrow config = .ok after ∧ after.Shows (v.edit (.escrow config)) := by
  refine ⟨{ rows with escrow := some config }, ?_,
    { shows with escrow := rfl, priced := fun _ set => by cases set; exact currency }⟩
  have given : (config.admin != .nothing && config.currency != .nothing) = true := by
    simp [Raw.legibleGiven admin, Raw.legibleGiven currency]
  rw [Rows.setEscrow, Raw.legibleInColumn admin, bindPassed, Raw.legibleInColumn currency, bindPassed, given]
  rfl

end Rows.Shows
end BoxOffice
