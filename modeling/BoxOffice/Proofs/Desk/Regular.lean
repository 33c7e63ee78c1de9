import BoxOffice.Proofs.Desk.Effect
import BoxOffice.Proofs.Event
import BoxOffice.Proofs.Store.Works

/-! Regular records stay regular whatever takes effect, so the numbers that a log line or the next
tier needs can always be had. -/
namespace BoxOffice

namespace Raw

theorem ofRawNumber {a : Raw} {n : Int} (number : a.number? = some n) : Quantity.ofRaw a = .ok (.whole n) := by
  cases a with
  | truth _ | whole _ =>
    cases number
    rfl
  | nothing | fraction _ | text _ | list _ | record _ => cases number

theorem belowNumbers {a b : Raw} {m n : Int} (first : a.number? = some m) (second : b.number? = some n) :
    a.isBelow b = .ok (decide (m < n)) := by
  rw [isBelow, ofRawNumber first, ofRawNumber second]
  exact congrArg Except.ok (Quantity.isBelowWhole m n)

theorem belowWhole (a b : Int) : (whole a).isBelow (whole b) = .ok (decide (a < b)) :=
  belowNumbers rfl rfl

theorem wholePartOfKey {given : Raw} {n : Int} (key : given.key = whole n) :
    ∃ m, given.wholePart = .ok m := by
  cases given with
  | truth value => exact ⟨_, rfl⟩
  | whole value => exact ⟨value, rfl⟩
  | fraction value =>
    cases value with
    | finite value => exact ⟨_, rfl⟩
    | infinite negative => simp [Raw.key, Floating.whole?] at key
    | nan => simp [Raw.key, Floating.whole?] at key
  | nothing | text _ | list _ | record _ => simp [Raw.key] at key

theorem keyOfLabel {given : Raw} {n : Int} (label : Label.ofRaw? given = some (.numbered n)) :
    given.key = whole n := by
  unfold Label.ofRaw? at label
  split at label <;> cases label
  assumption

theorem sameWhole {n : Int} {given : Raw} : (whole n).same given = true ↔ given.key = whole n := by
  have number : whole n ≠ fraction .nan := by simp
  rw [sameIffAlike number, alikeIffKey]
  exact eq_comm

theorem sameWholes {a b : Raw} {m n : Int} (ha : a = whole m) (hb : b = whole n) :
    a.same b = true ↔ a = b := by
  subst ha hb
  rw [sameWhole]
  exact eq_comm

end Raw

def Tier.number? (tier : Tier) : Option Int :=
  tier.id.number?

namespace Tier

theorem numberWhole {tier : Tier} {n : Int} (id : tier.id = .whole n) : tier.number? = some n := by
  rw [number?, id]
  rfl

theorem freshRegular (n : Int) (name : Raw) (price : Money) (capacity : Int) :
    (fresh (.whole n) name price capacity).Regular :=
  ⟨⟨n, rfl⟩, ⟨capacity, rfl⟩, ⟨0, rfl⟩⟩

theorem changeRegular {settings : Settings} {changes : TierChanges} {tier updated : Tier}
    (regular : tier.Regular) (ok : tier.change settings changes = .ok updated) : updated.Regular := by
  obtain ⟨id, sold, capacity⟩ := changeOk ok
  refine ⟨id ▸ regular.id, ?_, sold ▸ regular.sold⟩
  obtain same | ⟨n, _, is, _⟩ := capacity
  · exact same ▸ regular.capacity
  · exact ⟨n, is⟩

theorem sellRegular {tier sold : Tier} (regular : tier.Regular) (ok : tier.sell = .ok sold) :
    sold.Regular := by
  obtain ⟨n, is⟩ := regular.sold
  rw [sellWhole is] at ok
  cases ok
  exact ⟨regular.id, regular.capacity, _, rfl⟩

end Tier

namespace Event

theorem greatestNumbered {first : Raw} {rest : List Raw} {n : Int} (number : first.number? = some n)
    (numbers : ∀ id ∈ rest, ∃ m, id.number? = some m) :
    ∃ most ∈ first :: rest, ∃ k, greatest first rest = .ok most ∧ most.number? = some k ∧
      ∀ id ∈ first :: rest, ∀ m, id.number? = some m → m ≤ k := by
  induction rest generalizing first n with
  | nil =>
    refine ⟨first, List.mem_cons_self, n, rfl, number, fun id mem m is => ?_⟩
    rw [List.mem_singleton.mp mem, number] at is
    exact Int.le_of_eq (Option.some.inj is).symm
  | cons next rest ih =>
    obtain ⟨⟨m, follows⟩, numbers⟩ := List.forall_mem_cons.mp numbers
    have step : greatest first (next :: rest) = greatest (if n < m then next else first) rest := by
      rw [greatest, Raw.belowNumbers number follows]
      by_cases below : n < m <;> simp [below, bind, Except.bind]
    have chosen : (if n < m then next else first).number? = some (if n < m then m else n) := by
      split
      · exact follows
      · exact number
    obtain ⟨most, mem, k, found, is, all⟩ := ih chosen numbers
    have least := all _ List.mem_cons_self _ chosen
    refine ⟨most, ?_, k, step.trans found, is, fun id listed j named => ?_⟩
    · rcases List.mem_cons.mp mem with rfl | later
      · split <;> simp
      · exact List.mem_cons_of_mem _ (List.mem_cons_of_mem _ later)
    · rcases List.mem_cons.mp listed with rfl | listed
      · cases number.symm.trans named
        split at least <;> omega
      rcases List.mem_cons.mp listed with rfl | later
      · cases follows.symm.trans named
        split at least <;> omega
      · exact all id (List.mem_cons_of_mem _ later) j named

theorem nextTierIdNumber {event : Event} (numbers : ∀ tier ∈ event.tiers, ∃ m, tier.number? = some m) :
    ∃ next : Int, event.nextTierId = .ok (.whole next) ∧
      (event.tiers = [] → next = 0) ∧ (event.tiers ≠ [] → some (next - 1) ∈ event.tiers.map Tier.number?) ∧
      ∀ tier ∈ event.tiers, ∀ m, tier.number? = some m → m < next := by
  unfold nextTierId
  cases tiers : event.tiers with
  | nil => exact ⟨0, rfl, fun _ => rfl, fun some => absurd rfl some, nofun⟩
  | cons first rest =>
    rw [tiers] at numbers
    obtain ⟨⟨n, number⟩, numbers⟩ := List.forall_mem_cons.mp numbers
    have ids : ∀ id ∈ rest.map Tier.id, ∃ m, id.number? = some m := List.forall_mem_map.mpr numbers
    obtain ⟨most, mem, k, found, is, all⟩ := greatestNumbered number ids
    refine ⟨k + 1, ?_, nofun, fun _ => ?_, fun tier listed m named => ?_⟩
    · simp only [found, bind, Except.bind, Raw.plus, Raw.ofRawNumber is]
      rfl
    · rw [Int.add_sub_cancel, ← is]
      obtain ⟨tier, listed, rfl⟩ := List.mem_map.mp (show most ∈ (first :: rest).map Tier.id from mem)
      exact List.mem_map.mpr ⟨tier, listed, rfl⟩
    · have := all tier.id (List.mem_map_of_mem (f := Tier.id) listed) m named
      omega

theorem nextTierIdWhole {event : Event} (regular : ∀ tier ∈ event.tiers, tier.Regular) :
    ∃ next : Int, event.nextTierId = .ok (.whole next) ∧
      ∀ tier ∈ event.tiers, ∀ n : Int, tier.id = .whole n → n < next := by
  have numbers : ∀ tier ∈ event.tiers, ∃ n, tier.number? = some n := by
    intro tier mem
    obtain ⟨n, id⟩ := (regular tier mem).id
    exact ⟨n, Tier.numberWhole id⟩
  obtain ⟨next, is, _, _, above⟩ := nextTierIdNumber numbers
  exact ⟨next, is, fun tier mem n id => above tier mem n (Tier.numberWhole id)⟩

theorem nextTierIdNumbered {event : Event}
    (ids : event.tiers.map Tier.id = (List.range event.tiers.length).map fun n : Nat => .whole n) :
    event.nextTierId = .ok (.whole event.tiers.length) := by
  have numbers : event.tiers.map Tier.number? = (List.range event.tiers.length).map fun n : Nat => some (n : Int) := by
    have looked := congrArg (List.map Raw.number?) ids
    rwa [List.map_map, List.map_map] at looked
  have listed (tier : Tier) (mem : tier ∈ event.tiers) : ∃ n : Int, tier.number? = some n := by
    obtain ⟨n, _, is⟩ := List.mem_map.mp (numbers ▸ List.mem_map_of_mem (f := Tier.number?) mem)
    exact ⟨n, is.symm⟩
  obtain ⟨next, is, none, greatest, above⟩ := nextTierIdNumber listed
  rw [is]
  by_cases empty : event.tiers = []
  · rw [none empty, empty]
    rfl
  · have many := List.length_pos_iff.mpr empty
    obtain ⟨k, inside, most⟩ := List.mem_map.mp (numbers ▸ greatest empty)
    have last : some ((event.tiers.length - 1 : Nat) : Int) ∈ event.tiers.map Tier.number? := by
      rw [numbers]
      exact List.mem_map.mpr ⟨_, List.mem_range.mpr (by omega), rfl⟩
    obtain ⟨tier, mem, last⟩ := List.mem_map.mp last
    have top := above tier mem _ last
    have next : next = event.tiers.length := by
      have inside := List.mem_range.mp inside
      have most := Option.some.inj most
      omega
    rw [next]

theorem tierMem {event : Event} {named : Raw} {tier : Tier} (found : event.tier? named = some tier) :
    tier ∈ event.tiers ∧ tier.id.same named = true := by
  unfold tier? at found
  exact ⟨List.mem_of_find?_eq_some found, by simpa using List.find?_some found⟩

theorem namedWhole {event : Event} {named : Raw} {tier : Tier} (found : event.tier? named = some tier)
    (regular : ∀ tier ∈ event.tiers, tier.Regular) : ∃ n : Int, tier.id = .whole n ∧ named.key = .whole n := by
  obtain ⟨mem, same⟩ := tierMem found
  obtain ⟨n, id⟩ := (regular tier mem).id
  rw [id] at same
  exact ⟨n, id, Raw.sameWhole.mp same⟩

end Event

namespace View
variable {v : View}

theorem regularEvent (regular : v.Regular) {event : Event} (tiers : ∀ tier ∈ event.tiers, tier.Regular) :
    (v.edit (.event event)).Regular where
  named {id found} stored := by
    by_cases same : id = event.id
    · subst same
      simp only [edit, Table.getPutSame, Option.some.injEq] at stored
      rw [stored]
    · simp only [edit, Table.getPutOther _ same] at stored
      exact regular.named stored
  tiers {id found} stored := by
    by_cases same : id = event.id
    · subst same
      simp only [edit, Table.getPutSame, Option.some.injEq] at stored
      exact stored ▸ tiers
    · simp only [edit, Table.getPutOther _ same] at stored
      exact regular.tiers stored
  ticket := regular.ticket

theorem regularTicket (regular : v.Regular) {n : Int} {ticket : Ticket} (id : ticket.id = .whole n) :
    (v.edit (.ticket (.numbered n) ticket)).Regular where
  named := regular.named
  tiers := regular.tiers
  ticket {label found} stored := by
    by_cases same : label = .numbered n
    · subst same
      simp only [edit, Table.getPutSame, Option.some.injEq] at stored
      exact ⟨n, rfl, stored ▸ id⟩
    · simp only [edit, Table.getPutOther _ same] at stored
      exact regular.ticket stored

theorem regularElsewhere {w : View} (regular : v.Regular) (events : w.events = v.events)
    (tickets : w.tickets = v.tickets) : w.Regular where
  named stored := regular.named (events ▸ stored)
  tiers stored := regular.tiers (events ▸ stored)
  ticket stored := regular.ticket (tickets ▸ stored)

theorem handedOver (v : View) (label : Label) (ticket : Ticket) (id : Raw) (giver taker : Label) :
    ∃ ownerTickets, (Edit.ticket label ticket :: v.disowning id giver ++ [Edit.ownTicket taker id]).foldl edit v =
      { v.edit (.ticket label ticket) with ownerTickets } := by
  unfold disowning
  split <;> exact ⟨_, rfl⟩

end View

namespace Desk.Effect
variable {desk : Desk Journal} {request : Operation} {edits : List Edit} {funds : Funds}
  {told : List Notice} {answer : Answer}

theorem regular (effect : desk.Effect request edits funds told answer) (regular : desk.view.Regular) :
    (edits.foldl View.edit desk.view).Regular := by
  have withTier {event : Event} {tier : Tier} (stored : desk.view.events.get? event.id = some event)
      (fine : tier.Regular) : (desk.view.edit (.event (event.withTier tier))).Regular :=
    View.regularEvent regular fun other mem => (Event.memPutTier mem).elim (· ▸ fine)
      (regular.tiers stored other)
  cases effect with
  | created verified named drafted free =>
    refine View.regularEvent regular fun tier mem => ?_
    obtain ⟨n, name, price, capacity, _, rfl⟩ := (Event.draftOk drafted).tier.2 tier mem
    exact Tier.freshRegular n name price capacity
  | detailsUpdated owns editable some changed =>
    obtain ⟨name, description, venue, date, rfl⟩ := Event.changeOk changed
    exact View.regularEvent regular fun tier mem => regular.tiers owns.stored tier mem
  | tierAdded owns editable next made =>
    obtain ⟨n, same, _⟩ := Event.nextTierIdWhole (regular.tiers owns.stored)
    cases next.symm.trans same
    obtain ⟨name, price, capacity, _, _, _, rfl⟩ := Tier.ofSpecOk made
    exact withTier owns.stored (Tier.freshRegular n name price capacity)
  | tierUpdated owns editable found some changed =>
    exact withTier owns.stored
      (Tier.changeRegular (regular.tiers owns.stored _ (Event.tierMem found).1) changed)
  | statusUpdated owns known allowed =>
    exact View.regularEvent regular fun tier mem => regular.tiers owns.stored tier mem
  | cancelled owns allowed =>
    exact View.regularEvent regular fun tier mem => regular.tiers owns.stored tier mem
  | registered verified names active found party free places sells =>
    exact View.regularElsewhere (withTier names.stored
      (Tier.sellRegular (regular.tiers names.stored _ (Event.tierMem found).1) sells)) rfl rfl
  | escrowSet verified given free => exact View.regularElsewhere regular rfl rfl
  | paid => exact View.regularElsewhere regular rfl rfl
  | minted verified named someone issues party =>
    exact View.regularElsewhere (View.regularTicket regular rfl) rfl rfl
  | @ticketTransferred source target given label ticket giver taker verified differ someone holds =>
    obtain ⟨n, rfl, id⟩ := regular.ticket holds.stored
    let handed := { ticket with owner := target }
    have kept : (desk.view.edit (.ticket (.numbered n) handed)).Regular := View.regularTicket regular id
    obtain ⟨lists, moved⟩ := View.handedOver desk.view (.numbered n) handed given giver taker
    rw [moved]
    exact View.regularElsewhere kept rfl rfl
  | ticketUsed verified holds own valid =>
    obtain ⟨n, rfl, id⟩ := regular.ticket holds.stored
    exact View.regularTicket regular id
  | ticketCancelled verified holds own valid =>
    obtain ⟨n, rfl, id⟩ := regular.ticket holds.stored
    exact View.regularTicket regular id

end Desk.Effect
end BoxOffice
