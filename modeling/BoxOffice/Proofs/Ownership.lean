import Mathlib
import BoxOffice.Proofs.Desk.Growth
import BoxOffice.Proofs.Desk.Quiet
import BoxOffice.Proofs.Store.Series

/-! Who owns which ticket. A ticket names its owner, and the lists of owners are moved by a call of their
own; whatever is minted, handed on, used or cancelled, each ticket is on the list of its owner alone. -/
namespace BoxOffice

namespace View
variable {v w : View}

structure Ownership (v : View) : Prop where
  series : Series Ticket.id Ticket.event v.tickets v.lastTicket v.eventTickets
  owned : ∀ {label ticket}, v.tickets.get? label = some ticket →
    ∃ owner, Label.ofRaw? ticket.owner = some owner ∧
      ∀ other, (v.ownerTickets other).count ticket.id = if other = owner then 1 else 0
  listed : ∀ {owner item}, item ∈ v.ownerTickets owner → ∃ ticket ∈ v.tickets.values, ticket.id = item

theorem emptyOwnership : Tables.empty.view.Ownership :=
  ⟨.empty _ _, nofun, nofun⟩

theorem ownershipElsewhere (ownership : v.Ownership) (tickets : w.tickets = v.tickets)
    (count : w.lastTicket = v.lastTicket) (events : w.eventTickets = v.eventTickets)
    (owners : w.ownerTickets = v.ownerTickets) : w.Ownership where
  series := by
    rw [tickets, count, events]
    exact ownership.series
  owned stored := by
    rw [owners]
    exact ownership.owned (tickets ▸ stored)
  listed mem := by
    rw [tickets]
    exact ownership.listed (owners ▸ mem)

def owning (lists : Label → List Raw) (owner : Label) (id : Raw) : Label → List Raw :=
  Function.update lists owner (lists owner ++ [id])

def losing (lists : Label → List Raw) (owner : Label) (id : Raw) : Label → List Raw :=
  Function.update lists owner ((lists owner).erase id)

theorem countOwning (lists : Label → List Raw) (owner other : Label) (id item : Raw) :
    (owning lists owner id other).count item =
      (lists other).count item + if other = owner ∧ id = item then 1 else 0 := by
  unfold owning
  by_cases here : other = owner
  · subst here
    by_cases same : id = item <;> simp [same]
  · simp [here]

theorem countLosing (lists : Label → List Raw) (owner other : Label) (id item : Raw) :
    (losing lists owner id other).count item =
      (lists other).count item - if other = owner ∧ id = item then 1 else 0 := by
  unfold losing
  by_cases here : other = owner
  · subst here
    by_cases same : id = item
    · simp [same]
    · simp [same, List.count_erase_of_ne (Ne.symm same)]
  · simp [here]

theorem memOwning {lists : Label → List Raw} {owner other : Label} {id item : Raw}
    (mem : item ∈ owning lists owner id other) : item ∈ lists other ∨ item = id := by
  unfold owning at mem
  by_cases here : other = owner
  · subst here
    rw [Function.update_self] at mem
    exact (List.mem_append.mp mem).imp_right List.mem_singleton.mp
  · rw [Function.update_of_ne here] at mem
    exact .inl mem

theorem memLosing {lists : Label → List Raw} {owner other : Label} {id item : Raw}
    (mem : item ∈ losing lists owner id other) : item ∈ lists other := by
  unfold losing at mem
  by_cases here : other = owner
  · subst here
    rw [Function.update_self] at mem
    exact List.mem_of_mem_erase mem
  · rwa [Function.update_of_ne here] at mem

theorem disowned (v : View) (id : Raw) (owner : Label) :
    (v.disowning id owner).foldl edit v = { v with ownerTickets := losing v.ownerTickets owner id.key } := by
  unfold disowning losing
  have position : (v.ownerTickets owner).idxOf? id.key =
      (v.ownerTickets owner).findIdx? (· == id.key) := rfl
  rw [List.erase_eq_eraseIdx, position]
  cases (v.ownerTickets owner).findIdx? (· == id.key) with
  | none =>
    exact congrArg (fun ownerTickets => { v with ownerTickets }) (Function.update_eq_self ..).symm
  | some position => rfl

theorem handedTo (v : View) (label : Label) (ticket : Ticket) (id : Raw) (giver taker : Label) :
    (Edit.ticket label ticket :: v.disowning id giver ++ [Edit.ownTicket taker id]).foldl edit v =
      { v.edit (.ticket label ticket) with
        ownerTickets := owning (losing v.ownerTickets giver id.key) taker id.key } := by
  have taken := disowned (v.edit (.ticket label ticket)) id giver
  rw [List.foldl_append, List.foldl_cons]
  exact congrArg (edit · (.ownTicket taker id)) taken

theorem ownershipKept (ownership : v.Ownership) {label : Label} {old ticket : Ticket}
    (stored : v.tickets.get? label = some old) (named : ticket.id = old.id) (kept : ticket.event = old.event)
    (own : ticket.owner = old.owner) : (v.edit (.ticket label ticket)).Ownership where
  series := ownership.series.again stored named kept
  owned {other found} there := by
    by_cases here : other = label
    · subst here
      cases (Table.getPutSame _ _ _).symm.trans there
      rw [named, own]
      exact ownership.owned stored
    · exact ownership.owned ((Table.getPutOther _ here _).symm.trans there)
  listed mem := by
    obtain ⟨found, inside, rfl⟩ := ownership.listed mem
    have ids := (ownership.series.again stored named kept).ids.trans ownership.series.ids.symm
    have there : found.id ∈ (v.tickets.put label ticket).values.map Ticket.id :=
      ids ▸ List.mem_map_of_mem inside
    obtain ⟨kept, inside, same⟩ := List.mem_map.mp there
    exact ⟨kept, inside, same⟩

theorem ownershipNew (ownership : v.Ownership) {ticket : Ticket} {owner : Label}
    (is : ticket.id = .whole (v.lastTicket + 1 : Nat)) (party : Label.ofRaw? ticket.owner = some owner) :
    ([Edit.lastTicket (v.lastTicket + 1), .ticket (.numbered (v.lastTicket + 1 : Nat)) ticket,
      .ownTicket owner ticket.id, .eventTicket ticket.event ticket.id].foldl edit v).Ownership := by
  have key : ticket.id.key = ticket.id := by
    rw [is]
    rfl
  have lists : ([Edit.lastTicket (v.lastTicket + 1), .ticket (.numbered (v.lastTicket + 1 : Nat)) ticket,
      .ownTicket owner ticket.id, .eventTicket ticket.event ticket.id].foldl edit v).ownerTickets =
      owning v.ownerTickets owner ticket.id.key := rfl
  rw [key] at lists
  have values := Table.putNewValues ownership.series.fresh ticket
  have unlisted (other : Label) : (v.ownerTickets other).count ticket.id = 0 := by
    refine List.count_eq_zero_of_not_mem fun mem => ?_
    obtain ⟨found, inside, same⟩ := ownership.listed mem
    obtain ⟨n, named, stored⟩ := ownership.series.stored inside
    cases named.symm.trans (same.trans is)
    rw [ownership.series.fresh] at stored
    cases stored
  refine ⟨ownership.series.next is, fun {label found} stored => ?_, fun {other item} mem => ?_⟩
  · by_cases here : label = .numbered (v.lastTicket + 1 : Nat)
    · subst here
      cases (Table.getPutSame _ _ _).symm.trans stored
      refine ⟨owner, party, fun other => ?_⟩
      rw [lists, countOwning, unlisted, Nat.zero_add]
      simp
    · have known := (Table.getPutOther _ here _).symm.trans stored
      obtain ⟨own, party', count⟩ := ownership.owned known
      refine ⟨own, party', fun other => ?_⟩
      obtain ⟨n, _, within, _, named⟩ := ownership.series.number known
      have apart : ticket.id ≠ found.id := by
        rw [is, named]
        simp
        omega
      have none : ¬(other = owner ∧ ticket.id = found.id) := fun both => apart both.2
      rw [lists, countOwning, count, if_neg none, Nat.add_zero]
  · rw [lists] at mem
    obtain known | same := memOwning mem
    · obtain ⟨found, inside, same⟩ := ownership.listed known
      exact ⟨found, values ▸ List.mem_append_left _ inside, same⟩
    · exact ⟨ticket, values ▸ List.mem_append_right _ (List.mem_singleton_self _), same.symm⟩

theorem ownershipHanded (ownership : v.Ownership) {label giver taker : Label} {ticket : Ticket}
    {target id : Raw} (stored : v.tickets.get? label = some ticket) (named : id.key = ticket.id)
    (own : Label.ofRaw? ticket.owner = some giver) (other : Label.ofRaw? target = some taker)
    (differ : giver ≠ taker) :
    ((Edit.ticket label { ticket with owner := target } :: v.disowning id giver ++
      [Edit.ownTicket taker id]).foldl edit v).Ownership := by
  rw [handedTo, named]
  have series : Series Ticket.id Ticket.event (v.tickets.put label { ticket with owner := target })
      v.lastTicket v.eventTickets := ownership.series.again stored rfl rfl
  have count (holder : Label) (item : Raw) :
      (owning (losing v.ownerTickets giver ticket.id) taker ticket.id holder).count item =
        (v.ownerTickets holder).count item - (if holder = giver ∧ ticket.id = item then 1 else 0) +
          if holder = taker ∧ ticket.id = item then 1 else 0 := by
    rw [countOwning, countLosing]
  refine ⟨series, fun {key found} there => ?_, fun {holder item} mem => ?_⟩
  · by_cases here : key = label
    · subst here
      cases (Table.getPutSame _ _ _).symm.trans there
      obtain ⟨owner, party, once⟩ := ownership.owned stored
      cases own.symm.trans party
      refine ⟨taker, other, fun holder => ?_⟩
      rw [count, once]
      by_cases first : holder = giver
      · subst first
        simp [differ]
      · simp [first]
    · have known := (Table.getPutOther _ here _).symm.trans there
      obtain ⟨owner, party, once⟩ := ownership.owned known
      have apart : ticket.id ≠ found.id := by
        obtain ⟨m, _, _, rfl, mine⟩ := ownership.series.number stored
        obtain ⟨n, _, _, rfl, its⟩ := ownership.series.number known
        rw [mine, its]
        intro same
        exact here (congrArg Label.numbered (Raw.whole.inj same).symm)
      refine ⟨owner, party, fun holder => ?_⟩
      rw [count, once]
      simp [apart]
  · have ids := series.ids.trans ownership.series.ids.symm
    have there : item ∈ v.tickets.values.map Ticket.id := by
      obtain known | rfl := memOwning mem
      · obtain ⟨found, inside, rfl⟩ := ownership.listed (memLosing known)
        exact List.mem_map_of_mem inside
      · exact List.mem_map_of_mem (Table.valueMem stored)
    rw [← ids] at there
    obtain ⟨kept, inside, same⟩ := List.mem_map.mp there
    exact ⟨kept, inside, same⟩

end View

namespace Raw

theorem numberOfKey {given : Raw} (key : given.key = fraction .nan) : given = fraction .nan := by
  cases given with
  | fraction value =>
    simp only [Raw.key] at key
    split at key
    · cases key
    · exact key
  | truth _ | whole _ | nothing | text _ | list _ | record _ => simp [Raw.key] at key

theorem labelsDiffer {owner source target : Raw} {giver taker : Label} (own : owner.same source = true)
    (differ : source.same target = false) (party : Label.ofRaw? source = some giver)
    (other : Label.ofRaw? target = some taker) : Label.ofRaw? owner = some giver ∧ giver ≠ taker := by
  obtain ⟨alike, number⟩ := Bool.and_eq_true_iff.mp own
  have keys : owner.key = source.key := alikeIffKey.mp alike
  refine ⟨?_, ?_⟩
  · rw [← party, Label.ofRaw?, Label.ofRaw?, keys]
  · rintro rfl
    have alike' : source.alike target = true := (Label.alikeIffLabel party other).mpr rfl
    rw [same, alike', Bool.true_and, bne_eq_false_iff_eq] at differ
    subst differ
    -- Only what is no number does not equal its like, and an owner of that kind owns nothing.
    rw [numberOfKey keys] at number
    simp at number

end Raw

def Operation.issue : Operation → Option (Raw × Raw)
  | mintTicket organizer given _ => some (organizer, given)
  | _ => none

def View.issued (v : View) : List (Raw × Raw) :=
  v.tickets.values.map fun ticket => (ticket.organizer, .text ticket.event.text)

theorem View.issuedKept {v : View} {label : Label} {old ticket : Ticket}
    (stored : v.tickets.get? label = some old) (organizer : ticket.organizer = old.organizer)
    (event : ticket.event = old.event) : (v.edit (.ticket label ticket)).issued = v.issued :=
  Table.putKnownValues stored _ (by rw [organizer, event])

namespace Desk.Effect
variable {desk : Desk Journal} {request : Operation} {edits : List Edit} {funds : Funds}
  {told : List Notice} {answer : Answer}

theorem ownership (effect : desk.Effect request edits funds told answer) (regular : desk.view.Regular)
    (ownership : desk.view.Ownership) : (edits.foldl View.edit desk.view).Ownership := by
  cases effect with
  | @minted organizer given owner id label verified named someone issues party =>
    let ticket : Ticket := ⟨.whole desk.nextTicket, id, organizer, owner, desk.clock, .valid⟩
    exact @View.ownershipNew _ ownership ticket label rfl party
  | @ticketTransferred source target given label ticket giver taker verified differ someone holds own valid
      party other =>
    obtain ⟨own', differ'⟩ := Raw.labelsDiffer own differ party other
    obtain ⟨n, rfl, id⟩ := regular.ticket holds.stored
    exact View.ownershipHanded ownership holds.stored ((Raw.keyOfLabel holds.named).trans id.symm) own' other
      differ'
  | ticketUsed verified holds own valid => exact View.ownershipKept ownership holds.stored rfl rfl rfl
  | ticketCancelled verified holds own valid => exact View.ownershipKept ownership holds.stored rfl rfl rfl
  | _ => exact View.ownershipElsewhere ownership rfl rfl rfl rfl

theorem issuedGrows (effect : desk.Effect request edits funds told answer)
    (ownership : desk.view.Ownership) :
    (edits.foldl View.edit desk.view).issued = desk.view.issued ++ request.issue.toList := by
  cases effect with
  | @minted organizer given owner id label verified named someone issues party =>
    subst named
    exact (congrArg _ (Table.putNewValues ownership.series.fresh _)).trans List.map_append
  | @ticketTransferred source target given label ticket giver taker verified differ someone holds =>
    let handed := { ticket with owner := target }
    have kept : (desk.view.edit (.ticket label handed)).issued = desk.view.issued :=
      View.issuedKept holds.stored rfl rfl
    rw [View.handedTo]
    exact kept.trans (List.append_nil _).symm
  | @ticketUsed organizer given label ticket verified holds =>
    have kept : (desk.view.edit (.ticket label { ticket with status := .used })).issued = desk.view.issued :=
      View.issuedKept holds.stored rfl rfl
    exact kept.trans (List.append_nil _).symm
  | @ticketCancelled caller given label ticket verified holds =>
    have kept : (desk.view.edit (.ticket label { ticket with status := .cancelled })).issued =
        desk.view.issued := View.issuedKept holds.stored rfl rfl
    exact kept.trans (List.append_nil _).symm
  | _ => exact (List.append_nil _).symm

end Desk.Effect

theorem Journal.Reached.ownership {store : Journal} (reached : store.Reached) :
    store.tables.view.Ownership :=
  reached.keeps View.emptyOwnership fun regular ownership effect => effect.ownership regular ownership

theorem issuedGrow : Grows Operation.issue View.issued where
  found finds := by cases finds <;> rfl
  grown reached effect := effect.issuedGrows reached.ownership

/- The tickets on record are these, in this order, each on the list of its event and on that of the owner
it names, and on no other, whatever its status. What is answered is answered when nothing disturbs the
calls. -/
structure Desk.Assigns (desk : Desk Journal) (issued : List (Raw × Raw)) : Prop where
  recorded : desk.view.issued = issued
  ids : desk.view.tickets.values.map Ticket.id =
    (List.range' 1 issued.length).map fun n : Nat => .whole n
  found : ∀ ticket ∈ desk.view.tickets.values,
    ((Operation.getTicket ticket.id).run.perform { desk with storeFaults := [] }).1 = .ok (.ticket ticket)
  ownerLists : ∀ owner label, Label.ofRaw? owner = some label →
    ∃ ids, ((Operation.getOwnerTickets owner).run.perform { desk with storeFaults := [] }).1 =
      .ok (.values ids) ∧ ids.map Raw.key = desk.view.ownerTickets label
  owned : ∀ ticket ∈ desk.view.tickets.values, ∃ owner, Label.ofRaw? ticket.owner = some owner ∧
    ∀ other, (desk.view.ownerTickets other).count ticket.id = if other = owner then 1 else 0
  ownedOnly : ∀ owner, ∀ id ∈ desk.view.ownerTickets owner,
    ∃ ticket ∈ desk.view.tickets.values, ticket.id = id
  eventLists : ∀ id,
    ((Operation.getEventTickets (.text id.text)).run.perform { desk with storeFaults := [] }).1 =
      .ok (.values (desk.view.eventTickets id))
  listed : ∀ ticket ∈ desk.view.tickets.values, ∀ id,
    (desk.view.eventTickets id).count ticket.id = if ticket.event = id then 1 else 0
  listedOnly : ∀ event, ∀ id ∈ desk.view.eventTickets event,
    ∃ ticket ∈ desk.view.tickets.values, ticket.id = id ∧ ticket.event = event
  increasing : ∀ id, ∃ ns : List Nat, desk.view.eventTickets id = ns.map (fun n => .whole n) ∧
    ns.Pairwise (· < ·)

theorem View.Ownership.assigns {desk : Desk Journal} (ownership : desk.view.Ownership) :
    desk.Assigns desk.view.issued where
  recorded := rfl
  ids := by
    have length : desk.view.issued.length = desk.view.lastTicket := by
      have counted := congrArg List.length ownership.series.ids
      simpa [View.issued] using counted
    rw [length]
    exact ownership.series.ids
  found ticket mem := by
    obtain ⟨n, is, stored⟩ := ownership.series.stored mem
    rw [is]
    exact Operation.performTicket rfl rfl stored
  ownerLists owner label party :=
    @Operation.performOwnerTickets { desk with storeFaults := [] } rfl owner label party
  owned ticket mem := by
    obtain ⟨n, is, stored⟩ := ownership.series.stored mem
    exact ownership.owned stored
  ownedOnly owner id mem := ownership.listed mem
  eventLists id := Operation.performEventTickets rfl id
  listed ticket mem id := ownership.series.listedOnce mem id
  listedOnly event id mem := ownership.series.listedStored mem
  increasing id := ownership.series.sorted id

/-- After any run of ordinary steps from an empty store the tickets on record are those that the run has
minted, in its order, and each is listed once with its owner and once with its event. -/
theorem ticketsAssigned {desk : Desk Journal} (empty : desk.store = .empty) (tame : desk.Tame)
    {steps : List Step} (ordinary : ∀ step ∈ steps, step.Ordinary) :
    (Step.takeAll steps desk).2.Assigns
      ((steps.zip (Step.takeAll steps desk).1).filterMap (Step.brought Operation.issue)) := by
  have reached : desk.store.Reached := empty ▸ .empty
  obtain ⟨reached', tame'⟩ := Step.takeAllReached ordinary reached tame
  have none : desk.view.issued = [] := by
    rw [Desk.view, empty]
    rfl
  have issued := issuedGrow.takeAll ordinary reached tame
  rw [none, List.nil_append] at issued
  rw [← issued]
  exact View.Ownership.assigns reached'.ownership

theorem ticketsAssignedGala :
    let steps : List Step :=
      [.operation (.mintTicket (.text "host") (.text "gala") (.text "ann")),
      .operation (.mintTicket (.text "host") (.text "gala") (.text "ann")),
      .operation (.transferTicket (.text "ann") (.text "bob") (.whole 1)),
      .breakStore ⟨"move_ticket", true⟩,
      .operation (.transferTicket (.text "bob") (.text "carl") (.whole 1)),
      .operation (.cancelTicket (.text "ann") (.whole 2))]
    let desk : Desk Journal := .opened .empty none none .standard (.text "escrow") false true
    let ran := Step.takeAll steps desk
    (∀ step ∈ steps, step.Ordinary) ∧
      ran.2.Assigns ((steps.zip ran.1).filterMap (Step.brought Operation.issue)) ∧
      ran.2.view.ownerTickets (.named "ann") = [.whole 2] ∧
      ran.2.view.ownerTickets (.named "bob") = [.whole 1] ∧
      ran.2.view.eventTickets ⟨"gala", rfl⟩ = [.whole 1, .whole 2] := by
  intro steps desk ran
  have ordinary : ∀ step ∈ steps, step.Ordinary := by simp [steps, Step.Ordinary, entryMethod]
  have ann : ran.2.view.ownerTickets (.named "ann") = [.whole 2] := by decide +kernel
  have bob : ran.2.view.ownerTickets (.named "bob") = [.whole 1] := by decide +kernel
  have gala : ran.2.view.eventTickets ⟨"gala", rfl⟩ = [.whole 1, .whole 2] := by decide +kernel
  exact ⟨ordinary, @ticketsAssigned desk rfl nofun steps ordinary, ann, bob, gala⟩

end BoxOffice
