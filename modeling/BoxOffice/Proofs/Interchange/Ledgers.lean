import BoxOffice.Proofs.Interchange.Rows
import BoxOffice.Proofs.Ownership
import BoxOffice.Proofs.Takings

/-! Rows of payments and tickets beside the records in memory. Ids are given out in order, so a list in the
order of the ids is a list in the order of insertion; revenue is counted without rounding in both. -/
namespace BoxOffice

namespace Decimal

theorem sameWorth {a b : Decimal} {cents : Int} (ha : a.Worth cents) (hb : b.Worth cents) : a.Same b := by
  right
  rw [orderWorth ha hb, compare_eq_iff_eq.mpr rfl]

def Below (units : Nat) (amount : Decimal) : Prop :=
  amount.order (.ofInt units) = .ok .lt

instance (units : Nat) (amount : Decimal) : Decidable (amount.Below units) :=
  inferInstanceAs (Decidable (_ = _))

theorem belowWorth {amount : Decimal} {units : Nat} {cents : Int} (below : amount.Below units)
    (worth : amount.Worth cents) : cents < 100 * units := by
  have limit : (ofInt units).Worth (100 * units) := by
    refine ⟨.ofInt units, rfl, ?_⟩
    simp [Finite.Worth, Finite.value, Finite.size, Finite.ofInt]
  rw [Below, orderWorth worth limit] at below
  exact compare_lt_iff_lt.mp (Except.ok.inj below)

end Decimal

namespace Rows

theorem readTotalWorth {total : Decimal.Finite} {cents : Nat} (worth : total.Worth cents)
    (few : cents < 10 ^ 24) : ∃ read, readTotal total = .ok read ∧ read.Worth cents := by
  have below : cents < 10 ^ Decimal.precision := few.trans (by decide)
  have digits : Decimal.digitCount cents ≤ 24 := (Decimal.digitCountLe (by decide)).mpr few
  have read : total.cents? = some cents := Decimal.Finite.centsWorth worth below
  refine ⟨.finite (.ofCents total.negative cents), ?_, ⟨_, rfl, ?_⟩⟩
  · simp only [readTotal, TotalColumn.read, read, if_pos digits]
  · cases none : total.isZero with
    | true =>
      have zero : cents = 0 := by
        simpa [Decimal.Finite.cents?, none] using read.symm
      simp [zero, Decimal.Finite.Worth, Decimal.Finite.value, Decimal.Finite.size, Decimal.Finite.ofCents]
    | false =>
      have sign := Decimal.Finite.worthPositive worth none (by omega)
      rw [sign, Decimal.Finite.Worth, Decimal.Finite.value, Decimal.Finite.size, Decimal.Finite.ofCents]
      norm_num
      ring

end Rows

namespace Rows.Shows
variable {rows : Rows Decimal.Finite} {v : View}

/-! Payments -/

theorem nextPayment (shows : rows.Shows v) :
    Rows.Shows { rows with lastPayment := rows.lastPayment + 1 } (v.edit (.lastPayment (v.lastPayment + 1))) :=
  { shows with lastPayment := congrArg (· + 1) shows.lastPayment }

theorem payment (shows : rows.Shows v) (n : Int) :
    rows.payments.get? n = (v.payments.get? (.numbered n)).map Payment.settled := by
  rw [← Table.getMapKeys Label.numberedOne, shows.payments, Table.getMapValues]

theorem addPayment (shows : rows.Shows v) {payment : Payment} (fits : payment.Fits) {n : Nat}
    (id : payment.id = .whole n) (free : v.payments.get? (.numbered n) = none) :
    ∃ after, rows.addPayment payment = .ok after ∧
      after.Shows ((v.edit (.payment (.numbered n) payment)).edit (.eventPayment payment.event payment.id)) := by
  have absent : rows.payments.contains (n : Int) = false := by
    rw [Table.contains, shows.payment, free]
    rfl
  refine ⟨_, addPaymentFits fits rows id absent, { shows with payments := ?_ }⟩
  rw [Table.putMapKeys Label.numberedOne, shows.payments, ← Table.putMapValues]
  rfl

/-! Revenue -/

theorem revenueOf (shows : rows.Shows v) {id : EventId}
    (low : ((v.revenue.get? id).getD .zero).Below (10 ^ 13)) :
    ∃ read, rows.revenueOf id = .ok read ∧ ((v.revenue.get? id).getD .zero).Same read := by
  obtain ⟨cents, _, worth, worth'⟩ := shows.revenue id
  have few := Decimal.belowWorth low worth
  unfold Rows.revenueOf
  cases counted : rows.revenue.get? id with
  | none =>
    rw [counted] at worth'
    exact ⟨_, rfl, Decimal.sameWorth worth ⟨_, rfl, worth'⟩⟩
  | some total =>
    rw [counted] at worth'
    obtain ⟨read, is, same⟩ := readTotalWorth worth' (by omega)
    exact ⟨read, is, Decimal.sameWorth worth same⟩

theorem addRevenue (shows : rows.Shows v) {id : EventId} {amount : Money}
    (low : ((v.revenue.get? id).getD .zero).Below (10 ^ 13)) (few : amount.cents < 10 ^ 15) :
    ∃ total read after, ((v.revenue.get? id).getD .zero).add amount.toDecimal = .ok total ∧
      rows.addRevenue id amount.toDecimal = .ok (read, after) ∧ after.Shows (v.edit (.revenue id total)) := by
  obtain ⟨cents, _, worth, worth'⟩ := shows.revenue id
  have less := Decimal.belowWorth low worth
  have limit : (10 : Nat) ^ Decimal.precision = 10 ^ 28 := rfl
  obtain ⟨total, added, exact'⟩ := Decimal.addExact worth amount.worth (by omega) (by omega) (by omega)
  let sum := ((rows.revenue.get? id).getD .zero).sum amount.amount
  have summed : sum.Worth (cents + amount.cents : Nat) := by
    have own : amount.amount.Worth amount.cents := by
      obtain ⟨_, is, worth⟩ := amount.worth
      cases is
      exact worth
    rw [Decimal.Finite.Worth, Decimal.Finite.sumValue worth' own (Decimal.Finite.worthBelow worth' (by omega))
      (Decimal.Finite.worthBelow own (by omega)), worth', own]
    push_cast
    ring
  obtain ⟨read, is, _⟩ := readTotalWorth summed (by omega)
  refine ⟨total, read, { rows with revenue := rows.revenue.put id sum }, added, ?_,
    { shows with revenue := fun other => ?_ }⟩
  · rw [Money.toDecimal, Rows.addRevenue]
    simp only [TotalColumn.add, TotalColumn.zero]
    rw [show readTotal (((rows.revenue.get? id).getD .zero).sum amount.amount) = .ok read from is]
    rfl
  · by_cases same : other = id
    · subst same
      refine ⟨cents + amount.cents, by omega, ?_, ?_⟩
      · simp only [View.edit, Table.getPutSame, Option.getD_some, Nat.cast_add]
        exact exact'
      · simp only [Table.getPutSame, Option.getD_some]
        exact summed
    · have kept := shows.revenue other
      rw [View.Counted] at kept ⊢
      simpa only [View.edit, Table.getPutOther _ same] using kept

/-! Lists of ids -/

theorem idsListed {α : Type} {id : α → Raw} {event : α → EventId} {settled : α → α} {table : Table Int α}
    {records : Table Label α} {last : Nat} {lists : EventId → List Raw}
    (series : Series id event records last lists)
    (kept : table.mapKeys Label.numbered = records.mapValues settled)
    (same : ∀ record, event (settled record) = event record) (key : EventId) :
    idsOf table (fun record => event record == key) = lists key := by
  let number : Label → Raw
    | .numbered n => .whole n
    | _ => .nothing
  have ids : ∀ entry ∈ records.entries, number entry.1 = id entry.2 := by
    intro entry mem
    have pair : (entry.1, id entry.2) ∈ records.entries.map fun entry => (entry.1, id entry.2) :=
      List.mem_map_of_mem mem
    rw [series.numbered] at pair
    obtain ⟨n, _, is⟩ := List.mem_map.mp pair
    obtain ⟨first, second⟩ := Prod.mk.inj is
    rw [← first, ← second]
  have listed : ((table.entries.filter fun entry => event entry.2 == key).map Prod.fst).map Raw.whole =
      lists key := by
    have entries := congrArg Table.entries kept
    calc
      _ = (((table.mapKeys Label.numbered).entries.filter fun entry => event entry.2 == key).map
          (number ∘ Prod.fst)) := by
        rw [Table.mapKeys, List.filter_map, List.map_map, List.map_map]
        rfl
      _ = (records.entries.filter fun entry => event entry.2 == key).map (number ∘ Prod.fst) := by
        rw [entries, Table.mapValues, List.filter_map, List.map_map]
        simp only [Function.comp_def, same]
      _ = (records.entries.filter fun entry => event entry.2 == key).map fun entry => id entry.2 :=
        List.map_congr_left fun entry mem => ids entry (List.mem_filter.mp mem).1
      _ = lists key := by
        rw [series.listed, Table.values, List.filter_map, List.map_map]
        rfl
  obtain ⟨ns, are, sorted⟩ := series.sorted key
  have keys : (table.entries.filter fun entry => event entry.2 == key).map Prod.fst =
      ns.map fun n : Nat => (n : Int) := by
    have inside := congrArg (List.map fun given => given.number?.getD 0) (listed.trans are)
    simpa [List.map_map, Function.comp_def, Raw.number?] using inside
  rw [idsOf, List.mergeSort_of_pairwise, listed]
  rw [keys, List.pairwise_map]
  exact sorted.imp fun less => by
    simp only [decide_eq_true_eq]
    omega

/-! Tickets -/

theorem nextTicket (shows : rows.Shows v) :
    Rows.Shows { rows with lastTicket := rows.lastTicket + 1 } (v.edit (.lastTicket (v.lastTicket + 1))) :=
  { shows with lastTicket := congrArg (· + 1) shows.lastTicket }

theorem ticket (shows : rows.Shows v) (n : Int) :
    rows.tickets.get? n = (v.tickets.get? (.numbered n)).map Ticket.settled := by
  rw [← Table.getMapKeys Label.numberedOne, shows.tickets, Table.getMapValues]

theorem ticketsPut (shows : rows.Shows v) (n : Int) (ticket : Ticket) :
    (rows.tickets.put n ticket.settled).mapKeys Label.numbered =
      (v.tickets.put (.numbered n) ticket).mapValues Ticket.settled := by
  rw [Table.putMapKeys Label.numberedOne, shows.tickets, ← Table.putMapValues]

theorem issuedPut (shows : rows.Shows v) {ticket : Ticket} (fits : ticket.Fits) {n : Nat}
    (id : ticket.id = .whole n) {label : Label} {found : Ticket}
    (stored : (v.tickets.put (.numbered n) ticket).get? label = some found) :
    found.Fits ∧ Label.ofRaw? found.id = some label := by
  by_cases here : label = .numbered n
  · subst here
    cases (Table.getPutSame _ _ _).symm.trans stored
    exact ⟨fits, by rw [id]; rfl⟩
  · exact shows.issued label found ((Table.getPutOther _ here _).symm.trans stored)

theorem addTicket (shows : rows.Shows v) {ticket : Ticket} (fits : ticket.Fits) {n : Nat}
    (id : ticket.id = .whole n) {name : String} (own : ticket.owner = .text name)
    (free : v.tickets.get? (.numbered n) = none) :
    ∃ after, rows.addTicket ticket = .ok after ∧
      after.Shows ([.ticket (.numbered n) ticket, .ownTicket (.named name) ticket.id,
        .eventTicket ticket.event ticket.id].foldl View.edit v) := by
  have absent : rows.tickets.contains (n : Int) = false := by
    rw [Table.contains, shows.ticket, free]
    rfl
  refine ⟨{ rows with
    tickets := rows.tickets.put n ticket.settled, holdings := rows.holdings ++ [⟨ticket.owner, n⟩] }, ?_,
    { shows with
      tickets := shows.ticketsPut n ticket, issued := fun _ _ => shows.issuedPut fits id
      holdings := fun owner => ?_, held := fun h mem => ?_ }⟩
  · rw [Rows.addTicket, id, Raw.wholeInNumberColumn, bindPassed, rowOfFits fits id, bindPassed]
    simp only [required, bindPassed, absent]
    rfl
  · have before := shows.holdings owner
    rw [List.filter_append, List.map_append, before, own, id]
    by_cases same : owner = name
    · subst same
      simp [View.edit, Raw.key]
    · simp [View.edit, same, Ne.symm same]
  · rcases List.mem_append.mp mem with old | new
    · exact Table.containsPut _ _ _ _ (shows.held h old)
    · rw [List.mem_singleton.mp new, Table.contains, Table.getPutSame]
      rfl

theorem saveTicket (shows : rows.Shows v) {ticket old : Ticket} (fits : ticket.Fits) {n : Nat}
    (id : ticket.id = .whole n) (stored : v.tickets.get? (.numbered n) = some old) :
    ∃ after, rows.saveTicket ticket = .ok after ∧ after.Shows (v.edit (.ticket (.numbered n) ticket)) := by
  have known : rows.tickets.contains (n : Int) = true := by
    rw [Table.contains, shows.ticket, stored]
    rfl
  refine ⟨{ rows with tickets := rows.tickets.put n ticket.settled }, ?_, { shows with
    tickets := shows.ticketsPut n ticket, issued := fun _ _ => shows.issuedPut fits id
    held := fun h mem => Table.containsPut _ _ _ _ (shows.held h mem) }⟩
  rw [Rows.saveTicket, id, Raw.wholeInNumberColumn, bindPassed]
  simp only [known, rowOfFits fits id, bindPassed]
  rfl

theorem eraseHolding {holdings : List Holding} {source : Raw} (own : ∀ h ∈ holdings, h.owner = source) (n : Int) :
    (holdings.erase ⟨source, n⟩).map (fun h => Raw.whole h.ticket) =
      (holdings.map fun h => Raw.whole h.ticket).erase (.whole n) := by
  induction holdings with
  | nil => rfl
  | cons h rest ih =>
    have later := ih fun h mem => own h (List.mem_cons_of_mem _ mem)
    obtain ⟨owner, m⟩ := h
    obtain rfl : owner = source := own _ List.mem_cons_self
    by_cases here : m = n
    · subst here
      simp
    · rw [List.erase_cons_tail (by simpa using here), List.map_cons, List.map_cons,
        List.erase_cons_tail (by simpa using here), later]

theorem moveTicket (shows : rows.Shows v) {n : Nat} (within : n < wordLimit) {source target : String}
    (giver : Text.isWhole source = true) (taker : Text.isWhole target = true)
    (known : (v.tickets.get? (.numbered n)).isSome = true) :
    ∃ after, rows.moveTicket (.whole n) (.text source) (.text target) = .ok after ∧
      after.Shows ((v.disowning (.whole n) (.named source) ++
        [Edit.ownTicket (.named target) (.whole n)]).foldl View.edit v) := by
  have stored : rows.tickets.contains (n : Int) = true := by
    rw [Table.contains, shows.ticket, Option.isSome_map]
    exact known
  have moved : (v.disowning (.whole n) (.named source) ++ [Edit.ownTicket (.named target) (.whole n)]).foldl
      View.edit v = { v with
        ownerTickets := View.owning (View.losing v.ownerTickets (.named source) (.whole n))
          (.named target) (.whole n) } := by
    rw [List.foldl_append, View.disowned]
    rfl
  rw [moved]
  refine ⟨{ rows with holdings := rows.holdings.erase ⟨.text source, n⟩ ++ [⟨.text target, n⟩] }, ?_,
    { shows with holdings := fun owner => ?_, held := fun h mem => ?_ }⟩
  · rw [Rows.moveTicket, Raw.wholeInNumberColumn, bindPassed, Raw.textInColumn giver, bindPassed,
      boundWordFits within, bindPassed, Raw.textInColumn taker, bindPassed]
    simp only [required, bindPassed]
    rfl
  · have lost : ((rows.holdings.erase ⟨.text source, n⟩).filter fun h => h.owner == .text owner).map
        (fun h => Raw.whole h.ticket) = View.losing v.ownerTickets (.named source) (.whole n) (.named owner) := by
      have before := shows.holdings owner
      rw [← List.erase_filter, View.losing]
      by_cases same : owner = source
      · subst same
        rw [eraseHolding (fun h mem => by simpa using (List.mem_filter.mp mem).2), before, Function.update_self]
      · rw [List.erase_of_not_mem (by simp [Ne.symm same]), before,
          Function.update_of_ne (by simpa using same)]
    rw [List.filter_append, List.map_append, lost, View.owning]
    by_cases same : owner = target
    · subst same
      simp
    · simp [same, Ne.symm same]
  · rcases List.mem_append.mp mem with old | new
    · exact shows.held h (List.mem_of_mem_erase old)
    · rw [List.mem_singleton.mp new]
      exact stored

end Rows.Shows
end BoxOffice
