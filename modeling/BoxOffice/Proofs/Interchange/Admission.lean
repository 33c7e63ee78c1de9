import BoxOffice.Proofs.Interchange.Registry

/-! Requests to the ticket ledger at two desks. Tickets are looked for by whole numbers; a ticket that is handed
on leaves the holdings of its old owner and comes last among those of the new one. -/
namespace BoxOffice.Admission
open BoxOffice.Action
variable {start : Desk Journal} {second : TableDesk}

section
variable {γ δ : Type} {blocks : List (View × Rows Decimal.Finite)} {v : View} {first : Desk Journal}
  {ends : γ → δ → Desk Journal → TableDesk → Prop}

theorem loadAgrees {next : Ticket → Action Journal γ} {next' : Ticket → Action (Relational Decimal.Finite) δ}
    {id : Raw} (whole : id.isWhole = true) (stand : start.Stand blocks v first second)
    (later : ∀ (n : Nat) ticket after other, id = .whole n → v.tickets.get? (.numbered n) = some ticket →
      ticket.Fits → ticket.id = id → start.Stand blocks v after other →
      (next ticket).Agree start blocks (next' ticket.settled) after other ends) :
    (load id >>= next).Agree start blocks (load id >>= next') first second ends := by
  unfold load
  rw [bind_assoc, bind_assoc]
  obtain ⟨n, rfl⟩ := Raw.wholeNumber whole
  have planned : first.store.tables.plan (.getTicket (.whole n)) = (.ok (v.tickets.get? (.numbered n)), []) := by
    rw [← stand.view]
    rfl
  have answered : second.store.rows.call (.getTicket (.whole n)) =
      .ok ((v.tickets.get? (.numbered n)).map Ticket.settled, second.store.rows) := by
    rw [Rows.call, Rows.ticket?, Raw.wholeInNumberColumn, ← stand.shows.ticket]
    rfl
  refine agreeCall stand planned answered stand.shows fun after other stand => ?_
  cases stored : v.tickets.get? (.numbered n) with
  | none => exact agreeThrow stand _
  | some ticket =>
    obtain ⟨fits, label⟩ := stand.shows.issued _ ticket stored
    obtain ⟨m, _, id⟩ := fits.id
    rw [id] at label
    cases label
    exact later m ticket after other rfl stored fits id stand

theorem requireEventAgrees {next : Unit → Action Journal γ} {next' : Unit → Action (Relational Decimal.Finite) δ}
    (organizer : Raw) (id : EventId) (stand : start.Stand blocks v first second)
    (later : ∀ after other, start.Stand blocks v after other →
      (next ()).Agree start blocks (next' ()) after other ends) :
    (requireEvent organizer id >>= next).Agree start blocks (requireEvent organizer id >>= next') first second
      ends := by
  unfold requireEvent
  rw [bind_assoc, bind_assoc]
  refine Registry.getEventAgrees id stand fun after other stand => ?_
  cases v.events.get? id with
  | none => exact agreeThrow stand _
  | some event =>
    simp only [Option.map_some, show event.settled.organizer = event.organizer from rfl,
      show event.settled.status = event.status from rfl]
    cases event.organizer.same organizer with
    | false => exact agreeThrow stand _
    | true =>
      by_cases closed : event.status ≠ .upcoming ∧ event.status ≠ .active
      · simp only [Bool.not_true, Bool.false_eq_true, if_false, if_pos closed]
        exact agreeThrow stand _
      · simp only [Bool.not_true, Bool.false_eq_true, if_false, if_neg closed]
        exact later after other stand

theorem checkedAgrees {next : Unit → Action Journal γ} {next' : Unit → Action (Relational Decimal.Finite) δ}
    (organizer : Raw) (id : EventId) (stand : start.Stand blocks v first second)
    (later : ∀ after other, start.Stand blocks v after other →
      (next ()).Agree start blocks (next' ()) after other ends) :
    (get >>= fun desk : Desk Journal => if desk.checksEvents then requireEvent organizer id >>= next
      else next ()).Agree start blocks
      (get >>= fun desk : TableDesk => if desk.checksEvents then requireEvent organizer id >>= next'
        else next' ()) first second ends := by
  refine agreeGet ?_
  rw [stand.checksEvents]
  split
  · exact requireEventAgrees organizer id stand later
  · exact later first second stand

variable {next : Unit → Action Journal γ} {next' : Unit → Action (Relational Decimal.Finite) δ}

theorem saveAgrees {ticket old : Ticket} (fits : ticket.Fits) {n : Nat} (id : ticket.id = .whole n)
    (stored : v.tickets.get? (.numbered n) = some old) (stand : start.Stand blocks v first second)
    (later : ∀ after other, start.Stand blocks (v.edit (.ticket (.numbered n) ticket)) after other →
      (next ()).Agree start blocks (next' ()) after other ends) :
    (call (.saveTicket ticket) >>= next).Agree start blocks (call (.saveTicket ticket.settled) >>= next')
      first second ends := by
  obtain ⟨rows, saved, shows⟩ := stand.shows.saveTicket fits id stored
  have planned : first.store.tables.plan (.saveTicket ticket) = (.ok (), [.ticket (.numbered n) ticket]) := by
    have known : first.store.tables.tickets.contains (.numbered n) = true := by
      rw [show first.store.tables.tickets = v.tickets from congrArg View.tickets stand.view, Table.contains, stored]
      rfl
    simp only [Tables.plan, id, show Checked.label (.whole n) = .ok (.numbered n) from rfl, known, if_true]
  have answered : second.store.rows.call (.saveTicket ticket.settled) = .ok ((), rows) := by
    rw [Rows.call, Rows.saveTicketSettled, saved]
    rfl
  exact agreeCall stand planned answered shows later

theorem moveAgrees {n : Nat} (within : n < wordLimit) {source target : String}
    (giver : Text.isWhole source = true) (taker : Text.isWhole target = true)
    (known : (v.tickets.get? (.numbered n)).isSome = true) (stand : start.Stand blocks v first second)
    (later : ∀ after other, start.Stand blocks ((v.disowning (.whole n) (.named source) ++
        [Edit.ownTicket (.named target) (.whole n)]).foldl View.edit v) after other →
      (next ()).Agree start blocks (next' ()) after other ends) :
    (call (.moveTicket (.whole n) (.text source) (.text target)) >>= next).Agree start blocks
      (call (.moveTicket (.whole n) (.text source) (.text target)) >>= next') first second ends := by
  obtain ⟨rows, moved, shows⟩ := stand.shows.moveTicket within giver taker known
  have planned : first.store.tables.plan (.moveTicket (.whole n) (.text source) (.text target)) =
      (.ok (), v.disowning (.whole n) (.named source) ++ [.ownTicket (.named target) (.whole n)]) := by
    rw [← stand.view, Desk.view, ← Tables.disowningView]
    rfl
  have answered : second.store.rows.call (.moveTicket (.whole n) (.text source) (.text target)) = .ok ((), rows) := by
    rw [Rows.call, moved]
    rfl
  exact agreeCall stand planned answered shows later

theorem tellAgrees {id : Raw} {change : String} {notice : Notice} (stand : start.Stand blocks v first second)
    (later : ∀ after other, start.Stand blocks v after other →
      (next ()).Agree start blocks (next' ()) after other ends) :
    (tell id change notice >>= next).Agree start blocks (tell id change notice >>= next') first second ends := by
  unfold tell
  simp only [bind_assoc]
  exact agreeCheck stand fun _ _ => agreeLog stand fun after other stand => agreeNotify rfl stand later

end

theorem mintMeets (starts : start.Starts second) {organizer given owner : Raw}
    (fits : (Operation.mintTicket organizer given owner).fits = true) :
    Meet start second (mint organizer given owner) (mint organizer given owner)
      fun x y => x.settled = y.settled := by
  unfold Meet mint
  obtain ⟨issues, owns⟩ := Bool.and_eq_true_iff.mp fits
  obtain ⟨name, rfl, encodes⟩ := Raw.legibleText owns
  obtain ⟨m, clock, datable, _⟩ := starts.fits.now
  have stand := starts.stand
  refine agreeAuthenticate stand ?_
  refine agreeEventId stand fun id _ => ?_
  refine agreeGuard stand Iff.rfl fun _ => ?_
  let made (x y : Int × Ticket) (_ : View) : Prop := x = y
  refine agreeAtomically made stand (fun first other stand => ?_) fun x y w after other same stand => ?_
  · refine checkedAgrees organizer id stand fun after other stand => ?_
    let n := start.view.lastTicket + 1
    have planned : after.store.tables.plan .nextTicketId = (.ok (n : Int), [.lastTicket n]) := by
      simp only [n, ← stand.view]
      rfl
    have answered : other.store.rows.call .nextTicketId =
        .ok ((n : Int), { other.store.rows with lastTicket := other.store.rows.lastTicket + 1 }) := by
      simp only [n, ← stand.shows.lastTicket]
      rfl
    refine agreeCall stand planned answered stand.shows.nextTicket fun after other stand => agreeNow stand ?_
    let ticket : Ticket := ⟨.whole n, id, organizer, .text name, start.clock, .initial⟩
    have fits : ticket.Fits := ⟨⟨n, starts.fits.tickets, rfl⟩, issues, owns, ⟨m, clock, datable⟩⟩
    have free : start.view.tickets.get? (.numbered n) = none := starts.reached.ownership.series.fresh
    obtain ⟨rows, added, shows⟩ := stand.shows.addTicket fits rfl rfl free
    have answered : other.store.rows.call (.addTicket ticket) = .ok ((), rows) := by
      rw [Rows.call, added]
      rfl
    exact agreeCall stand rfl answered shows fun after other stand => agreePure ⟨_, rfl, stand⟩
  · obtain ⟨ticketId, ticket⟩ := x
    obtain rfl : (ticketId, ticket) = y := same
    refine agreeLog stand fun after other stand => ?_
    exact agreeNotify rfl stand fun after other stand => agreePure ⟨rfl, w, stand⟩

theorem transferMeets (starts : start.Starts second) {source target id : Raw}
    (fits : (Operation.transferTicket source target id).fits = true) :
    Meet start second (transfer source target id) (transfer source target id)
      fun x y => x.settled = y.settled := by
  unfold Meet transfer
  simp only [Operation.fits, Bool.and_eq_true] at fits
  obtain ⟨⟨gives, takes⟩, whole⟩ := fits
  obtain ⟨giver, rfl, giver'⟩ := Raw.legibleText gives
  obtain ⟨taker, rfl, taker'⟩ := Raw.legibleText takes
  have stand := starts.stand
  refine agreeAuthenticate stand ?_
  refine agreeGuard stand Iff.rfl fun _ => agreeGuard stand Iff.rfl fun _ => ?_
  let made (x y : Ticket) (_ : View) : Prop := x.settled = y.settled
  refine agreeAtomically made stand (fun first other stand => ?_) fun x y w after other same stand => ?_
  · refine loadAgrees whole stand fun n ticket after other named stored fit called stand => ?_
    refine agreeGuard stand Iff.rfl fun _ => agreeGuard stand Iff.rfl fun _ => ?_
    subst named
    obtain ⟨m, within, is⟩ := fit.id
    cases called.symm.trans is
    let updated : Ticket := { ticket with owner := .text taker }
    have fits : updated.Fits := ⟨fit.id, fit.organizer, takes, fit.issuedAt⟩
    refine saveAgrees fits called stored stand fun after other stand => ?_
    have known : ((start.view.edit (.ticket (.numbered n) updated)).tickets.get? (.numbered n)).isSome = true := by
      simp only [View.edit, Table.getPutSame, Option.isSome_some]
    exact moveAgrees within giver' taker' known stand
      fun after other stand => agreePure ⟨_, updated.settledTwice.symm, stand⟩
  · exact tellAgrees stand fun after other stand => agreePure ⟨same, w, stand⟩

theorem useMeets (starts : start.Starts second) (organizer : Raw) {id : Raw} (whole : id.isWhole = true) :
    Meet start second (use organizer id) (use organizer id) fun x y => x.settled = y.settled := by
  unfold Meet use
  have stand := starts.stand
  refine agreeAuthenticate stand ?_
  let made (x y : Ticket) (_ : View) : Prop := x.settled = y.settled
  refine agreeAtomically made stand (fun first other stand => ?_) fun x y w after other same stand => ?_
  · refine loadAgrees whole stand fun n ticket after other named stored fit called stand => ?_
    refine agreeGuard stand Iff.rfl fun _ => agreeGuard stand Iff.rfl fun _ => agreeGuard stand Iff.rfl fun _ => ?_
    rw [named] at called
    let updated : Ticket := { ticket with status := .used }
    have fits : updated.Fits := ⟨fit.id, fit.organizer, fit.owner, fit.issuedAt⟩
    exact saveAgrees fits called stored stand
      fun after other stand => agreePure ⟨_, updated.settledTwice.symm, stand⟩
  · exact tellAgrees stand fun after other stand => agreePure ⟨same, w, stand⟩

theorem cancelMeets (starts : start.Starts second) (caller : Raw) {id : Raw} (whole : id.isWhole = true) :
    Meet start second (cancel caller id) (cancel caller id) fun x y => x.settled = y.settled := by
  unfold Meet cancel
  have stand := starts.stand
  refine agreeAuthenticate stand ?_
  let made (x y : Ticket) (_ : View) : Prop := x.settled = y.settled
  refine agreeAtomically made stand (fun first other stand => ?_) fun x y w after other same stand => ?_
  · refine loadAgrees whole stand fun n ticket after other named stored fit called stand => ?_
    refine agreeGuard stand Iff.rfl fun _ => agreeGuard stand Iff.rfl fun _ => ?_
    rw [named] at called
    let updated : Ticket := { ticket with status := .cancelled }
    have fits : updated.Fits := ⟨fit.id, fit.organizer, fit.owner, fit.issuedAt⟩
    exact saveAgrees fits called stored stand
      fun after other stand => agreePure ⟨_, updated.settledTwice.symm, stand⟩
  · exact tellAgrees stand fun after other stand => agreePure ⟨same, w, stand⟩

theorem loadMeets (starts : start.Starts second) {id : Raw} (whole : id.isWhole = true) :
    Meet start second (load id) (load id) fun x y => x.settled = y.settled := by
  unfold Meet
  rw [← bind_pure (load id), ← bind_pure (load (σ := Relational Decimal.Finite) id)]
  exact loadAgrees whole starts.stand
    fun _ ticket after other _ _ _ _ stand => agreePure ⟨ticket.settledTwice.symm, _, stand⟩

theorem ownerTicketsMeets (starts : start.Starts second) {owner : Raw} (legible : owner.isLegible = true) :
    Meet start second (ownerTickets owner) (ownerTickets owner) fun x y => x.map Raw.key = y.map Raw.key := by
  obtain ⟨name, rfl, encodes⟩ := Raw.legibleText legible
  have stand := starts.stand
  have held := stand.shows.holdings name
  have answered : second.store.rows.call (.listOwnerTickets (.text name)) =
      .ok ((second.store.rows.holdings.filter fun h => h.owner == .text name).map (fun h => Raw.whole h.ticket),
        second.store.rows) := by
    rw [Rows.call, Raw.textInColumn encodes, bindPassed]
    rfl
  refine meetFound stand rfl answered ?_
  rw [List.map_map]
  exact held.symm

theorem eventTicketsMeets (starts : start.Starts second) (given : Raw) :
    Meet start second (eventTickets given) (eventTickets given) fun x y => x = y := by
  unfold Meet eventTickets
  have stand := starts.stand
  refine agreeEventId stand fun id _ => ?_
  have listed := Rows.Shows.idsListed starts.reached.ownership.series stand.shows.tickets (fun _ => rfl) id
  have answered : second.store.rows.call (.listEventTickets id) =
      .ok (start.view.eventTickets id, second.store.rows) := by
    rw [Rows.call, listed]
    rfl
  exact meetFound stand rfl answered rfl

end BoxOffice.Admission
