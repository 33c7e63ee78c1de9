import BoxOffice.Proofs.Interchange.Agree

/-! Requests to the payment escrow at two desks. Money moves in one book of funds at both; a record that can be
made at one can be made at the other, for its id is free and its total within the column. -/
namespace BoxOffice.Escrow
open BoxOffice.Action
variable {start : Desk Journal} {second : TableDesk}

section
variable {γ δ : Type} {blocks : List (View × Rows Decimal.Finite)} {v : View} {first : Desk Journal}
  {ends : γ → δ → Desk Journal → TableDesk → Prop}

theorem getEscrowAgrees {next : Option EscrowConfig → Action Journal γ}
    {next' : Option EscrowConfig → Action (Relational Decimal.Finite) δ} (stand : start.Stand blocks v first second)
    (later : ∀ after other, start.Stand blocks v after other →
      (next v.escrow).Agree start blocks (next' v.escrow) after other ends) :
    (call .getEscrow >>= next).Agree start blocks (call .getEscrow >>= next') first second ends := by
  have planned : first.store.tables.plan .getEscrow = (.ok v.escrow, []) := by
    rw [← stand.view]
    rfl
  have answered : second.store.rows.call .getEscrow = .ok (v.escrow, second.store.rows) := by
    rw [← stand.shows.escrow]
    rfl
  exact agreeCall stand planned answered stand.shows later

theorem configAgrees {next : EscrowConfig → Action Journal γ}
    {next' : EscrowConfig → Action (Relational Decimal.Finite) δ} (stand : start.Stand blocks v first second)
    (later : ∀ config after other, v.escrow = some config → start.Stand blocks v after other →
      (next config).Agree start blocks (next' config) after other ends) :
    (config >>= next).Agree start blocks (config >>= next') first second ends := by
  unfold config
  rw [bind_assoc, bind_assoc]
  refine getEscrowAgrees stand fun after other stand => ?_
  cases set : v.escrow with
  | none => exact agreeThrow stand _
  | some config => exact later config after other set stand

theorem transferAgrees {next : Bool → Action Journal γ} {next' : Bool → Action (Relational Decimal.Finite) δ}
    (currency source target : Raw) (amount : Decimal) (stand : start.Stand blocks v first second)
    (later : ∀ moved after other, start.Stand blocks v after other →
      (next moved).Agree start blocks (next' moved) after other ends) :
    (transfer currency source target amount >>= next).Agree start blocks
      (transfer currency source target amount >>= next') first second ends := by
  unfold transfer Action.book
  simp only [bind_assoc]
  refine agreeGet ?_
  rw [stand.keepsFunds]
  by_cases keeps : first.keepsFunds = true
  · rw [if_pos keeps, if_pos keeps, pure_bind, pure_bind, stand.funds]
    refine agreeCheck stand fun held _ => agreeCheck stand fun giver _ => ?_
    generalize first.funds.transfer held giver (Label.ofRaw? target) amount = result
    obtain ⟨outcome, funds⟩ := result
    have booked : start.Stand blocks v { first with funds } { second with funds } :=
      { stand with
        funds := rfl
        around := stand.around.trans ⟨rfl, rfl, rfl, rfl, rfl, rfl, fun _ mem => mem, fun _ mem => mem⟩ }
    refine agreeModify ?_
    cases outcome with
    | error failure => exact agreeThrow booked failure
    | ok moved =>
      cases moved with
      | false =>
        simp only [Bool.not_false, if_true, bind_assoc, pure_bind]
        exact agreeLog booked fun after other stand => later false after other stand
      | true => exact later true _ _ booked
  · rw [if_neg keeps, if_neg keeps]
    exact agreeThrow stand _

theorem giveBackAgrees {next : Unit → Action Journal γ} {next' : Unit → Action (Relational Decimal.Finite) δ}
    (currency custody payer : Raw) (amount : Money) (stand : start.Stand blocks v first second)
    (later : ∀ after other, start.Stand blocks v after other →
      (next ()).Agree start blocks (next' ()) after other ends) :
    (giveBack currency custody payer amount >>= next).Agree start blocks
      (giveBack currency custody payer amount >>= next') first second ends := by
  unfold giveBack
  simp only [bind_assoc]
  refine transferAgrees _ _ _ _ stand fun moved after other stand => ?_
  cases moved with
  | false => exact agreeLog stand later
  | true => exact agreeLog stand later

end

theorem chargedSmall {sum : Raw} {amount : Money} (small : sum.isSmallAmount = true)
    (charged : requireAmount sum = .ok amount) : amount.cents < 10 ^ 15 := by
  unfold requireAmount at charged
  split at charged
  · cases charged
  · rename_i read
    split at charged
    · cases charged
      exact Raw.amountBelow small read
    · cases charged

theorem setUpMeets (starts : start.Starts second) {admin currency : Raw}
    (fits : (Operation.setUpEscrow admin currency).fits = true) :
    Meet start second (setUp admin currency) (setUp admin currency) fun x y => x = y := by
  unfold Meet setUp
  have stand := starts.stand
  obtain ⟨named, priced⟩ := Bool.and_eq_true_iff.mp fits
  let made (x y : EscrowConfig × Bool) (_ : View) : Prop := x = y
  refine agreeAtomically made stand (fun first other stand => ?_) fun x y w after other same stand => ?_
  · refine getEscrowAgrees stand fun after other stand => ?_
    cases start.view.escrow with
    | some config => exact agreePure ⟨_, rfl, stand⟩
    | none =>
      refine agreeAuthenticate stand (agreeGuard stand Iff.rfl fun _ => ?_)
      obtain ⟨rows, set, shows⟩ := @Rows.Shows.setEscrow _ _ stand.shows ⟨admin, currency⟩ named priced
      have answered : other.store.rows.call (.setEscrow ⟨admin, currency⟩) = .ok ((), rows) := by
        rw [Rows.call, set]
        rfl
      exact agreeCall stand rfl answered shows fun _ _ stand => agreePure ⟨_, rfl, stand⟩
  · obtain ⟨config, fresh⟩ := x
    obtain rfl : (config, fresh) = y := same
    cases fresh with
    | true => exact agreeLog stand fun after other stand => agreePure ⟨rfl, w, stand⟩
    | false => exact agreePure ⟨rfl, w, stand⟩

theorem configMeets (starts : start.Starts second) :
    Meet start second config config fun x y => x = y := by
  unfold Meet
  rw [← bind_pure config, ← bind_pure (config (σ := Relational Decimal.Finite))]
  exact configAgrees starts.stand fun config after other _ stand => agreePure ⟨rfl, _, stand⟩

theorem recordAgrees (starts : start.Starts second) {payer : Raw} (id : EventId) {amount : Money} {currency : Raw}
    {after : Desk Journal} {other : TableDesk} (stand : start.Stand [] start.view after other)
    (pays : payer.isLegible = true) (priced : currency.isLegible = true) (small : amount.cents < 10 ^ 15) :
    (record payer id amount currency).Agree start [] (record payer id amount currency) after other
      fun x y after other => ∃ w, x.1 = y.1 ∧ start.Stand [] w after other := by
  let made (x y : Int × Decimal) (_ : View) : Prop := x.1 = y.1
  refine agreeBlock made stand fun after other stand => ?_
  obtain ⟨m, clock, datable, _⟩ := starts.fits.now
  let n := start.view.lastPayment + 1
  have planned : after.store.tables.plan .nextPaymentId = (.ok (n : Int), [.lastPayment n]) := by
    simp only [n, ← stand.view]
    rfl
  have answered : other.store.rows.call .nextPaymentId =
      .ok ((n : Int), { other.store.rows with lastPayment := other.store.rows.lastPayment + 1 }) := by
    simp only [n, ← stand.shows.lastPayment]
    rfl
  refine agreeCall stand planned answered stand.shows.nextPayment fun after other stand => agreeNow stand ?_
  let payment : Payment := ⟨.whole n, id, payer, amount, currency, .held, start.clock⟩
  have within : amount.cents < amountLimit := by
    unfold amountLimit
    omega
  have fits : payment.Fits := ⟨⟨n, starts.fits.payments, rfl⟩, pays, within, priced, ⟨m, clock, datable⟩⟩
  have free : start.view.payments.get? (.numbered n) = none := starts.reached.takings.series.fresh
  obtain ⟨rows, added, shows⟩ := stand.shows.addPayment fits rfl free
  have answered : other.store.rows.call (.addPayment payment) = .ok ((), rows) := by
    rw [Rows.call, added]
    rfl
  refine agreeCall stand rfl answered shows fun after other stand => ?_
  obtain ⟨total, read, rows, sum, added, shows⟩ := stand.shows.addRevenue (starts.fits.revenueBelow id) small
  have planned : after.store.tables.plan (.addRevenue id amount.toDecimal) = (.ok total, [.revenue id total]) := by
    have revenue : after.store.tables.revenue = start.view.revenue := congrArg View.revenue stand.view
    simp only [Tables.plan, revenue]
    rw [show ((start.view.revenue.get? id).getD .zero).add amount.toDecimal = .ok total from sum]
  exact agreeCall stand planned added shows fun after other stand => agreePure ⟨_, rfl, stand⟩

theorem payMeets (starts : start.Starts second) {payer given sum : Raw}
    (fits : (Operation.payForTicket payer given sum).fits = true) :
    Meet start second (pay payer given sum) (pay payer given sum) fun x y => x = y := by
  unfold Meet pay
  obtain ⟨pays, small⟩ := Bool.and_eq_true_iff.mp fits
  have stand := starts.stand
  refine agreeAuthenticate stand ?_
  refine agreeEventId stand fun id _ => ?_
  refine agreeCheck stand fun amount charged => ?_
  refine configAgrees stand fun config first other set stand => ?_
  refine agreeOpening stand (agreeGet ?_)
  rw [stand.escrowAccount]
  refine transferAgrees _ _ _ _ stand fun moved after other stand => ?_
  cases moved with
  | false => exact agreeLog stand fun after other stand => agreeThrow stand _
  | true =>
    have recorded := recordAgrees starts id stand pays (starts.stand.shows.priced config set)
      (chargedSmall small charged)
    refine agreeBind (agreeCatch recorded fun failure w after other stand => ?_) ?_
    · exact giveBackAgrees _ _ _ _ stand fun after other stand => agreeThrow stand failure
    · rintro ⟨paymentId, revenue⟩ ⟨_, revenue'⟩ after other ⟨w, rfl, stand⟩
      refine agreeLog stand fun after other stand => ?_
      exact agreeNotify rfl stand fun after other stand => agreePure ⟨rfl, w, stand⟩

theorem paymentMeets (starts : start.Starts second) {id : Raw} (whole : id.isWhole = true) :
    Meet start second (payment id) (payment id) fun x y => x.settled = y.settled := by
  unfold Meet payment
  have stand := starts.stand
  obtain ⟨n, rfl⟩ := Raw.wholeNumber whole
  have planned : start.store.tables.plan (.getPayment (.whole n)) =
      (.ok (start.view.payments.get? (.numbered n)), []) := rfl
  have answered : second.store.rows.call (.getPayment (.whole n)) =
      .ok ((start.view.payments.get? (.numbered n)).map Payment.settled, second.store.rows) := by
    rw [Rows.call, Rows.payment?, Raw.wholeInNumberColumn, ← stand.shows.payment]
    rfl
  refine agreeCall stand planned answered stand.shows fun after other stand => ?_
  cases start.view.payments.get? (.numbered n) with
  | none => exact agreeThrow stand _
  | some payment => exact agreePure ⟨payment.settledTwice.symm, _, stand⟩

theorem revenueMeets (starts : start.Starts second) (given : Raw) :
    Meet start second (revenue given) (revenue given) Decimal.Same := by
  unfold Meet revenue
  have stand := starts.stand
  refine agreeEventId stand fun id _ => ?_
  obtain ⟨read, is, same⟩ := stand.shows.revenueOf (starts.fits.revenueBelow id)
  have answered : second.store.rows.call (.getRevenue id) = .ok (read, second.store.rows) := by
    rw [Rows.call, is]
    rfl
  exact meetFound stand rfl answered same

theorem eventPaymentsMeets (starts : start.Starts second) (given : Raw) :
    Meet start second (eventPayments given) (eventPayments given) fun x y => x = y := by
  unfold Meet eventPayments
  have stand := starts.stand
  refine agreeEventId stand fun id _ => ?_
  have listed := Rows.Shows.idsListed starts.reached.takings.series stand.shows.payments (fun _ => rfl) id
  have answered : second.store.rows.call (.listEventPayments id) =
      .ok (start.view.eventPayments id, second.store.rows) := by
    rw [Rows.call, listed]
    rfl
  exact meetFound stand rfl answered rfl

end BoxOffice.Escrow
