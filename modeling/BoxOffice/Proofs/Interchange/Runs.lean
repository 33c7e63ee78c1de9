import BoxOffice.Proofs.Interchange.Admission
import BoxOffice.Proofs.Interchange.Allocation
import BoxOffice.Proofs.Interchange.Escrow

/-! Runs of steps at two desks, one with a store in memory and one with a relational store. As long as what is
asked and what is stored fits the columns, every step ends alike at both. -/
namespace BoxOffice
open BoxOffice.Action

namespace Desk.Stand
variable {start first : Desk Journal} {second : TableDesk} {blocks : List (View × Rows Decimal.Finite)} {v : View}

theorem anew (stand : start.Stand blocks v first second) : first.Stand blocks first.view first second :=
  { stand with around := .refl first, view := rfl, shows := by rw [stand.view]; exact stand.shows }

end Desk.Stand

section
variable {start : Desk Journal} {second : TableDesk}

theorem Action.meetAs {α β : Type} {a : Action Journal α} {b : Action (Relational Decimal.Finite) β}
    {alike : α → β → Prop} {f : α → Answer} {g : β → Answer} (meets : Meet start second a b alike)
    (shown : ∀ x y, alike x y → (f x).Alike (g y)) :
    Meet start second (a >>= fun x => pure (f x)) (b >>= fun y => pure (g y)) Answer.Alike := by
  refine agreeBind meets ?_
  rintro x y after other ⟨same, stand⟩
  exact agreePure ⟨shown x y same, stand⟩

theorem Operation.runMeets (starts : start.Starts second) {request : Operation} (fits : request.fits = true) :
    Meet start second request.run request.run Answer.Alike := by
  have raws (xs ys : List Raw) (same : xs = ys) : (Answer.values xs).Alike (.values ys) := congrArg _ same
  cases request with
  | createEvent => exact meetAs (Registry.createMeets starts fits) fun _ _ same => same
  | updateEventDetails => exact meetAs (Registry.updateDetailsMeets starts _ _ fits) fun _ _ same => same
  | addTicketTier => exact meetAs (Registry.addTierMeets starts _ _ fits) fun _ _ same => same
  | updateTier => exact meetAs (Registry.updateTierMeets starts _ _ _ fits) fun _ _ same => same
  | updateEventStatus => exact meetAs (Registry.updateStatusMeets starts _ _ _) fun _ _ same => same
  | cancelEvent => exact meetAs (Registry.cancelMeets starts _ _) fun _ _ same => same
  | getEvent given =>
    refine Registry.getAgrees given starts.stand fun event after other _ stand => ?_
    exact agreePure ⟨event.settledTwice.symm, _, stand⟩
  | getEventStatus given =>
    exact Registry.getAgrees given starts.stand fun event after other _ stand => agreePure ⟨rfl, _, stand⟩
  | listEvents => exact meetAs (Registry.listMeets starts fits) fun _ _ same => same
  | registerForEvent => exact meetAs (Allocation.registerMeets starts fits) fun _ _ same => same
  | isRegistered => exact meetAs (Allocation.isRegisteredMeets starts _ fits) fun _ _ same => same
  | getAttendees => exact meetAs (Allocation.attendeesMeets starts _) raws
  | setUpEscrow => exact meetAs (Escrow.setUpMeets starts fits) fun _ _ same => same
  | getEscrow => exact meetAs (Escrow.configMeets starts) fun _ _ same => same
  | payForTicket => exact meetAs (Escrow.payMeets starts fits) fun _ _ same => same
  | getPayment => exact meetAs (Escrow.paymentMeets starts fits) fun _ _ same => same
  | getEventRevenue => exact meetAs (Escrow.revenueMeets starts _) fun _ _ same => same
  | getEventPayments => exact meetAs (Escrow.eventPaymentsMeets starts _) raws
  | mintTicket => exact meetAs (Admission.mintMeets starts fits) fun _ _ same => same
  | transferTicket => exact meetAs (Admission.transferMeets starts fits) fun _ _ same => same
  | useTicket => exact meetAs (Admission.useMeets starts _ fits) fun _ _ same => same
  | cancelTicket => exact meetAs (Admission.cancelMeets starts _ fits) fun _ _ same => same
  | getTicket => exact meetAs (Admission.loadMeets starts fits) fun _ _ same => same
  | getOwnerTickets => exact meetAs (Admission.ownerTicketsMeets starts fits) fun _ _ same => same
  | getEventTickets => exact meetAs (Admission.eventTicketsMeets starts _) raws

namespace Step

def Agrees (step : Step) (start : Desk Journal) (second : TableDesk) : Prop :=
  step.run.Agree start [] step.run start second
    fun x y after other => x.Alike y ∧ after.Stand [] after.view after other

section
variable {γ δ : Type} {ends : γ → δ → Desk Journal → TableDesk → Prop}

theorem ownVerifierAgrees {next : Verifier → Action Journal γ}
    {next' : Verifier → Action (Relational Decimal.Finite) δ} (stand : start.Stand [] start.view start second)
    (later : ∀ verifier, (next verifier).Agree start [] (next' verifier) start second ends) :
    (ownVerifier >>= next).Agree start [] (ownVerifier >>= next') start second ends := by
  unfold ownVerifier
  rw [bind_assoc, bind_assoc]
  refine agreeGet ?_
  rw [stand.verifier]
  cases start.verifier with
  | none => exact agreeThrow stand _
  | some verifier => exact later verifier

theorem bookAgrees {next : Funds → Action Journal γ} {next' : Funds → Action (Relational Decimal.Finite) δ}
    (stand : start.Stand [] start.view start second)
    (later : (next start.funds).Agree start [] (next' start.funds) start second ends) :
    (Action.book >>= next).Agree start [] (Action.book >>= next') start second ends := by
  unfold Action.book
  rw [bind_assoc, bind_assoc]
  refine agreeGet ?_
  rw [stand.keepsFunds, stand.funds]
  by_cases keeps : start.keepsFunds = true
  · rw [if_pos keeps, if_pos keeps, pure_bind, pure_bind]
    exact later
  · rw [if_neg keeps, if_neg keeps]
    exact agreeThrow stand _

end

theorem replaceAgrees (change : Verifier → Except Failure Verifier) (stand : start.Stand [] start.view start second) :
    (replaceVerifier change).Agree start [] (replaceVerifier change) start second
      fun x y after other => x.Alike y ∧ after.Stand [] after.view after other := by
  refine ownVerifierAgrees stand fun own => agreeCheck stand fun verifier _ => agreeModify ?_
  exact agreePure ⟨trivial, { stand.anew with verifier := rfl, around := .refl _ }⟩

theorem runAgrees {step : Step} (starts : start.Starts second) (fits : step.fits = true) :
    step.Agrees start second := by
  unfold Agrees
  have stand := starts.stand
  cases step with
  | operation request =>
    refine agreeMono (Operation.runMeets starts fits) ?_
    rintro x y after other ⟨same, v, stand⟩
    exact ⟨same, stand.anew⟩
  | approve identity => exact replaceAgrees _ stand
  | revoke identity => exact replaceAgrees _ stand
  | verify identity =>
    refine ownVerifierAgrees stand fun own => ?_
    exact agreeCheck stand fun verified _ => agreePure ⟨rfl, stand.anew⟩
  | deposit currency account amount =>
    refine bookAgrees stand (agreeCheck stand fun held _ => agreeCheck stand fun party _ => ?_)
    refine agreeCheck stand fun sum _ => agreeCheck stand fun funds _ => agreeModify ?_
    exact agreePure ⟨trivial, { stand.anew with funds := rfl, around := .refl _ }⟩
  | balance currency account =>
    have read : (balanceOf currency account).Agree start [] (balanceOf currency account) start second
        fun x y after other => x = y ∧ after = start ∧ other = second := by
      refine bookAgrees stand (agreeCheck stand fun held _ => agreeCheck stand fun party _ => ?_)
      exact agreePure ⟨rfl, rfl, rfl⟩
    refine agreeBind read ?_
    rintro x _ after other ⟨rfl, rfl, rfl⟩
    exact agreePure ⟨.inl rfl, stand.anew⟩
  | transfer currency source target amount =>
    refine bookAgrees stand (agreeCheck stand fun sum _ => ?_)
    refine Escrow.transferAgrees _ _ _ _ stand fun moved after other stand => ?_
    exact agreePure ⟨rfl, stand.anew⟩
  | advance seconds micros =>
    refine agreeCheck stand fun span _ => agreeGet ?_
    rw [stand.clock]
    refine agreeCheck stand fun clock _ => agreeModify ?_
    exact agreePure ⟨rfl, { stand.anew with clock := rfl, around := .refl _ }⟩
  | breakReceiver name =>
    refine agreeModify (agreePure ⟨trivial, { stand.anew with brokenReceivers := ?_, around := .refl _ }⟩)
    rw [stand.brokenReceivers]
  | unreadable failure => exact agreeThrow stand failure
  | configure _ | seed _ | breakStore _ | survey _ _ _ => cases fits

theorem takeAlike {step : Step} (starts : start.Starts second) (fits : step.fits = true) :
    (step.take start).1.Alike (step.take second).1 ∧
      (step.take start).2.Stand [] (step.take start).2.view (step.take start).2 (step.take second).2 := by
  have ran := runAgrees starts fits
  have told : second.notices.length = start.notices.length := by
    simpa using congrArg List.length starts.stand.notices
  unfold Agrees Action.Agree at ran
  unfold take
  generalize step.run.perform start = ended at ran ⊢
  generalize step.run.perform second = ended' at ran ⊢
  obtain ⟨failure | x, after⟩ := ended <;> obtain ⟨failure' | y, other⟩ := ended'
  · obtain ⟨same, v, stand⟩ := ran
    refine ⟨⟨same, ?_⟩, stand.anew⟩
    rw [List.map_drop, List.map_drop, told, stand.notices]
  · exact ran.elim
  · exact ran.elim
  · obtain ⟨same, stand⟩ := ran
    refine ⟨⟨same, ?_⟩, stand⟩
    rw [List.map_drop, List.map_drop, told, stand.notices]

theorem fitsOrdinary {step : Step} (fits : step.fits = true) : step.Ordinary := by
  cases step with
  | configure _ | seed _ | breakStore _ | survey _ _ _ => cases fits
  | _ => trivial

def AllFit : List Step → Desk Journal → Prop
  | [], _ => True
  | step :: rest, desk => step.fits = true ∧ desk.Fits ∧ AllFit rest (step.take desk).2

instance allFitDecidable : (steps : List Step) → (desk : Desk Journal) → Decidable (AllFit steps desk)
  | [], _ => .isTrue trivial
  | _ :: rest, _ => @instDecidableAnd _ _ _ (@instDecidableAnd _ _ _ (allFitDecidable rest _))

theorem takeAllAlike {steps : List Step} (fit : AllFit steps start) (stand : start.Stand [] start.view start second)
    (reached : start.store.Reached) :
    List.Forall₂ Record.Alike (takeAll steps start).1 (takeAll steps second).1 := by
  induction steps generalizing start second with
  | nil => exact .nil
  | cons step rest ih =>
    obtain ⟨fits, desk, later⟩ := fit
    have tame : start.Tame := by
      rw [Desk.Tame, stand.quiet]
      exact nofun
    obtain ⟨alike, stand'⟩ := takeAlike ⟨stand, desk, reached⟩ fits
    exact .cons alike (ih later stand' (takeReached (fitsOrdinary fits) reached tame).1)

end Step

end

theorem Desk.openedStand (verifier : Option Verifier) (clock : Option Moment) (settings : Settings)
    (escrowAccount : Raw) (checksEvents keepsFunds : Bool) :
    let first : Desk Journal := .opened .empty verifier clock settings escrowAccount checksEvents keepsFunds
    first.Stand [] first.view first (.opened .empty verifier clock settings escrowAccount checksEvents keepsFunds) where
  funds := rfl
  verifier := rfl
  clock := rfl
  settings := rfl
  escrowAccount := rfl
  checksEvents := rfl
  keepsFunds := rfl
  brokenReceivers := rfl
  quiet := rfl
  quiet' := rfl
  notices := rfl
  around := .refl _
  view := rfl
  backed := .outside _
  starts := rfl
  shows := .empty

/-- The two stores are interchangeable. Let a run be taken at a desk with a new store in memory, and once more at
a desk with a new relational store that is alike otherwise. As long as what is asked and what is stored fits the
columns, every step ends alike at both: in the same failure or with the same answer, up to the form of amounts and
the zones of times, and what is sent meanwhile is the same. -/
theorem storesInterchangeable {verifier : Option Verifier} {clock : Option Moment} {settings : Settings}
    {escrowAccount : Raw} {checksEvents keepsFunds : Bool} {steps : List Step}
    (fit : Step.AllFit steps (.opened .empty verifier clock settings escrowAccount checksEvents keepsFunds)) :
    List.Forall₂ Step.Record.Alike
      (Step.takeAll steps
        (.opened (.empty : Journal) verifier clock settings escrowAccount checksEvents keepsFunds)).1
      (Step.takeAll steps
        (.opened (.empty : Relational Decimal.Finite) verifier clock settings escrowAccount checksEvents keepsFunds)).1 :=
  Step.takeAllAlike fit (Desk.openedStand ..) .empty

/- An event with two tiers is set up and attended, paid for and admitted to. In the end one place is missing,
and nothing else is refused. -/
theorem storesInterchangeableGala :
    let now : Moment := ⟨63870000000000000, some 7200000000⟩
    let date : Moment := ⟨63880000000000000, some (-3600000000)⟩
    let steps : List Step :=
      [.operation (.createEvent (.text "host") (.text "gala") (.text "Gala") (.text "") (.text "Hall") (some date)
        [⟨.text "Floor", .text "12.5", .whole 1⟩, ⟨.text "Balcony", .text "30", .whole 5⟩]),
      .operation (.updateTier (.text "host") (.text "gala") (.whole 1) ⟨none, some (.text "25.00"), none⟩),
      .operation (.updateEventStatus (.text "host") (.text "gala") (.text "active")),
      .operation (.setUpEscrow (.text "host") (.text "EUR")),
      .deposit (.text "EUR") (.text "ann") (.text "40"),
      .operation (.registerForEvent (.text "ann") (.text "gala") (.whole 0)),
      .operation (.payForTicket (.text "ann") (.text "gala") (.text "12.5")),
      .operation (.mintTicket (.text "host") (.text "gala") (.text "ann")),
      .advance (.whole 60) (.whole 0),
      .operation (.transferTicket (.text "ann") (.text "bob") (.whole 1)),
      .operation (.useTicket (.text "host") (.whole 1)),
      .operation (.registerForEvent (.text "bob") (.text "gala") (.whole 0)),
      .operation (.getOwnerTickets (.text "bob")),
      .operation (.getEventRevenue (.text "gala")),
      .operation (.listEvents .nothing)]
    let first : Desk Journal := .opened .empty none (some now) .standard (.text "escrow") true true
    let second : TableDesk := .opened .empty none (some now) .standard (.text "escrow") true true
    let failures : List (Option Failure) := List.replicate 11 none ++ [some (.event .tierSoldOut), none, none, none]
    Step.AllFit steps first ∧
      List.Forall₂ Step.Record.Alike (Step.takeAll steps first).1 (Step.takeAll steps second).1 ∧
      (Step.takeAll steps first).1.map Step.Record.failure? = failures ∧
      (Step.takeAll steps second).1.map Step.Record.failure? = failures := by
  intro now date steps first second failures
  have fit : Step.AllFit steps first := by decide +kernel
  have alike : List.Forall₂ Step.Record.Alike (Step.takeAll steps first).1 (Step.takeAll steps second).1 :=
    storesInterchangeable fit
  have ended : (Step.takeAll steps first).1.map Step.Record.failure? = failures := by decide +kernel
  exact ⟨fit, alike, ended, (Step.Record.failuresAlike alike).symm.trans ended⟩

end BoxOffice
