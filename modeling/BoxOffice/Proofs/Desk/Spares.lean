import BoxOffice.Desk.Escrow
import BoxOffice.Proofs.Event
import BoxOffice.Proofs.Store.Disturbance

/-! The checks on requests fail in ways of their own: the failure of a receiver is never among
them. -/
namespace BoxOffice

def Spares {α : Type} (value : Except Failure α) : Prop :=
  value ≠ .error .receiverFailed

namespace Spares
variable {α β : Type}

theorem ok (a : α) : Spares (.ok a) := nofun

theorem pure (a : α) : Spares (Pure.pure a) := nofun

theorem error {failure : Failure} (other : failure ≠ .receiverFailed) :
    Spares (.error failure : Except Failure α) :=
  fun same => other (Except.error.inj same)

theorem failure {value : Except Failure α} {failure : Failure} (spares : Spares value)
    (failed : value = .error failure) : failure ≠ .receiverFailed := by
  rintro rfl
  exact spares failed

theorem bind {value : Except Failure α} {next : α → Except Failure β} (first : Spares value)
    (later : ∀ a, Spares (next a)) : Spares (value >>= next) := by
  cases value with
  | error failure => exact error (first.failure rfl)
  | ok a => exact later a

theorem mapM {check : α → Except Failure β} (each : ∀ a, Spares (check a)) (items : List α) :
    Spares (items.mapM check) := by
  induction items with
  | nil => exact pure []
  | cons item rest ih =>
    rw [List.mapM_cons]
    exact bind (each item) fun b => bind ih fun bs => pure (b :: bs)

theorem guard {c : Prop} [Decidable c] {failure : Failure} {next : Unit → Except Failure α}
    (other : failure ≠ .receiverFailed) (later : Spares (next ())) :
    Spares (if c then (throw failure : Except Failure Unit) >>= next else next ()) := by
  split
  · exact error other
  · exact later

end Spares

theorem labelSpares (value : Raw) : Spares (Checked.label value) := by
  intro failed
  cases labelFailure failed

theorem quantitySpares (value : Raw) : Spares (Quantity.ofRaw value) := by
  unfold Quantity.ofRaw
  split
  · exact .ok _
  · exact .error nofun

theorem floatingSpares (value : Quantity) : Spares value.toFloating := by
  unfold Quantity.toFloating
  repeat' split
  all_goals first | exact .ok _ | exact .error nofun

theorem plusSpares (a b : Quantity) : Spares (a.plus b) := by
  unfold Quantity.plus
  split
  · exact .ok _
  · exact .bind (floatingSpares a) fun _ => .bind (floatingSpares b) fun _ => .pure _

theorem wholeSpares (value : Quantity) : Spares value.wholePart := by
  unfold Quantity.wholePart
  split
  all_goals first | exact .ok _ | exact .error nofun

namespace Raw

theorem plusSpares (a b : Raw) : Spares (a.plus b) :=
  .bind (quantitySpares a) fun _ => .bind (quantitySpares b) fun _ =>
    .bind (BoxOffice.plusSpares _ _) fun _ => .pure _

theorem belowSpares (a b : Raw) : Spares (a.isBelow b) :=
  .bind (quantitySpares a) fun _ => .bind (quantitySpares b) fun _ => .pure _

theorem atMostSpares (a b : Raw) : Spares (a.isAtMost b) :=
  .bind (quantitySpares a) fun _ => .bind (quantitySpares b) fun _ => .pure _

theorem wholePartSpares (value : Raw) : Spares value.wholePart :=
  .bind (quantitySpares value) fun _ => wholeSpares _

end Raw

theorem Verifier.verifySpares (verifier : Verifier) (caller : Raw) :
    Spares (verifier.verify caller) := by
  cases verifier with
  | trustedHost => exact .ok _
  | approved labels => exact .bind (labelSpares caller) fun _ => .pure _
  | unfit => exact .error nofun

theorem textSpares (value : Raw) (field : TextField) : Spares (requireText value field) := by
  unfold requireText
  split
  · exact .ok _
  · exact .error nofun

theorem givenSpares (date : Option Moment) : Spares (requireGiven date) := by
  cases date with
  | some date => exact .ok _
  | none => exact .error nofun

theorem laterSpares (clock : Option Moment) (micros : Int) : Spares (later clock micros) := by
  unfold later
  repeat' split
  all_goals first | exact .ok _ | exact .error nofun

theorem dateSpares (settings : Settings) (now : Option Moment) (date : Moment) :
    Spares (requireDate settings now date) := by
  unfold requireDate
  split
  · exact .error nofun
  split
  · rename_i failure failed
    exact .error ((laterSpares now _).failure failed)
  · split
    all_goals first | exact .ok _ | exact .error nofun

theorem capacitySpares (settings : Settings) (value : Raw) : Spares (requireCapacity settings value) := by
  unfold requireCapacity
  split
  · refine .guard nofun (.bind (.bind (Raw.atMostSpares _ _) fun _ => .pure _) fun admitted => ?_)
    split
    · exact .pure _
    · exact .error nofun
  · exact .error nofun

theorem priceSpares (value : Raw) : Spares (requirePrice value) := by
  unfold requirePrice
  split
  · exact .ok _
  · exact .error nofun

theorem amountSpares (value : Raw) : Spares (Escrow.requireAmount value) := by
  unfold Escrow.requireAmount
  repeat' split
  all_goals first | exact .ok _ | exact .error nofun

theorem renewedSpares {α β : Type} {check : α → Except Failure β} (each : ∀ a, Spares (check a))
    (old : β) (given : Option α) : Spares (renewed check old given) := by
  cases given with
  | some value => exact each value
  | none => exact .ok old

namespace Tier

theorem ofSpecSpares (settings : Settings) (id : Raw) (spec : TierSpec) :
    Spares (ofSpec settings id spec) :=
  .bind (textSpares _ _) fun _ => .bind (capacitySpares settings _) fun _ =>
    .bind (priceSpares _) fun _ => .pure _

theorem changeSpares (settings : Settings) (changes : TierChanges) (tier : Tier) :
    Spares (tier.change settings changes) := by
  have capacity (value : Raw) : Spares (tier.renewedCapacity settings value) :=
    .bind (capacitySpares settings _) fun _ => .bind (Raw.belowSpares _ _) fun _ =>
      .guard nofun (.pure _)
  rw [changeParts]
  exact .bind (renewedSpares (textSpares · _) _ _) fun _ =>
    .bind (renewedSpares priceSpares _ _) fun _ => .bind (renewedSpares capacity _ _) fun _ => .pure _

theorem soldOutSpares (tier : Tier) : Spares tier.isSoldOut :=
  Raw.atMostSpares _ _

theorem sellSpares (tier : Tier) : Spares tier.sell :=
  .bind (Raw.plusSpares _ _) fun _ => .pure _

end Tier

namespace Event

theorem draftSpares (settings : Settings) (now : Option Moment) (organizer : Raw) (id : EventId)
    (name description venue : Raw) (date : Option Moment) (specs : List TierSpec) :
    Spares (draft settings now organizer id name description venue date specs) :=
  .bind (textSpares _ _) fun _ => .bind (textSpares _ _) fun _ => .guard nofun <|
    .bind (.mapM (fun _ => textSpares _ _) specs) fun _ => .bind (givenSpares date) fun _ =>
      .bind (dateSpares settings now _) fun _ => .bind (.mapM (fun _ => capacitySpares settings _) specs) fun _ =>
        .bind (.mapM (fun _ => priceSpares _) specs) fun _ => .pure _

theorem changeSpares (settings : Settings) (now : Option Moment) (changes : EventChanges)
    (event : Event) : Spares (event.change settings now changes) := by
  have date (value : Moment) : Spares (renewedDate settings now value) :=
    .bind (dateSpares settings now value) fun _ => .pure _
  rw [changeParts]
  exact .bind (renewedSpares (textSpares · _) _ _) fun _ =>
    .bind (renewedSpares (textSpares · _) _ _) fun _ => .bind (renewedSpares date _ _) fun _ => .pure _

theorem greatestSpares (first : Raw) (rest : List Raw) : Spares (greatest first rest) := by
  induction rest generalizing first with
  | nil => exact .ok _
  | cons next rest ih => exact .bind (Raw.belowSpares _ _) fun _ => ih _

theorem nextTierIdSpares (event : Event) : Spares event.nextTierId := by
  unfold nextTierId
  split
  · exact .ok _
  · exact .bind (greatestSpares _ _) fun _ => Raw.plusSpares _ _

end Event

theorem arithmeticFailure (fault : Decimal.Fault) : Failure.ofArithmetic fault ≠ .receiverFailed := by
  cases fault <;> simp [Failure.ofArithmetic]

end BoxOffice
