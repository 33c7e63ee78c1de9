import BoxOffice.Proofs.Desk.Leads
import BoxOffice.Proofs.Store.Disturbance
import BoxOffice.Proofs.Store.Rollback

/-! Calls and blocks at a desk with a journalled store, whatever disturbances wait there. A call that
fails leaves a store that each open block can still be rolled back in, and so a block that fails
leaves a store that shows what it showed before. -/
namespace BoxOffice

/- The journal itself is left alone: no disturbance waits for the entry of what takes an edit back, which is
no call of a store but a step inside one. Disturbances of calls and of the other inner methods may wait. -/
def Desk.Tame {σ : Type} (desk : Desk σ) : Prop :=
  ∀ fault ∈ desk.storeFaults, fault.method ≠ entryMethod

theorem Desk.Around.tame {σ : Type} {before after : Desk σ} (around : before.Around after)
    (tame : before.Tame) : after.Tame :=
  fun fault mem => tame fault (around.faults mem)

namespace Action
variable {σ α : Type}

theorem struckFailure {desk : Desk σ} {method : String} {after : Bool} {failure : Failure}
    (struck : struck? desk method = some (after, failure)) : failure ≠ .receiverFailed := by
  unfold struck? at struck
  split at struck
  · cases struck
  · split at struck <;> cases struck <;> simp

theorem waitingTame {desk : Desk σ} (tame : desk.Tame) : waiting desk entryMethod = none := by
  have none : desk.storeFaults.filter (fun fault => fault.method == entryMethod) = [] := by
    rw [List.filter_eq_nil_iff]
    intro fault mem
    simpa using tame fault mem
  simp [waiting, struck?, none]

theorem stillForget (desk : Desk σ) (method : String) :
    desk.Still { desk with storeFaults := desk.storeFaults.filter fun fault => fault.method != method } :=
  ⟨⟨⟨rfl, rfl, rfl, rfl, rfl, rfl, fun _ mem => (List.mem_filter.mp mem).1, fun _ mem => mem⟩, rfl, rfl,
    rfl, .same rfl⟩, rfl⟩

theorem leadsDisturbed {desk : Desk σ} {method : String} {work : Action σ α}
    {fails : Failure → Desk σ → Prop} {holds : α → Desk σ → Prop} (covers : desk.Covers fails)
    (worked : ∀ start, desk.Still start →
      work.Leads start fails fun a after =>
        holds a after ∧ ∀ failure, failure ≠ .receiverFailed → fails failure after) :
    (disturbed method work).Leads desk fails holds := by
  unfold disturbed
  refine bindGet ?_
  split
  · exact leadsMono (worked desk (.refl desk)) (fun _ _ h => h) fun _ _ h => h.1
  · rename_i after failure struck
    have other := struckFailure struck
    refine bindModify ?_
    cases after with
    | false => exact leadsThrow (covers failure _ other (stillForget desk method))
    | true =>
      exact leadsBind (worked _ (stillForget desk method)) fun a last ends =>
        leadsThrow (ends.2 failure other)

theorem keptStore (desk : Desk σ) (store : σ) : desk.Kept { desk with store } :=
  ⟨⟨rfl, rfl, rfl, rfl, rfl, rfl, fun _ mem => mem, fun _ mem => mem⟩, rfl, rfl, rfl, .same rfl⟩

theorem bindForgetAll {methods : List String} {desk : Desk σ} {next : Unit → Action σ α}
    {fails : Failure → Desk σ → Prop} {holds : α → Desk σ → Prop}
    (later : ∀ after, desk.Still after → (next ()).Leads after fails holds) :
    (methods.forM (forget (σ := σ)) >>= next).Leads desk fails holds := by
  induction methods generalizing desk with
  | nil => exact later desk (.refl desk)
  | cons method rest ih =>
    unfold List.forM
    rw [bind_assoc]
    exact bindModify (ih fun after still => later after ((stillForget desk method).trans still))

def CallFails (c : StoreCall) (desk : Desk Journal) (failure : Failure) (after : Desk Journal) : Prop :=
  failure ≠ .receiverFailed ∧ desk.Kept after ∧
    ∃ n, after.store = ((desk.store.tables.plan c).2.take n).foldl Journal.record desk.store

def CallHolds (c : StoreCall) (desk : Desk Journal) (answer : c.Answer) (after : Desk Journal) : Prop :=
  desk.Kept after ∧ (desk.store.tables.plan c).1 = .ok answer ∧
    after.store = (desk.store.tables.plan c).2.foldl Journal.record desk.store

theorem leadsUndisturbed (c : StoreCall) (desk : Desk Journal) :
    (undisturbed c).Leads desk (CallFails c desk) (CallHolds c desk) := by
  unfold Leads undisturbed
  rw [performStep]
  simp only [RecordStore.call, Journal.call]
  cases answer : (desk.store.tables.plan c).1 with
  | error failure =>
    refine ⟨planFailure answer, keptStore _ _, (desk.store.tables.plan c).2.length, ?_⟩
    rw [List.take_length]
  | ok value => exact ⟨keptStore _ _, answer, rfl⟩

theorem leadsInterruptible (c : StoreCall) {desk : Desk Journal} (tame : desk.Tame) :
    (interruptible c).Leads desk (CallFails c desk) (CallHolds c desk) := by
  unfold interruptible
  refine bindGet ?_
  split
  · exact leadsUndisturbed c desk
  · rename_i ended interrupted
    have stopped : Journal.Stopped c desk.store ended := by
      refine Journal.passError (waitingTame tame) ?_
      simp only [RecordStore.interrupted] at interrupted
      unfold Passage.interruption? at interrupted
      split at interrupted
      · cases interrupted
      · rename_i early passed
        cases interrupted
        exact passed
    refine bindModify (bindForgetAll fun last still => ?_)
    obtain ⟨n, edits⟩ := stopped.store
    refine leadsThrow ⟨?_, (keptStore desk ended.store).trans still.toKept, n, still.store.trans edits⟩
    cases own : ended.failure with
    | some failure => simpa [own] using stopped.failure
    | none =>
      cases found : (ended.methods.getLast?.bind (struck? desk)).map Prod.snd with
      | none => simp
      | some failure =>
        obtain ⟨⟨after, _⟩, struck, rfl⟩ := Option.map_eq_some_iff.mp found
        obtain ⟨method, _, struck⟩ := Option.bind_eq_some_iff.mp struck
        exact struckFailure struck

theorem leadsCall (c : StoreCall) {desk : Desk Journal} (tame : desk.Tame) :
    (call c).Leads desk (CallFails c desk) (CallHolds c desk) := by
  unfold call
  refine leadsDisturbed (fun failure after other still => ⟨other, still.toKept, 0, still.store⟩)
    fun start still => ?_
  have work : (if start.storeFaults.isEmpty then undisturbed c else interruptible c).Leads start
      (CallFails c start) (CallHolds c start) := by
    split
    · exact leadsUndisturbed c start
    · exact leadsInterruptible c (still.tame tame)
  refine bindGet (leadsMono work ?_ ?_)
  · intro failure after ⟨other, kept, n, edits⟩
    rw [still.store] at edits
    exact ⟨other, still.toKept.trans kept, n, edits⟩
  · intro answer after ⟨kept, answered, edits⟩
    rw [still.store] at answered edits
    refine ⟨⟨still.toKept.trans kept, answered, edits⟩, fun failure other =>
      ⟨other, still.toKept.trans kept, (desk.store.tables.plan c).2.length, ?_⟩⟩
    rw [edits, List.take_length]

theorem bindRead {c : StoreCall} {desk : Desk Journal} {next : c.Answer → Action Journal α}
    {fails : Failure → Desk Journal → Prop} {holds : α → Desk Journal → Prop} (tame : desk.Tame)
    (reads : (desk.store.tables.plan c).2 = []) (covers : desk.Covers fails)
    (later : ∀ answer after, desk.Still after → (desk.store.tables.plan c).1 = .ok answer →
      (next answer).Leads after fails holds) :
    (call c >>= next).Leads desk fails holds := by
  refine leadsBind (leadsMono (leadsCall c tame) ?_ fun _ _ h => h) ?_
  · intro failure after ⟨other, kept, n, edits⟩
    rw [reads, List.take_nil] at edits
    exact covers failure after other ⟨kept, edits⟩
  · intro answer after ⟨kept, answered, edits⟩
    rw [reads] at edits
    exact later answer after ⟨kept, edits⟩ answered

end Action

def Desk.view (desk : Desk Journal) : View :=
  desk.store.tables.view

theorem Desk.Still.view {before after : Desk Journal} (still : before.Still after) :
    after.view = before.view := by
  rw [Desk.view, still.store]
  rfl

structure Desk.Under (start : Desk Journal) (copies : List View) (desk : Desk Journal) : Prop where
  kept : start.Kept desk
  tame : desk.Tame
  backed : desk.store.Backed copies

structure Desk.Stops (start : Desk Journal) (copies : List View) (failure : Failure)
    (after : Desk Journal) : Prop where
  other : failure ≠ .receiverFailed
  under : start.Under copies after

structure Desk.Refuses (start : Desk Journal) (failure : Failure) (after : Desk Journal) : Prop where
  other : failure ≠ .receiverFailed
  under : start.Under [] after
  view : after.view = start.view

namespace Desk.Under
variable {start desk after : Desk Journal} {copies : List View}

theorem refl (tame : desk.Tame) (backed : desk.store.Backed copies) : desk.Under copies desk :=
  ⟨.refl desk, tame, backed⟩

theorem still (under : start.Under copies desk) (still : desk.Still after) : start.Under copies after :=
  ⟨under.kept.trans still.toKept, still.tame under.tame, still.store ▸ under.backed⟩

theorem covers (under : start.Under copies desk) : desk.Covers (start.Stops copies) :=
  fun _ _ other late => ⟨other, under.still late⟩

end Desk.Under

namespace Action
variable {α : Type} {start desk : Desk Journal} {copies : List View}

theorem leadsCallUnder (under : start.Under copies desk) (c : StoreCall) :
    (call c).Leads desk (start.Stops copies) fun answer after =>
      start.Under copies after ∧ (desk.store.tables.plan c).1 = .ok answer ∧
        after.view = (desk.store.tables.plan c).2.foldl View.edit desk.view := by
  have fits := desk.store.tables.planFits c
  refine leadsMono (leadsCall c under.tame) ?_ ?_
  · intro failure after ⟨other, kept, n, edits⟩
    refine ⟨other, under.kept.trans kept, kept.tame under.tame, ?_⟩
    rw [edits]
    exact Journal.recordAllBacked under.backed (Tables.fitsAllTake fits n)
  · intro answer after ⟨kept, answered, edits⟩
    refine ⟨⟨under.kept.trans kept, kept.tame under.tame, ?_⟩, answered, ?_⟩
    · rw [edits]
      exact Journal.recordAllBacked under.backed fits
    · rw [Desk.view, edits, Journal.recordAllTables, Tables.viewEdits]
      rfl

theorem bindOpening {next : Unit → Action Journal α} {fails : Failure → Desk Journal → Prop}
    {holds : α → Desk Journal → Prop} (covers : desk.Covers fails)
    (later : ∀ after, desk.Still after → (next ()).Leads after fails holds) :
    (opening >>= next).Leads desk fails holds := by
  have begun : (opening : Action Journal Unit).Leads desk fails fun _ after => desk.Still after := by
    unfold opening
    have entered : (disturbed blockMethod (pure () : Action Journal Unit)).Leads desk fails
        fun _ after => desk.Still after :=
      leadsDisturbed covers fun first still =>
        leadsPure ⟨still, fun failure other => covers failure first other still⟩
    refine leadsBind entered fun _ after still => bindGet ?_
    split
    · rename_i failure barred
      refine leadsThrow (covers failure after ?_ still)
      simp only [RecordStore.barrier, Journal.barrier] at barred
      split at barred <;> cases barred
      simp
    · exact leadsPure still
  exact leadsBind begun fun _ => later

theorem leadsBlock {body : Action Journal α} (holds : α → View → Prop) (under : start.Under [] desk)
    (same : desk.view = start.view)
    (inside : ∀ first : Desk Journal, start.Under [start.view] first → first.view = start.view →
      body.Leads first (start.Stops [start.view])
        fun a after => start.Under [start.view] after ∧ holds a after.view) :
    (block body).Leads desk start.Refuses fun a after => start.Under [] after ∧ holds a after.view := by
  have entered : desk.Kept { desk with store := RecordStore.enter desk.store } := keptStore _ _
  have backed := Journal.enterBacked under.backed
  rw [← Desk.view, same] at backed
  have ends := inside { desk with store := RecordStore.enter desk.store }
    ⟨under.kept.trans entered, entered.tame under.tame, backed⟩ same
  unfold Leads block
  rw [performStep]
  unfold Leads at ends
  generalize body.perform { desk with store := RecordStore.enter desk.store } = ran at ends ⊢
  rcases ran with ⟨failure | a, after⟩
  · obtain ⟨backed, back⟩ := Journal.rollBackBacked ends.under.backed
    exact ⟨ends.other, ⟨ends.under.kept.trans (keptStore _ _), (keptStore after _).tame ends.under.tame,
      backed⟩, back⟩
  · obtain ⟨under, held⟩ := ends
    have left : after.store.leave.tables = after.store.tables := Journal.leaveTables _
    refine ⟨⟨under.kept.trans (keptStore _ _), (keptStore after _).tame under.tame,
      Journal.leaveBacked under.backed⟩, ?_⟩
    rw [Desk.view, left]
    exact held

theorem leadsAtomically {body : Action Journal α} (holds : α → View → Prop)
    (under : start.Under [] desk) (same : desk.view = start.view)
    (inside : ∀ first : Desk Journal, start.Under [start.view] first → first.view = start.view →
      body.Leads first (start.Stops [start.view])
        fun a after => start.Under [start.view] after ∧ holds a after.view) :
    (atomically body).Leads desk start.Refuses fun a after => start.Under [] after ∧ holds a after.view :=
  bindOpening (fun _ _ other still => ⟨other, under.still still, still.view.trans same⟩)
    fun _ still => leadsBlock holds (under.still still) (still.view.trans same) inside

end Action
end BoxOffice
