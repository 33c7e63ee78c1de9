import BoxOffice.Proofs.Desk.Regular
import BoxOffice.Proofs.Desk.Spares

/-! Rules for the steps of which requests are made: who calls, which event is named, what is read and
written inside a block, and what is told after it. -/
namespace BoxOffice

namespace Desk
variable {start desk after : Desk Journal} {view : View} {funds : Funds} {told : List Notice}
  {copies : List View}

theorem Took.still (took : start.Took view funds told desk) (still : desk.Still after) :
    start.Took view funds told after where
  toAround := took.toAround.trans still.toAround
  tame := still.tame took.tame
  idle := still.store ▸ took.idle
  view := still.view.trans took.view
  funds := still.funds.trans took.funds
  notices := still.notices.trans took.notices

theorem Took.logged (took : start.Took view funds told desk) (log : List LogLine) :
    start.Took view funds told { desk with log } where
  toAround := took.toAround.trans ⟨rfl, rfl, rfl, rfl, rfl, rfl, fun _ mem => mem, fun _ mem => mem⟩
  tame := took.tame
  idle := took.idle
  view := took.view
  funds := took.funds
  notices := took.notices

theorem Took.under (took : start.Took view funds told desk) (under : desk.Under [] after) :
    start.Took after.view funds told after where
  toAround := took.toAround.trans under.kept.toAround
  tame := under.tame
  idle := under.backed
  view := rfl
  funds := under.kept.funds.trans took.funds
  notices := under.kept.notices.trans took.notices

theorem Under.took (under : start.Under [] after) :
    start.Took after.view start.funds [] after where
  toAround := under.kept.toAround
  tame := under.tame
  idle := under.backed
  view := rfl
  funds := under.kept.funds
  notices := by simpa using under.kept.notices

theorem Ready.under (ready : start.Ready) : start.Under [] start :=
  .refl ready.tame ready.idle

theorem Ready.started (ready : start.Ready) : start.Took start.view start.funds [] start :=
  ready.under.took

structure Inside (start : Desk Journal) (view : View) (desk : Desk Journal) : Prop
    extends start.Under [start.view] desk where
  view : desk.view = view

theorem Inside.still (inside : start.Inside view desk) (still : desk.Still after) :
    start.Inside view after :=
  ⟨inside.toUnder.still still, still.view.trans inside.view⟩

theorem Inside.covers (inside : start.Inside view desk) : desk.Covers (start.Stops [start.view]) :=
  inside.toUnder.covers

theorem Refuses.ends {failure : Failure} (refuses : start.Refuses failure after) (request : Operation) :
    start.Ends request (.error failure) after := by
  have took := refuses.under.took
  rw [refuses.view] at took
  exact .refused refuses.other (fun _ => took.funds) (by rw [took.funds]; exact took)

theorem Took.covers (took : start.Took start.view start.funds [] desk) (request : Operation) :
    desk.Covers fun failure after => start.Ends request (.error failure) after := by
  intro failure after other still
  have ended := took.still still
  exact .refused other (fun _ => ended.funds) (by rw [ended.funds]; exact ended)

end Desk

namespace Action
variable {σ α β : Type}

theorem throwCovered {desk : Desk σ} {failure : Failure} {next : β → Action σ α}
    {fails : Failure → Desk σ → Prop} {holds : α → Desk σ → Prop} (other : failure ≠ .receiverFailed)
    (covers : desk.Covers fails) : ((throw failure : Action σ β) >>= next).Leads desk fails holds :=
  leadsBind (leadsThrow (covers _ _ other (.refl desk))) fun _ _ (h : False) => h.elim

theorem bindAuthenticate {desk : Desk σ} {caller : Raw} {refusal : Failure} {next : Unit → Action σ α}
    {fails : Failure → Desk σ → Prop} {holds : α → Desk σ → Prop} (other : refusal ≠ .receiverFailed)
    (covers : desk.Covers fails) (later : desk.Verified caller → (next ()).Leads desk fails holds) :
    (authenticate caller refusal >>= next).Leads desk fails holds := by
  unfold authenticate
  rw [bind_assoc]
  refine bindGet ?_
  rw [bind_assoc]
  refine bindExcept (fun failure failed => ?_) fun verified answer => ?_
  · exact covers failure desk ((Verifier.verifySpares _ _).failure failed) (.refl desk)
  cases verified with
  | false => exact throwCovered other covers
  | true => exact later answer

theorem bindEventId {desk : Desk σ} {given : Raw} {refusal : Failure} {next : EventId → Action σ α}
    {fails : Failure → Desk σ → Prop} {holds : α → Desk σ → Prop} (other : refusal ≠ .receiverFailed)
    (covers : desk.Covers fails)
    (later : ∀ id : EventId, given = .text id.text → (next id).Leads desk fails holds) :
    (eventId given refusal >>= next).Leads desk fails holds := by
  unfold eventId
  split
  · split
    · rename_i text id read
      exact later id (by rw [EventId.textOfText read])
    · exact throwCovered other covers
  · exact throwCovered other covers

theorem guardCovered {desk : Desk σ} {c : Prop} [Decidable c] {failure : Failure}
    {next : Unit → Action σ α} {fails : Failure → Desk σ → Prop} {holds : α → Desk σ → Prop}
    (other : failure ≠ .receiverFailed) (covers : desk.Covers fails)
    (later : ¬c → (next ()).Leads desk fails holds) :
    (if c then (throw failure : Action σ Unit) >>= next else next ()).Leads desk fails holds :=
  leadsGuard (fun _ => covers failure desk other (.refl desk)) later

theorem bindCheck {desk : Desk σ} {value : Except Failure β} {next : β → Action σ α}
    {fails : Failure → Desk σ → Prop} {holds : α → Desk σ → Prop} (spares : Spares value)
    (covers : desk.Covers fails) (later : ∀ b, value = .ok b → (next b).Leads desk fails holds) :
    ((liftM value : Action σ β) >>= next).Leads desk fails holds :=
  bindExcept (fun failure failed => covers failure desk (spares.failure failed) (.refl desk)) later

theorem bindWhole {desk : Desk σ} {given : Raw} {n : Int} {next : Int → Action σ α}
    {fails : Failure → Desk σ → Prop} {holds : α → Desk σ → Prop} (key : given.key = .whole n)
    (later : ∀ m, (next m).Leads desk fails holds) :
    ((liftM given.wholePart : Action σ Int) >>= next).Leads desk fails holds := by
  refine bindExcept (fun failure failed => ?_) fun m _ => later m
  obtain ⟨m, part⟩ := Raw.wholePartOfKey key
  rw [part] at failed
  cases failed

theorem notifyHeard (notice : Notice) (desk : Desk σ) :
    (notify notice).Leads desk
      (fun failure after => failure = .receiverFailed ∧ desk.Around after ∧ after.store = desk.store ∧
        after.funds = desk.funds ∧ after.notices = desk.notices ++ [notice])
      fun _ after => desk.Around after ∧ after.store = desk.store ∧ after.funds = desk.funds ∧
        after.notices = desk.notices ++ [notice] := by
  unfold Leads notify
  rw [performStep]
  dsimp only
  split <;> rename_i ends
  · split at ends <;> cases ends
    refine ⟨rfl, ⟨rfl, rfl, rfl, rfl, rfl, rfl, fun _ mem => mem, ?_⟩, rfl, rfl, rfl⟩
    exact fun _ mem => (List.mem_filter.mp mem).1
  · split at ends <;> cases ends
    exact ⟨⟨rfl, rfl, rfl, rfl, rfl, rfl, fun _ mem => mem, fun _ mem => mem⟩, rfl, rfl, rfl⟩

section
variable {start desk : Desk Journal} {copies : List View} {view : View} {funds : Funds}
  {told : List Notice} {notice : Notice} {fails : Failure → Desk Journal → Prop}
  {holds : α → Desk Journal → Prop}

theorem bindNotify {next : Unit → Action Journal α} (took : start.Took view funds told desk)
    (failing : ∀ after, start.Took view funds (told ++ [notice]) after → fails .receiverFailed after)
    (later : ∀ after, start.Took view funds (told ++ [notice]) after →
      (next ()).Leads after fails holds) :
    (notify notice >>= next).Leads desk fails holds := by
  have heard (after : Desk Journal) (around : desk.Around after) (store : after.store = desk.store)
      (book : after.funds = desk.funds) (notices : after.notices = desk.notices ++ [notice]) :
      start.Took view funds (told ++ [notice]) after :=
    ⟨took.toAround.trans around, around.tame took.tame, store ▸ took.idle,
      by rw [Desk.view, store]; exact took.view, book.trans took.funds,
      by rw [notices, took.notices, List.append_assoc]⟩
  refine leadsBind (leadsMono (notifyHeard notice desk) ?_ fun _ _ h => h) ?_
  · rintro failure after ⟨rfl, around, store, book, notices⟩
    exact failing after (heard after around store book notices)
  · rintro _ after ⟨around, store, book, notices⟩
    exact later after (heard after around store book notices)

theorem tellsOnce {request : Operation} {edits : List Edit} {answer : α → Answer} {value : α}
    (effect : start.Effect request edits funds [notice] (answer value))
    (took : start.Took (edits.foldl View.edit start.view) funds [] desk) :
    (notify notice >>= fun _ => (pure value : Action Journal α)).Leads desk
      (fun failure after => start.Ends request (.error failure) after)
      fun value after => start.Ends request (.ok (answer value)) after :=
  bindNotify took (fun _ took => .unheard effect (by simp) (List.prefix_refl _) took)
    fun _ took => leadsPure (.done effect took)

theorem bindBlock {request : Operation} {work : Action Journal β} (ends : β → List Edit → Prop)
    {next : β → Action Journal α} (under : start.Under [] desk) (same : desk.view = start.view)
    (body : ∀ first, start.Inside start.view first →
      work.Leads first (start.Stops [start.view]) fun b after =>
        ∃ edits, ends b edits ∧ start.Inside (edits.foldl View.edit start.view) after)
    (later : ∀ b edits after, ends b edits →
      start.Took (edits.foldl View.edit start.view) start.funds [] after →
      (next b).Leads after (fun failure after => start.Ends request (.error failure) after) holds) :
    (atomically work >>= next).Leads desk
      (fun failure after => start.Ends request (.error failure) after) holds := by
  let committed (b : β) (view : View) : Prop :=
    ∃ edits, ends b edits ∧ view = edits.foldl View.edit start.view
  have inside (first : Desk Journal) (under : start.Under [start.view] first)
      (same : first.view = start.view) : work.Leads first (start.Stops [start.view])
        fun b after => start.Under [start.view] after ∧ committed b after.view := by
    refine leadsMono (body first ⟨under, same⟩) (fun _ _ h => h) ?_
    rintro b after ⟨edits, rest, inside⟩
    exact ⟨inside.toUnder, edits, rest, inside.view⟩
  refine leadsBind (leadsMono (leadsAtomically committed under same inside)
    (fun _ _ refuses => refuses.ends request) fun _ _ h => h) ?_
  rintro b after ⟨under, edits, rest, view⟩
  exact later b edits after rest (view ▸ under.took)

theorem leadsWork (c : StoreCall) (inside : start.Inside view desk) :
    (call c).Leads desk (start.Stops [start.view]) fun answer after =>
      ∃ edits, c.Works view answer edits ∧ start.Inside (edits.foldl View.edit view) after := by
  refine leadsMono (leadsCallUnder inside.toUnder c) (fun _ _ h => h) ?_
  rintro answer after ⟨under, answered, shown⟩
  rw [inside.view] at shown
  exact ⟨_, ⟨_, inside.view, answered, rfl⟩, under, shown⟩

theorem bindWork {c : StoreCall} {next : c.Answer → Action Journal α} (inside : start.Inside view desk)
    (later : ∀ answer edits after, c.Works view answer edits →
      start.Inside (edits.foldl View.edit view) after →
      (next answer).Leads after (start.Stops [start.view]) holds) :
    (call c >>= next).Leads desk (start.Stops [start.view]) holds :=
  leadsBind (leadsWork c inside) fun answer after ⟨edits, works, inside⟩ =>
    later answer edits after works inside

theorem bindLook {c : StoreCall} {next : c.Answer → Action Journal α}
    (took : start.Took view funds told desk) (reads : ∀ t : Tables, (t.plan c).2 = [])
    (covers : desk.Covers fails)
    (later : ∀ answer after, c.Works view answer [] → start.Took view funds told after →
      (next answer).Leads after fails holds) :
    (call c >>= next).Leads desk fails holds :=
  bindRead took.tame (reads _) covers fun answer after still answered =>
    later answer after ⟨_, took.view, answered, reads _⟩ (took.still still)

end

end Action
end BoxOffice
