import BoxOffice.Proofs.Desk.Quiet
import BoxOffice.Proofs.Interchange.Fits

/-! One action at two desks, one with a store in memory and one with a relational store. The rules follow the
two runs in step: both fail with the same failure, or both are answered, and after each call the rows show
what the store in memory shows. -/
namespace BoxOffice

abbrev TableDesk := Desk (Relational Decimal.Finite)

structure Desk.Beside (first : Desk Journal) (second : TableDesk) : Prop where
  funds : second.funds = first.funds
  verifier : second.verifier = first.verifier
  clock : second.clock = first.clock
  settings : second.settings = first.settings
  escrowAccount : second.escrowAccount = first.escrowAccount
  checksEvents : second.checksEvents = first.checksEvents
  keepsFunds : second.keepsFunds = first.keepsFunds
  brokenReceivers : second.brokenReceivers = first.brokenReceivers
  quiet : first.storeFaults = []
  quiet' : second.storeFaults = []
  notices : second.notices.map Notice.settled = first.notices.map Notice.settled

/- Where two runs have come to since the start, with so many blocks open. -/
structure Desk.Stand (start : Desk Journal) (blocks : List (View × Rows Decimal.Finite)) (v : View)
    (first : Desk Journal) (second : TableDesk) : Prop extends first.Beside second where
  around : start.Around first
  view : first.view = v
  backed : first.store.Backed (blocks.map Prod.fst)
  starts : second.store.starts = blocks.map Prod.snd
  shows : second.store.rows.Shows v

namespace Action
variable {α β γ δ : Type} {start : Desk Journal} {blocks : List (View × Rows Decimal.Finite)} {v : View}
  {first : Desk Journal} {second : TableDesk}

def Agree (start : Desk Journal) (blocks : List (View × Rows Decimal.Finite)) (a : Action Journal α)
    (b : Action (Relational Decimal.Finite) β) (first : Desk Journal) (second : TableDesk)
    (holds : α → β → Desk Journal → TableDesk → Prop) : Prop :=
  match a.perform first, b.perform second with
  | (.ok x, after), (.ok y, other) => holds x y after other
  | (.error failure, after), (.error failure', other) =>
    failure = failure' ∧ ∃ v, start.Stand blocks v after other
  | _, _ => False

variable {a : Action Journal α} {b : Action (Relational Decimal.Finite) β}
  {holds : α → β → Desk Journal → TableDesk → Prop}

theorem agreeMono {holds' : α → β → Desk Journal → TableDesk → Prop}
    (agree : a.Agree start blocks b first second holds)
    (holding : ∀ x y after other, holds x y after other → holds' x y after other) :
    a.Agree start blocks b first second holds' := by
  unfold Agree at agree ⊢
  generalize a.perform first = ran at agree ⊢
  generalize b.perform second = ran' at agree ⊢
  obtain ⟨failure | x, after⟩ := ran <;> obtain ⟨failure' | y, other⟩ := ran'
  · exact agree
  · exact agree.elim
  · exact agree.elim
  · exact holding x y after other agree

theorem agreePure {x : α} {y : β} (here : holds x y first second) :
    (pure x : Action Journal α).Agree start blocks (pure y) first second holds := here

theorem agreeThrow (stand : start.Stand blocks v first second) (failure : Failure) :
    (throw failure : Action Journal α).Agree start blocks (throw failure) first second holds :=
  ⟨rfl, v, stand⟩

theorem agreeBind {next : α → Action Journal γ} {next' : β → Action (Relational Decimal.Finite) δ}
    {holds : γ → δ → Desk Journal → TableDesk → Prop} {middle : α → β → Desk Journal → TableDesk → Prop}
    (agree : a.Agree start blocks b first second middle)
    (later : ∀ x y after other, middle x y after other →
      (next x).Agree start blocks (next' y) after other holds) :
    (a >>= next).Agree start blocks (b >>= next') first second holds := by
  unfold Agree at agree ⊢
  rw [performBind, performBind]
  generalize a.perform first = ran at agree ⊢
  generalize b.perform second = ran' at agree ⊢
  obtain ⟨failure | x, after⟩ := ran <;> obtain ⟨failure' | y, other⟩ := ran'
  · exact agree
  · exact agree.elim
  · exact agree.elim
  · exact later x y after other agree

variable {next : α → Action Journal γ} {next' : β → Action (Relational Decimal.Finite) δ}
  {ends : γ → δ → Desk Journal → TableDesk → Prop}

theorem agreeGet {next : Desk Journal → Action Journal γ}
    {next' : TableDesk → Action (Relational Decimal.Finite) δ}
    (later : (next first).Agree start blocks (next' second) first second ends) :
    (get >>= next).Agree start blocks (get >>= next') first second ends := by
  unfold Agree at later ⊢
  rw [performBind, performGet, performBind, performGet]
  exact later

theorem agreeModify {change : Desk Journal → Desk Journal} {change' : TableDesk → TableDesk}
    {next : Unit → Action Journal γ} {next' : Unit → Action (Relational Decimal.Finite) δ}
    (later : (next ()).Agree start blocks (next' ()) (change first) (change' second) ends) :
    (modify change >>= next).Agree start blocks (modify change' >>= next') first second ends := by
  unfold Agree at later ⊢
  rw [performBind, performModify, performBind, performModify]
  exact later

theorem agreeAlike {x : Except Failure α} {y : Except Failure β} {f : α → γ} {g : β → γ} {ε ζ : Type}
    {next : α → Action Journal ε} {next' : β → Action (Relational Decimal.Finite) ζ}
    {ends : ε → ζ → Desk Journal → TableDesk → Prop} (stand : start.Stand blocks v first second)
    (same : x.map f = y.map g)
    (later : ∀ a b, x = .ok a → y = .ok b → f a = g b → (next a).Agree start blocks (next' b) first second ends) :
    ((liftM x : Action Journal α) >>= next).Agree start blocks
      ((liftM y : Action (Relational Decimal.Finite) β) >>= next') first second ends := by
  have ran : (liftM x : Action Journal α).Agree start blocks (liftM y) first second
      fun a b after other => x = .ok a ∧ y = .ok b ∧ f a = g b ∧ after = first ∧ other = second := by
    unfold Agree
    rw [performExcept, performExcept]
    cases x with
    | error failure =>
      cases y with
      | error failure' => exact ⟨by simpa [Except.map] using same, v, stand⟩
      | ok b => cases same
    | ok a =>
      cases y with
      | error failure' => cases same
      | ok b => exact ⟨rfl, rfl, by simpa [Except.map] using same, rfl, rfl⟩
  refine agreeBind ran ?_
  rintro a b after other ⟨is, is', alike, rfl, rfl⟩
  exact later a b is is' alike

theorem agreeCheck {x : Except Failure α} {next : α → Action Journal γ}
    {next' : α → Action (Relational Decimal.Finite) δ} (stand : start.Stand blocks v first second)
    (later : ∀ a, x = .ok a → (next a).Agree start blocks (next' a) first second ends) :
    ((liftM x : Action Journal α) >>= next).Agree start blocks
      ((liftM x : Action (Relational Decimal.Finite) α) >>= next') first second ends := by
  refine agreeAlike (f := id) (g := id) stand rfl fun a b is is' same => ?_
  obtain rfl : a = b := same
  exact later a is

theorem agreeGuard {c d : Prop} [Decidable c] [Decidable d] {failure : Failure} {next : Unit → Action Journal γ}
    {next' : Unit → Action (Relational Decimal.Finite) δ} (stand : start.Stand blocks v first second)
    (same : c ↔ d) (later : ¬c → (next ()).Agree start blocks (next' ()) first second ends) :
    (if c then (throw failure : Action Journal Unit) >>= next else next ()).Agree start blocks
      (if d then (throw failure : Action (Relational Decimal.Finite) Unit) >>= next' else next' ())
      first second ends := by
  by_cases holds : c
  · rw [if_pos holds, if_pos (same.mp holds)]
    exact agreeThrow stand failure
  · rw [if_neg holds, if_neg (mt same.mpr holds)]
    exact later holds

end Action

namespace Desk.Stand
variable {start first : Desk Journal} {second : TableDesk} {blocks : List (View × Rows Decimal.Finite)} {v : View}

theorem logged (stand : start.Stand blocks v first second) (lines lines' : List LogLine) :
    start.Stand blocks v { first with log := lines } { second with log := lines' } :=
  { stand with around := stand.around.trans ⟨rfl, rfl, rfl, rfl, rfl, rfl, fun _ mem => mem, fun _ mem => mem⟩ }

end Desk.Stand

namespace Action
variable {γ δ : Type} {start : Desk Journal} {blocks : List (View × Rows Decimal.Finite)} {v : View}
  {first : Desk Journal} {second : TableDesk} {ends : γ → δ → Desk Journal → TableDesk → Prop}
  {next : Unit → Action Journal γ} {next' : Unit → Action (Relational Decimal.Finite) δ}

theorem agreeLog {level level' : LogLevel} {source source' : LogSource} {text text' : String}
    (stand : start.Stand blocks v first second)
    (later : ∀ after other, start.Stand blocks v after other →
      (next ()).Agree start blocks (next' ()) after other ends) :
    (log level source text >>= next).Agree start blocks (log level' source' text' >>= next') first second ends :=
  agreeModify (later _ _ (stand.logged _ _))

theorem agreeAuthenticate {caller : Raw} {refusal : Failure} (stand : start.Stand blocks v first second)
    (later : (next ()).Agree start blocks (next' ()) first second ends) :
    (authenticate caller refusal >>= next).Agree start blocks (authenticate caller refusal >>= next')
      first second ends := by
  unfold authenticate
  rw [bind_assoc, bind_assoc]
  refine agreeGet ?_
  rw [bind_assoc, bind_assoc, stand.verifier]
  refine agreeCheck stand fun verified _ => ?_
  cases verified with
  | false => exact agreeThrow stand refusal
  | true => exact later

theorem agreeEventId {given : Raw} {refusal : Failure} {next : EventId → Action Journal γ}
    {next' : EventId → Action (Relational Decimal.Finite) δ} (stand : start.Stand blocks v first second)
    (later : ∀ id : EventId, given = .text id.text →
      (next id).Agree start blocks (next' id) first second ends) :
    (eventId given refusal >>= next).Agree start blocks (eventId given refusal >>= next') first second ends := by
  unfold eventId
  split
  · split
    · rename_i text id read
      exact later id (by rw [EventId.textOfText read])
    · exact agreeThrow stand refusal
  · exact agreeThrow stand refusal

theorem agreeNow {next : Option Moment → Action Journal γ}
    {next' : Option Moment → Action (Relational Decimal.Finite) δ} (stand : start.Stand blocks v first second)
    (later : (next start.clock).Agree start blocks (next' start.clock) first second ends) :
    (now >>= next).Agree start blocks (now >>= next') first second ends := by
  unfold Agree at later ⊢
  rw [performBind, performBind]
  rw [← stand.around.clock] at later
  have ran : (now : Action (Relational Decimal.Finite) _).perform second = (.ok first.clock, second) :=
    congrArg (fun clock => (Except.ok clock, second)) stand.clock
  rw [ran]
  exact later

theorem agreeSettings {next : Settings → Action Journal γ}
    {next' : Settings → Action (Relational Decimal.Finite) δ} (stand : start.Stand blocks v first second)
    (later : (next start.settings).Agree start blocks (next' start.settings) first second ends) :
    (settings >>= next).Agree start blocks (settings >>= next') first second ends := by
  unfold Agree at later ⊢
  rw [performBind, performBind]
  rw [← stand.around.settings] at later
  have ran : (settings : Action (Relational Decimal.Finite) _).perform second = (.ok first.settings, second) :=
    congrArg (fun settings => (Except.ok settings, second)) stand.settings
  rw [ran]
  exact later

theorem performNotify {σ : Type} (notice : Notice) (desk : Desk σ) :
    (notify notice).perform desk =
      if desk.brokenReceivers.contains notice.name then
        (.error .receiverFailed, { desk with
          notices := desk.notices ++ [notice]
          brokenReceivers := desk.brokenReceivers.filter fun name => name != notice.name })
      else (.ok (), { desk with notices := desk.notices ++ [notice] }) := rfl

theorem agreeNotify {notice notice' : Notice} (same : notice'.settled = notice.settled)
    (stand : start.Stand blocks v first second)
    (later : ∀ after other, start.Stand blocks v after other →
      (next ()).Agree start blocks (next' ()) after other ends) :
    (notify notice >>= next).Agree start blocks (notify notice' >>= next') first second ends := by
  have name : notice'.name = notice.name := by
    rw [← Notice.settledName, same, Notice.settledName]
  have notices : (second.notices ++ [notice']).map Notice.settled = (first.notices ++ [notice]).map Notice.settled := by
    rw [List.map_append, List.map_append, stand.notices, List.map_singleton, List.map_singleton, same]
  have told : (notify notice : Action Journal Unit).Agree start blocks (notify notice') first second
      fun _ _ after other => start.Stand blocks v after other := by
    unfold Agree
    rw [performNotify, performNotify, stand.brokenReceivers, name]
    cases first.brokenReceivers.contains notice.name with
    | true =>
      rw [if_pos rfl, if_pos rfl]
      refine ⟨rfl, v, { stand with brokenReceivers := rfl, notices := notices, around := ?_ }⟩
      exact stand.around.trans ⟨rfl, rfl, rfl, rfl, rfl, rfl, fun _ mem => mem,
        fun _ mem => (List.mem_filter.mp mem).1⟩
    | false =>
      rw [if_neg (by simp), if_neg (by simp)]
      refine { stand with brokenReceivers := rfl, notices := notices, around := ?_ }
      exact stand.around.trans ⟨rfl, rfl, rfl, rfl, rfl, rfl, fun _ mem => mem, fun _ mem => mem⟩
  exact agreeBind told fun _ _ after other stand => later after other stand

section
variable {α β : Type} {next : α → Action Journal γ} {next' : β → Action (Relational Decimal.Finite) δ}
  {start first : Desk Journal} {second : TableDesk} {v : View} {blocks : List (View × Rows Decimal.Finite)}

theorem agreeAnswered {c c' : StoreCall} (stand : start.Stand blocks v first second)
    {x : c.Answer} {y : c'.Answer} {edits : List Edit} {rows : Rows Decimal.Finite}
    (planned : first.store.tables.plan c = (.ok x, edits)) (answered : second.store.rows.call c' = .ok (y, rows))
    (shows : rows.Shows (edits.foldl View.edit v)) :
    (call c).Agree start blocks (call c') first second fun x' y' after other =>
      x' = x ∧ y' = y ∧ start.Stand blocks (edits.foldl View.edit v) after other := by
  have made : (call c).perform first =
      (.ok x, { first with store := edits.foldl Journal.record first.store }) := by
    rw [performCall stand.quiet]
    simp only [RecordStore.call, Journal.call, planned]
  have made' : (call c').perform second = (.ok y, { second with store := { second.store with rows } }) := by
    rw [performCall stand.quiet']
    simp only [RecordStore.call, Relational.call, answered, shows.linked, Bool.or_true, if_true]
  have view : (edits.foldl Journal.record first.store).tables.view = edits.foldl View.edit v := by
    rw [Journal.recordAllTables, Tables.viewEdits]
    exact congrArg (edits.foldl View.edit) stand.view
  have fits : first.store.tables.FitsAll edits := by
    have fits := first.store.tables.planFits c
    rwa [planned] at fits
  have around := stand.around.trans (keptStore first (edits.foldl Journal.record first.store)).toAround
  unfold Agree
  rw [made, made']
  exact ⟨rfl, rfl, { stand with
    around := around, view := view, backed := Journal.recordAllBacked stand.backed fits, shows := shows }⟩

theorem agreeCall {c c' : StoreCall} {next : c.Answer → Action Journal γ}
    {next' : c'.Answer → Action (Relational Decimal.Finite) δ} (stand : start.Stand blocks v first second)
    {x : c.Answer} {y : c'.Answer} {edits : List Edit} {rows : Rows Decimal.Finite}
    (planned : first.store.tables.plan c = (.ok x, edits)) (answered : second.store.rows.call c' = .ok (y, rows))
    (shows : rows.Shows (edits.foldl View.edit v))
    (later : ∀ after other, start.Stand blocks (edits.foldl View.edit v) after other →
      (next x).Agree start blocks (next' y) after other ends) :
    (call c >>= next).Agree start blocks (call c' >>= next') first second ends := by
  refine agreeBind (agreeAnswered stand planned answered shows) ?_
  rintro _ _ after other ⟨rfl, rfl, stand⟩
  exact later after other stand

theorem rolledBack {rows : Rows Decimal.Finite} {w : View} (shows : rows.Shows v)
    (stand : start.Stand [(v, rows)] w first second) :
    start.Stand [] v { first with store := first.store.rollBack } { second with store := second.store.rollBack } := by
  obtain ⟨backed, view⟩ := Journal.rollBackBacked stand.backed
  have back : second.store.rollBack = ⟨rows, []⟩ := by
    rw [Relational.rollBack, stand.starts]
    rfl
  have around := stand.around.trans (keptStore first first.store.rollBack).toAround
  exact { stand with
    around := around, view := view, backed := backed
    starts := by simp only [back, List.map_nil], shows := by simpa only [back] using shows }

theorem agreeBlock {body : Action Journal α} {body' : Action (Relational Decimal.Finite) β}
    (made : α → β → View → Prop) (stand : start.Stand [] v first second)
    (inside : ∀ after other, start.Stand [(v, second.store.rows)] v after other →
      body.Agree start [(v, second.store.rows)] body' after other fun x y after other =>
        ∃ w, made x y w ∧ start.Stand [(v, second.store.rows)] w after other) :
    (block body).Agree start [] (block body') first second fun x y after other =>
      ∃ w, made x y w ∧ start.Stand [] w after other := by
  have backed := Journal.enterBacked stand.backed
  have around := stand.around.trans (keptStore first first.store.enter).toAround
  have ran := inside { first with store := first.store.enter } { second with store := second.store.enter }
    { stand with
      around := around, backed := by rw [← stand.view]; exact backed
      starts := by simp only [Relational.enter, stand.starts]; rfl }
  unfold Agree block
  rw [performStep, performStep]
  simp only [RecordStore.enter]
  unfold Agree at ran
  generalize body.perform { first with store := first.store.enter } = ended at ran ⊢
  generalize body'.perform { second with store := second.store.enter } = ended' at ran ⊢
  obtain ⟨failure | x, after⟩ := ended <;> obtain ⟨failure' | y, other⟩ := ended'
  · obtain ⟨same, w, stand'⟩ := ran
    exact ⟨same, v, rolledBack stand.shows stand'⟩
  · exact ran.elim
  · exact ran.elim
  · obtain ⟨w, holds, stand'⟩ := ran
    have left : after.store.leave.tables = after.store.tables := Journal.leaveTables _
    have committed : other.store.commit = .ok { other.store with starts := other.store.starts.tail } := by
      simp only [Relational.commit, stand'.shows.linked, Bool.or_true]
      rfl
    simp only [RecordStore.commit, committed]
    have around := stand'.around.trans (keptStore after after.store.leave).toAround
    refine ⟨w, holds, { stand' with
      around := around, view := ?_, backed := Journal.leaveBacked stand'.backed, starts := ?_ }⟩
    · rw [Desk.view, left]
      exact stand'.view
    · simp only [stand'.starts]
      rfl

theorem agreeOpening {next : Unit → Action Journal γ} {next' : Unit → Action (Relational Decimal.Finite) δ}
    (stand : start.Stand blocks v first second)
    (later : (next ()).Agree start blocks (next' ()) first second ends) :
    (opening >>= next).Agree start blocks (opening >>= next') first second ends := by
  unfold Agree at later ⊢
  rw [performBind, performOpening stand.quiet rfl, performBind, performOpening stand.quiet' rfl]
  exact later

theorem agreeAtomically {body : Action Journal α} {body' : Action (Relational Decimal.Finite) β}
    (made : α → β → View → Prop) (stand : start.Stand [] v first second)
    (inside : ∀ after other, start.Stand [(v, second.store.rows)] v after other →
      body.Agree start [(v, second.store.rows)] body' after other fun x y after other =>
        ∃ w, made x y w ∧ start.Stand [(v, second.store.rows)] w after other)
    (later : ∀ x y w after other, made x y w → start.Stand [] w after other →
      (next x).Agree start [] (next' y) after other ends) :
    (atomically body >>= next).Agree start [] (atomically body' >>= next') first second ends := by
  rw [atomically, atomically, bind_assoc, bind_assoc]
  refine agreeOpening stand (agreeBind (agreeBlock made stand inside) ?_)
  rintro x y after other ⟨w, holds, stand⟩
  exact later x y w after other holds stand

theorem agreeCatch {body : Action Journal α} {body' : Action (Relational Decimal.Finite) β}
    {handler : Failure → Action Journal α} {handler' : Failure → Action (Relational Decimal.Finite) β}
    {holds : α → β → Desk Journal → TableDesk → Prop} (agree : body.Agree start blocks body' first second holds)
    (caught : ∀ failure w after other, start.Stand blocks w after other →
      (handler failure).Agree start blocks (handler' failure) after other holds) :
    (tryCatch body handler).Agree start blocks (tryCatch body' handler') first second holds := by
  unfold Agree at agree
  have handled (failure : Failure) (w : View) (after : Desk Journal) (other : TableDesk) := caught failure w after other
  unfold Agree at handled ⊢
  rw [performCatch, performCatch]
  generalize body.perform first = ran at agree ⊢
  generalize body'.perform second = ran' at agree ⊢
  obtain ⟨failure | x, after⟩ := ran <;> obtain ⟨failure' | y, other⟩ := ran'
  · obtain ⟨rfl, w, stand⟩ := agree
    exact handled failure w after other stand
  · exact agree.elim
  · exact agree.elim
  · exact agree

end

end Action

structure Desk.Starts (start : Desk Journal) (second : TableDesk) : Prop where
  stand : start.Stand [] start.view start second
  fits : start.Fits
  reached : start.store.Reached

def Action.Meet {α β : Type} (start : Desk Journal) (second : TableDesk) (a : Action Journal α)
    (b : Action (Relational Decimal.Finite) β) (alike : α → β → Prop) : Prop :=
  a.Agree start [] b start second fun x y after other => alike x y ∧ ∃ v, start.Stand [] v after other

theorem Action.meetFound {start first : Desk Journal} {second : TableDesk} {v : View} {c c' : StoreCall}
    {x : c.Answer} {y : c'.Answer} {alike : c.Answer → c'.Answer → Prop} (stand : start.Stand [] v first second)
    (planned : first.store.tables.plan c = (.ok x, []))
    (answered : second.store.rows.call c' = .ok (y, second.store.rows)) (same : alike x y) :
    (call c).Agree start [] (call c') first second
      fun x y after other => alike x y ∧ ∃ v, start.Stand [] v after other := by
  refine agreeMono (agreeAnswered stand planned answered stand.shows) ?_
  rintro _ _ after other ⟨rfl, rfl, stand⟩
  exact ⟨same, v, stand⟩

end BoxOffice
