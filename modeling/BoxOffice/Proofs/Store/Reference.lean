import BoxOffice.Proofs.Store.Rollback
import BoxOffice.Store.Program
import BoxOffice.Store.Snapshot

/-! The journal against the plainest store with blocks. Whatever a program asks of either, and
wherever its blocks nest, end, fail or are caught, the two answer alike at every point, and a store
that is left behind answers every further call alike. -/
namespace BoxOffice

namespace Table
variable {κ α β : Type} [DecidableEq κ]

def mapValues (f : α → β) (t : Table κ α) : Table κ β :=
  ⟨t.entries.map fun entry => (entry.1, f entry.2)⟩

theorem getMapValues (f : α → β) (t : Table κ α) (key : κ) :
    (t.mapValues f).get? key = (t.get? key).map f := by
  obtain ⟨entries⟩ := t
  simp only [mapValues, get?]
  induction entries with
  | nil => rfl
  | cons entry rest ih =>
    by_cases here : entry.1 = key <;> simp [find?, here, ih]

theorem putMapValues (f : α → β) (t : Table κ α) (key : κ) (value : α) :
    (t.put key value).mapValues f = (t.mapValues f).put key (f value) := by
  obtain ⟨entries⟩ := t
  simp only [mapValues, put, mk.injEq]
  induction entries with
  | nil => rfl
  | cons entry rest ih =>
    by_cases here : entry.1 = key <;> simp [replace, here, ih]

end Table

def Survey.shownList (entry : Raw × List Raw) : Raw × List Raw :=
  (entry.1, entry.2.map Raw.key)

def Survey.shown (survey : Survey) : Survey :=
  { survey with byOwner := survey.byOwner.mapValues shownList }

def StoreAnswer.shown : StoreAnswer → StoreAnswer
  | .answer c given => .answer c (c.shown given)
  | .survey given => .survey given.shown

def Report.shown : Report → Report
  | .done => .done
  | .request outcome rest => .request (outcome.map StoreAnswer.shown) rest.shown
  | .block body failure rest => .block body.shown failure rest.shown

theorem bindShown {α β γ δ : Type} {f : α → γ} {g : β → δ} {x y : Except Failure α}
    (same : x.map f = y.map f) {next next' : α → Except Failure β}
    (later : ∀ a b, f a = f b → (next a).map g = (next' b).map g) :
    (x >>= next).map g = (y >>= next').map g := by
  cases x with
  | error failure =>
    cases y with
    | error failure' => simpa [Except.map, bind, Except.bind] using same
    | ok b => simp [Except.map] at same
  | ok a =>
    cases y with
    | error failure' => simp [Except.map] at same
    | ok b => exact later a b (by simpa [Except.map] using same)

theorem wrapShown {α β : Type} {f : α → α} {g : β → β} {wrap : α → β} {x y : Except Failure α}
    (same : x.map f = y.map f) (outside : ∀ a, g (wrap a) = wrap (f a)) :
    (x.map wrap).map g = (y.map wrap).map g := by
  have through (z : Except Failure α) : (z.map wrap).map g = (z.map f).map wrap := by
    cases z <;> simp [Except.map, outside]
  rw [through, through, same]

theorem bindSame {α β δ : Type} {g : β → δ} {x y : Except Failure α} (same : x = y)
    {next next' : α → Except Failure β} (later : ∀ a, (next a).map g = (next' a).map g) :
    (x >>= next).map g = (y >>= next').map g :=
  bindShown (f := id) (by rw [same]) fun a b (equal : a = b) => equal ▸ later a

namespace Survey

/- Two ways to answer calls, alike in what they show. -/
variable {look other : (c : StoreCall) → Except Failure c.Answer}

def owned (call : (c : StoreCall) → Except Failure c.Answer) (table : Table Label (Raw × List Raw))
    (given : Raw) : Except Failure (Table Label (Raw × List Raw)) := do
  let tickets ← call (.listOwnerTickets given)
  let label ← MonadExcept.ofExcept (Checked.label given)
  let shown := ((table.get? label).map Prod.fst).getD given
  return table.put label (shown, tickets)

theorem ownedShown (agree : ∀ c, (look c).map c.shown = (other c).map c.shown)
    {table table' : Table Label (Raw × List Raw)}
    (same : table.mapValues shownList = table'.mapValues shownList) (given : Raw) :
    (owned look table given).map (Table.mapValues shownList) =
      (owned other table' given).map (Table.mapValues shownList) := by
  have name (label : Label) : (table.get? label).map Prod.fst = (table'.get? label).map Prod.fst := by
    have entry := congrArg (fun t => (t.get? label).map Prod.fst) same
    simpa [Table.getMapValues, Function.comp_def, shownList] using entry
  refine bindShown (agree (.listOwnerTickets given)) fun ids ids' keys => ?_
  cases Checked.label given with
  | error failure => rfl
  | ok label =>
    have lists : List.map Raw.key ids = List.map Raw.key ids' := keys
    simp only [bind, Except.bind, MonadExcept.ofExcept, pure, Except.pure, Except.map,
      Table.putMapValues, same, name, shownList, lists]

theorem ownersShown (agree : ∀ c, (look c).map c.shown = (other c).map c.shown) (owners : List Raw)
    {table table' : Table Label (Raw × List Raw)}
    (same : table.mapValues shownList = table'.mapValues shownList) :
    (owners.foldlM (owned look) table).map (Table.mapValues shownList) =
      (owners.foldlM (owned other) table').map (Table.mapValues shownList) := by
  induction owners generalizing table table' with
  | nil => simpa [pure, Except.pure, Except.map] using same
  | cons given rest ih =>
    simp only [List.foldlM_cons]
    exact bindShown (ownedShown agree same given) fun next next' same => ih same

theorem takeShown (agree : ∀ c, (look c).map c.shown = (other c).map c.shown) (extent : Nat)
    (ids owners : List Raw) :
    (take look extent ids owners).map shown = (take other extent ids owners).map shown := by
  have equal {c : StoreCall} (plain : c.shown = id) : look c = other c := by
    simpa [plain] using agree c
  have looked (id : EventId) : look (.listAttendees id) = other (.listAttendees id) ∧
      look (.listEventPayments id) = other (.listEventPayments id) ∧
      look (.getRevenue id) = other (.getRevenue id) ∧
      look (.listEventTickets id) = other (.listEventTickets id) :=
    ⟨equal rfl, equal rfl, equal rfl, equal rfl⟩
  have ticket (id : Raw) : look (.getTicket id) = other (.getTicket id) := equal rfl
  have payment (id : Raw) : look (.getPayment id) = other (.getPayment id) := equal rfl
  unfold take
  refine bindSame (by simp only [ticket]) fun tickets => ?_
  refine bindSame (by simp only [payment]) fun payments => ?_
  refine bindSame (by simp only [looked]) fun byEvent => ?_
  refine bindSame (equal rfl) fun events => ?_
  refine bindShown (ownersShown agree owners rfl) fun byOwner byOwner' same => ?_
  refine bindSame (equal rfl) fun escrow => ?_
  simp [pure, Except.pure, Except.map, shown, same]

end Survey

structure Mirrors (s : Journal) (r : Snapshots) : Prop where
  view : s.tables.view = r.tables.view
  backed : s.Backed (r.copies.map Tables.view)

namespace Mirrors
variable {s : Journal} {r : Snapshots}

theorem call (mirrors : Mirrors s r) (c : StoreCall) :
    (Journal.call c s).1.map c.shown = (Snapshots.call c r).1.map c.shown ∧
      Mirrors (Journal.call c s).2 (Snapshots.call c r).2 := by
  obtain ⟨answer, edits⟩ := Tables.planView mirrors.view c
  refine ⟨answer, ?_, Journal.callBacked mirrors.backed c⟩
  simp only [Journal.call, Snapshots.call, Journal.recordAllTables, Tables.viewEdits, mirrors.view,
    edits]

theorem enter (mirrors : Mirrors s r) : Mirrors s.enter r.enter :=
  ⟨mirrors.view, by
    have entered := Journal.enterBacked mirrors.backed
    rwa [mirrors.view] at entered⟩

theorem leave {copy : Tables} {copies : List Tables} (mirrors : Mirrors s r)
    (inside : r.copies = copy :: copies) : Mirrors s.leave r.leave := by
  refine ⟨by rw [Journal.leaveTables]; exact mirrors.view, ?_⟩
  have backed := mirrors.backed
  rw [inside] at backed
  simpa [Snapshots.leave, inside] using Journal.leaveBacked backed

theorem rollBack {copy : Tables} {copies : List Tables} (mirrors : Mirrors s r)
    (inside : r.copies = copy :: copies) : Mirrors s.rollBack r.rollBack := by
  have backed := mirrors.backed
  rw [inside] at backed
  obtain ⟨kept, back⟩ := Journal.rollBackBacked backed
  exact ⟨by simpa [Snapshots.rollBack, inside] using back,
    by simpa [Snapshots.rollBack, inside] using kept⟩

theorem extent (mirrors : Mirrors s r) : s.tables.extent = r.tables.extent := by
  have payments : s.tables.payments = r.tables.payments := congrArg View.payments mirrors.view
  have tickets : s.tables.tickets = r.tables.tickets := congrArg View.tickets mirrors.view
  rw [Tables.extent, payments, tickets, Tables.extent]

theorem ask (mirrors : Mirrors s r) (request : StoreRequest) :
    (Program.ask s request).1.map StoreAnswer.shown = (Program.ask r request).1.map StoreAnswer.shown ∧
      Mirrors (Program.ask s request).2 (Program.ask r request).2 := by
  cases request with
  | call c =>
    obtain ⟨answer, after⟩ := mirrors.call c
    exact ⟨wrapShown answer fun _ => rfl, after⟩
  | survey ids owners =>
    have extents : RecordStore.extent s = RecordStore.extent r := mirrors.extent
    refine ⟨wrapShown (f := Survey.shown) ?_ fun _ => rfl, mirrors⟩
    rw [extents]
    exact Survey.takeShown (fun c => (mirrors.call c).1) _ ids owners
  | unreadable failure => exact ⟨rfl, mirrors⟩

end Mirrors

theorem closeMirrors {s : Journal} {r : Snapshots} {copy : Tables} {copies : List Tables}
    (mirrors : Mirrors s r) (inside : r.copies = copy :: copies) (failure : Option Failure)
    (abort : Bool) :
    (Program.close failure abort s).1 = (Program.close failure abort r).1 ∧
      Mirrors (Program.close failure abort s).2 (Program.close failure abort r).2 ∧
      (Program.close failure abort r).2.copies = copies := by
  unfold Program.close
  split
  · exact ⟨rfl, mirrors.rollBack inside, by simp [RecordStore.rollBack, Snapshots.rollBack, inside]⟩
  · exact ⟨rfl, mirrors.leave inside, by simp [RecordStore.commit, Snapshots.leave, inside]⟩

theorem runMirrors (p : Program) {s : Journal} {r : Snapshots} (mirrors : Mirrors s r) :
    (p.run s).1.shown = (p.run r).1.shown ∧ (p.run s).2.1 = (p.run r).2.1 ∧
      Mirrors (p.run s).2.2 (p.run r).2.2 ∧ (p.run r).2.2.copies = r.copies := by
  -- By induction on the program; a body runs with one block more open than what follows it.
  induction p generalizing s r with
  | done => exact ⟨rfl, rfl, mirrors, rfl⟩
  | stopped failure => exact ⟨rfl, rfl, mirrors, rfl⟩
  | request request caught rest ih =>
    obtain ⟨answers, after⟩ := mirrors.ask request
    have copies : (Program.ask r request).2.copies = r.copies := by
      cases request <;> rfl
    obtain ⟨reports, failures, later, depth⟩ := ih after
    rw [copies] at depth
    simp only [Program.run]
    generalize Program.ask s request = asked at *
    generalize Program.ask r request = asked' at *
    obtain ⟨outcome, s'⟩ := asked
    obtain ⟨outcome', r'⟩ := asked'
    cases outcome with
    | ok answer =>
      cases outcome' with
      | ok answer' => exact ⟨by simp [Report.shown, answers, reports], failures, later, depth⟩
      | error failure' => simp [Except.map] at answers
    | error failure =>
      cases outcome' with
      | ok answer' => simp [Except.map] at answers
      | error failure' =>
        have same : failure = failure' := by simpa [Except.map] using answers
        subst same
        cases caught with
        | true => exact ⟨by simp [Report.shown, reports], failures, later, depth⟩
        | false => exact ⟨rfl, rfl, after, copies⟩
  | block body abort caught rest inner ih =>
    obtain ⟨reports, failures, within, depth⟩ :=
      inner (s := RecordStore.enter s) (r := RecordStore.enter r) mirrors.enter
    simp only [Program.run]
    generalize body.run (RecordStore.enter s) = ran at *
    generalize body.run (RecordStore.enter r) = ran' at *
    obtain ⟨report, failure, s'⟩ := ran
    obtain ⟨report', failure', r'⟩ := ran'
    have same : failure = failure' := failures
    subst same
    obtain ⟨closing, after, copies⟩ := closeMirrors within depth failure abort
    obtain ⟨restReports, restFailures, later, restDepth⟩ := ih after
    rw [copies] at restDepth
    simp only at closing reports ⊢
    generalize Program.close failure abort s' = closed at *
    generalize Program.close failure abort r' = closed' at *
    obtain ⟨ending, s''⟩ := closed
    obtain ⟨ending', r''⟩ := closed'
    have same : ending = ending' := closing
    subst same
    cases going : ending.isNone || caught with
    | true => exact ⟨by simp [Report.shown, reports, restReports], restFailures, later, restDepth⟩
    | false => exact ⟨by simp [Report.shown, reports], rfl, after, copies⟩

/-- From any tables, outside every block, a program gets the same answers from the journal and from the
store that copies its tables, and leaves behind two stores that answer alike. -/
theorem journalAnswersAsReference (tables : Tables) (p : Program) :
    let journal := p.run (⟨tables, [], []⟩ : Journal)
    let reference := p.run (⟨tables, []⟩ : Snapshots)
    journal.1.shown = reference.1.shown ∧ journal.2.1 = reference.2.1 ∧
      (∀ c, (RecordStore.call c journal.2.2).1.map c.shown =
        (RecordStore.call c reference.2.2).1.map c.shown) ∧
      ∀ ids owners, (Program.ask journal.2.2 (.survey ids owners)).1.map StoreAnswer.shown =
        (Program.ask reference.2.2 (.survey ids owners)).1.map StoreAnswer.shown := by
  have start : Mirrors ⟨tables, [], []⟩ ⟨tables, []⟩ := ⟨rfl, .outside _⟩
  obtain ⟨reports, failures, after, _⟩ := runMirrors p start
  exact ⟨reports, failures, fun c => (after.call c).1, fun ids owners => (after.ask _).1⟩

end BoxOffice
