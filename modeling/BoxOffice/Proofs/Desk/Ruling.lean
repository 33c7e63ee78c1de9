import BoxOffice.Proofs.Desk.Operation
import BoxOffice.Proofs.Desk.Quiet

/-! What requests about events come to where nothing is disturbed. The answer and the edits are a function
of the settings, the clock and what is recorded about the event that a request names. -/
namespace BoxOffice

abbrev Ruled (α : Type) := α × List Edit

namespace Ruling
variable {α β : Type}

def outcome (ruling : Except Failure (Ruled α)) : Except Failure α :=
  ruling.map Prod.fst

def edits : Except Failure (Ruled α) → List Edit
  | .ok (_, edits) => edits
  | .error _ => []

def read (value : Except Failure α) : Except Failure (Ruled α) :=
  value.map (·, [])

def answer (f : α → β) (ruling : Except Failure (Ruled α)) : Except Failure (Ruled β) :=
  ruling.map fun made => (f made.1, made.2)

theorem readBind (value : Except Failure α) (next : α → Except Failure β) :
    read (value >>= next) = value >>= fun a => read (next a) := by
  cases value <;> rfl

theorem answerOk {f : α → β} {ruling : Except Failure (Ruled α)} {b : β} {edits : List Edit}
    (ok : answer f ruling = .ok (b, edits)) : ∃ a, ruling = .ok (a, edits) ∧ b = f a := by
  cases ruling with
  | error failure => cases ok
  | ok made =>
    cases ok
    exact ⟨made.1, rfl, rfl⟩

end Ruling

namespace Desk

structure Quiet {σ : Type} (desk : Desk σ) : Prop where
  faults : desk.storeFaults = []
  receivers : desk.brokenReceivers = []

theorem Quiet.withStore {σ : Type} {desk : Desk σ} (quiet : desk.Quiet) (store : σ) :
    { desk with store }.Quiet :=
  ⟨quiet.faults, quiet.receivers⟩

theorem Quiet.tame {σ : Type} {desk : Desk σ} (quiet : desk.Quiet) : desk.Tame := by
  intro fault mem
  rw [quiet.faults] at mem
  cases mem

def edited (desk : Desk Journal) (edits : List Edit) : Desk Journal :=
  { desk with store := edits.foldl Journal.record desk.store }

def admits {σ : Type} (desk : Desk σ) (caller : Raw) (refusal : Failure) : Except Failure Unit := do
  if !(← (desk.verifier.getD .trustedHost).verify caller) then throw refusal

end Desk

namespace Journal

structure Idle (s : Journal) : Prop where
  entries : s.entries = []
  marks : s.marks = []

theorem Backed.idle {s : Journal} (backed : s.Backed []) : s.Idle := by
  obtain ⟨tables, entries, marks⟩ := s
  cases backed
  exact ⟨rfl, rfl⟩

theorem recordAllMarks (s : Journal) (edits : List Edit) : (edits.foldl record s).marks = s.marks := by
  induction edits generalizing s with
  | nil => rfl
  | cons e rest ih => exact ih (s.record e)

theorem recordAllIdle {s : Journal} (idle : s.Idle) (edits : List Edit) :
    edits.foldl record s = ⟨edits.foldl Tables.edit s.tables, [], []⟩ := by
  obtain ⟨tables, entries, marks⟩ := s
  obtain rfl : entries = [] := idle.entries
  obtain rfl : marks = [] := idle.marks
  induction edits generalizing tables with
  | nil => rfl
  | cons e rest ih => exact ih (tables.edit e) ⟨rfl, rfl⟩

theorem leaveRecorded {s : Journal} (idle : s.Idle) (edits : List Edit) :
    (edits.foldl record s.enter).leave = edits.foldl record s := by
  have marks : (edits.foldl record s.enter).marks = [s.entries.length] := by
    rw [recordAllMarks, enter, idle.marks]
  have tables : (edits.foldl record s.enter).tables = edits.foldl Tables.edit s.tables :=
    recordAllTables s.enter edits
  rw [recordAllIdle idle, leave, marks, tables]

theorem rollBackEntered {s : Journal} (clear : s.marks = [] → s.entries = []) : s.enter.rollBack = s := by
  obtain ⟨tables, entries, marks⟩ := s
  cases marks with
  | nil =>
    obtain rfl : entries = [] := clear rfl
    rfl
  | cons mark marks => simp [enter, rollBack, unwind, leave]

end Journal

namespace Action
variable {α β : Type}

/-- At this desk, whatever has been logged and told there, the action comes to the ruling: it answers so and
makes these edits, and apart from what it logs and tells it changes nothing else. -/
def Rules (a : Action Journal α) (desk : Desk Journal) (ruling : Except Failure (Ruled α)) : Prop :=
  ∀ log notices, ∃ log' notices', a.perform { desk with log, notices } =
    (Ruling.outcome ruling, { desk.edited (Ruling.edits ruling) with log := log', notices := notices' })

variable {desk : Desk Journal}

theorem rulesPure (value : α) : (pure value : Action Journal α).Rules desk (.ok (value, [])) :=
  fun log notices => ⟨log, notices, rfl⟩

theorem rulesThrow (failure : Failure) : (throw failure : Action Journal α).Rules desk (.error failure) :=
  fun log notices => ⟨log, notices, rfl⟩

theorem rulesReads {a : Action Journal α} {value : Except Failure α}
    (reads : ∀ log notices, a.perform { desk with log, notices } = (value, { desk with log, notices })) :
    a.Rules desk (Ruling.read value) := by
  intro log notices
  refine ⟨log, notices, (reads log notices).trans ?_⟩
  cases value <;> rfl

theorem rulesExcept (value : Except Failure α) :
    (liftM value : Action Journal α).Rules desk (Ruling.read value) :=
  rulesReads fun _ _ => performExcept value _

theorem bindReads {first : Action Journal α} {value : Except Failure α} {next : α → Action Journal β}
    {ruling : α → Except Failure (Ruled β)} (reads : first.Rules desk (Ruling.read value))
    (later : ∀ a, value = .ok a → (next a).Rules desk (ruling a)) :
    (first >>= next).Rules desk (value >>= ruling) := by
  intro log notices
  obtain ⟨log', notices', ran⟩ := reads log notices
  rw [performBind, ran]
  cases value with
  | error failure => exact ⟨log', notices', rfl⟩
  | ok a => exact later a rfl log' notices'

theorem bindRests {first : Action Journal α} {a : α} {next : α → Action Journal β}
    {ruling : Except Failure (Ruled β)} (reads : first.Rules desk (.ok (a, [])))
    (later : (next a).Rules desk ruling) : (first >>= next).Rules desk ruling :=
  @bindReads _ _ desk first (.ok a) next (fun _ => ruling) reads fun _ same => Except.ok.inj same ▸ later

theorem bindWrites {first : Action Journal α} {a : α} {edits more : List Edit} {next : α → Action Journal β}
    {b : β} (writes : first.Rules desk (.ok (a, edits)))
    (later : (next a).Rules (desk.edited edits) (.ok (b, more))) :
    (first >>= next).Rules desk (.ok (b, edits ++ more)) := by
  intro log notices
  obtain ⟨log', notices', ran⟩ := writes log notices
  obtain ⟨log'', notices'', last⟩ := later log' notices'
  refine ⟨log'', notices'', ?_⟩
  rw [performBind, ran]
  refine last.trans ?_
  simp only [Ruling.outcome, Ruling.edits, Desk.edited, List.foldl_append]
  rfl

theorem bindTells {first : Action Journal α} {ruling : Except Failure (Ruled α)}
    {next : α → Action Journal β} {f : α → β} (block : first.Rules desk ruling)
    (later : ∀ a edits, ruling = .ok (a, edits) → (next a).Rules (desk.edited edits) (.ok (f a, []))) :
    (first >>= next).Rules desk (Ruling.answer f ruling) := by
  intro log notices
  obtain ⟨log', notices', ran⟩ := block log notices
  rw [performBind, ran]
  cases ruling with
  | error failure => exact ⟨log', notices', rfl⟩
  | ok made => exact later made.1 made.2 rfl log' notices'

theorem bindTellsSame {first : Action Journal α} {ruling : Except Failure (Ruled α)}
    {next : α → Action Journal α} (block : first.Rules desk ruling)
    (later : ∀ a edits, ruling = .ok (a, edits) → (next a).Rules (desk.edited edits) (.ok (a, []))) :
    (first >>= next).Rules desk ruling := by
  have same : Ruling.answer (fun a => a) ruling = ruling := by cases ruling <;> rfl
  rw [← same]
  exact bindTells block later

theorem guardRules {c : Prop} [Decidable c] {failure : Failure} {next : Unit → Action Journal α}
    {ruling : Unit → Except Failure (Ruled α)} (later : ¬c → (next ()).Rules desk (ruling ())) :
    (if c then (throw failure : Action Journal Unit) >>= next else next ()).Rules desk
      (if c then (throw failure : Except Failure Unit) >>= ruling else ruling ()) := by
  by_cases holds : c
  · rw [if_pos holds, if_pos holds]
    exact rulesThrow failure
  · rw [if_neg holds, if_neg holds]
    exact later holds

theorem performAuthenticate {σ : Type} {desk : Desk σ} (caller : Raw) (refusal : Failure) :
    (authenticate caller refusal).perform desk = (desk.admits caller refusal, desk) := by
  rw [authenticate, performBind, performGet]
  simp only
  rw [performBind, performExcept, Desk.admits]
  cases (desk.verifier.getD .trustedHost).verify caller with
  | error failure => rfl
  | ok known => cases known <;> rfl

theorem rulesAuthenticate (caller : Raw) (refusal : Failure) :
    (authenticate caller refusal).Rules desk (Ruling.read (desk.admits caller refusal)) :=
  rulesReads fun _ _ => performAuthenticate caller refusal

theorem bindPart {given : Raw} {n : Int} {next : Int → Action Journal α}
    {ruling : Except Failure (Ruled α)} (key : given.key = .whole n)
    (later : ∀ m, (next m).Rules desk ruling) :
    ((liftM given.wholePart : Action Journal Int) >>= next).Rules desk ruling := by
  obtain ⟨m, part⟩ := Raw.wholePartOfKey key
  rw [part]
  exact bindRests (rulesExcept (.ok m)) (later m)

theorem rulesSettings : (settings : Action Journal Settings).Rules desk (.ok (desk.settings, [])) :=
  fun log notices => ⟨log, notices, rfl⟩

theorem rulesNow : (now : Action Journal (Option Moment)).Rules desk (.ok (desk.clock, [])) :=
  fun log notices => ⟨log, notices, rfl⟩

theorem rulesLog (level : LogLevel) (source : LogSource) (text : String) :
    (log level source text).Rules desk (.ok ((), [])) :=
  fun lines notices => ⟨lines ++ [⟨level, source, text⟩], notices, rfl⟩

theorem rulesNotify (quiet : desk.Quiet) (notice : Notice) : (notify notice).Rules desk (.ok ((), [])) := by
  intro log notices
  refine ⟨log, notices ++ [notice], ?_⟩
  have heard : desk.brokenReceivers.contains notice.name = false := by
    rw [quiet.receivers]
    rfl
  rw [notify, performStep]
  simp only [heard]
  rfl

theorem rulesCall (quiet : desk.Quiet) {c : StoreCall} {ruling : Except Failure (Ruled c.Answer)}
    (planned : desk.store.tables.plan c = (Ruling.outcome ruling, Ruling.edits ruling)) :
    (call c).Rules desk ruling := by
  intro log notices
  refine ⟨log, notices, ?_⟩
  rw [@performCall _ _ { desk with log, notices } quiet.faults]
  simp only [RecordStore.call, Journal.call, planned]
  rfl

theorem rulesAtomically (quiet : desk.Quiet) (idle : desk.store.Idle) {body : Action Journal α}
    {ruling : Except Failure (Ruled α)} (inside : body.Rules { desk with store := desk.store.enter } ruling) :
    (atomically body).Rules desk ruling := by
  intro log notices
  obtain ⟨log', notices', ran⟩ := inside log notices
  refine ⟨log', notices', ?_⟩
  rw [atomically, performBind, @performOpening _ _ { desk with log, notices } quiet.faults rfl]
  simp only
  rw [block, performStep]
  simp only [RecordStore.enter, ran]
  cases ruling with
  | error failure =>
    simp only [Ruling.outcome, Ruling.edits, Except.map, RecordStore.rollBack, Desk.edited, List.foldl_nil]
    rw [Journal.rollBackEntered fun _ => idle.entries]
  | ok made =>
    simp only [Ruling.outcome, Ruling.edits, Except.map, RecordStore.commit, Desk.edited]
    rw [Journal.leaveRecorded idle]

end Action
end BoxOffice
