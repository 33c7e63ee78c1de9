import BoxOffice.Store.Tables

/-! A store in memory that keeps one set of tables and, while a block is open, a journal of what
takes each edit back. Rolling a block back replays its part of the journal, the newest entry first;
closing the last block forgets the journal. Inner methods make the edits and enter what takes them
back. -/
namespace BoxOffice

def putMethod : String := "_put"
def appendMethod : String := "_append"
def entryMethod : String := "_on_rollback"

/- The parts that are no methods. A disturbance of one never strikes, and yet stands in its place
for good. -/
def lockPart : String := "_lock"
def tablesPart : String := "_tables"
def journalPart : String := "_journal"
def depthPart : String := "_depth"

def Edit.method? : Edit → Option String
  | .event _ | .registration _ _ | .payment _ _ | .revenue _ _ | .ticket _ _ | .lastPayment _
  | .lastTicket _ => some putMethod
  | .attendee _ _ | .eventPayment _ _ | .ownTicket _ _ | .eventTicket _ _ => some appendMethod
  | .escrow _ | .disownTicket _ _ _ => none

def StoreCall.unlabelledIn? : StoreCall → Option String
  | .addPayment payment => if (Checked.label payment.id).isOk then none else some putMethod
  | .addTicket ticket =>
    if (Checked.label ticket.id).isOk then
      if (Checked.label ticket.owner).isOk then none else some appendMethod
    else some putMethod
  | .moveTicket _ source target =>
    if (Checked.label source).isOk && !(Checked.label target).isOk then some appendMethod else none
  | _ => none

/-- The journal has its newest entry in front; each mark is its length when a block was entered, the
innermost block in front. -/
structure Journal where
  tables : Tables
  entries : List Undo
  marks : List Nat
  deriving DecidableEq, Repr

namespace Journal

def empty : Journal :=
  ⟨.empty, [], []⟩

def record (s : Journal) (edit : Edit) : Journal :=
  { s with
    tables := s.tables.edit edit
    entries := if s.marks.isEmpty then s.entries else s.tables.undoing edit :: s.entries }

def call (c : StoreCall) (s : Journal) : Except Failure c.Answer × Journal :=
  let (answer, edits) := s.tables.plan c
  (answer, edits.foldl record s)

def passEdit (waiting : Waiting) (s : Journal) (edit : Edit) : Passage Journal Journal :=
  let enter (_ : Journal) : Passage Journal Journal :=
    Passage.through waiting entryMethod (fun _ => .ok (s.record edit))
      { s with tables := s.tables.edit edit }
  match edit.method? with
  | some method => Passage.through waiting method enter s
  | none => enter s

def passWork (waiting : Waiting) (c : StoreCall) (s : Journal) : Passage Journal Journal := do
  if (waiting lockPart).isSome then Passage.fail .misplaced s
  else if (waiting tablesPart).isSome then Passage.fail .notOffered s
  else
    let (answer, edits) := s.tables.plan c
    let s ← edits.foldlM (passEdit waiting) s
    match c.unlabelledIn?, answer with
    | some method, .error failure => Passage.through waiting method (Passage.fail failure) s
    | _, _ => .ok s

def countsUp : StoreCall → Bool
  | .nextPaymentId | .nextTicketId => true
  | _ => false

def pass (waiting : Waiting) (c : StoreCall) (s : Journal) : Passage Journal Journal :=
  if countsUp c then Passage.through waiting counterMethod (passWork waiting c) s
  else passWork waiting c s

def barrier (waiting : Waiting) : Option Failure :=
  if [lockPart, journalPart, depthPart].any fun part => (waiting part).isSome then some .misplaced
  else none

def enter (s : Journal) : Journal :=
  { s with marks := s.entries.length :: s.marks }

def leave (s : Journal) : Journal :=
  match s.marks with
  | [] => s
  | [_] => { s with entries := [], marks := [] }
  | _ :: marks => { s with marks }

def unwind (s : Journal) (mark : Nat) : Journal :=
  let above := s.entries.length - mark
  { s with
    tables := (s.entries.take above).foldl Tables.undo s.tables
    entries := s.entries.drop above }

def rollBack (s : Journal) : Journal :=
  match s.marks with
  | [] => s
  | mark :: _ => (s.unwind mark).leave

end Journal

instance : RecordStore Journal where
  empty := .empty
  call := Journal.call
  enter := Journal.enter
  commit s := .ok s.leave
  rollBack := Journal.rollBack
  names := blockMethod :: counterMethod :: putMethod :: appendMethod :: entryMethod :: lockPart ::
    tablesPart :: journalPart :: depthPart :: StoreCall.methods
  interrupted c waiting s := (Journal.pass waiting c s).interruption?
  barrier := Journal.barrier
  extent s := s.tables.extent

end BoxOffice
