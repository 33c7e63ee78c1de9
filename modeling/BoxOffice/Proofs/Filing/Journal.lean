import BoxOffice.Proofs.Event
import BoxOffice.Proofs.Store.Table
import BoxOffice.Store.Journal

/-! The events that records are filed under: an event under its own id, a registration, a payment and a ticket
under the id of their event. A store files a record only where one of its calls says so; neither a block that
is taken back nor a disturbance on the way of a call brings in another id. -/
namespace BoxOffice

namespace Table
variable {κ α : Type} [DecidableEq κ] {t : Table κ α} {key : κ} {value other : α} {old : Option α}

theorem putValues (mem : other ∈ (t.put key value).values) : other = value ∨ other ∈ t.values := by
  obtain ⟨entries⟩ := t
  simp only [put, values] at mem ⊢
  induction entries with
  | nil => exact .inl (List.mem_singleton.mp mem)
  | cons entry rest ih =>
    by_cases here : entry.1 = key
    · simp only [replace, here, if_true, List.map_cons, List.mem_cons] at mem ⊢
      exact mem.imp_right .inr
    · simp only [replace, here, if_false, List.map_cons, List.mem_cons] at mem ⊢
      rcases mem with first | later
      · exact .inr (.inl first)
      · exact (ih later).imp_right .inr

theorem eraseValues (mem : other ∈ (t.erase key).values) : other ∈ t.values := by
  obtain ⟨entries⟩ := t
  simp only [erase, values] at mem ⊢
  induction entries with
  | nil => exact mem
  | cons entry rest ih =>
    by_cases here : entry.1 = key
    · simp only [remove, here, if_true] at mem
      exact List.mem_cons_of_mem _ mem
    · simp only [remove, here, if_false, List.map_cons, List.mem_cons] at mem ⊢
      exact mem.imp_right ih

theorem restoreValues (mem : other ∈ (t.restore key old).values) : old = some other ∨ other ∈ t.values := by
  cases old with
  | none => exact .inr (eraseValues mem)
  | some value => exact (putValues mem).imp_left fun same => congrArg some same.symm

variable {name : α → EventId} {id : EventId}

theorem putFiled (mem : id ∈ (t.put key value).values.map name) :
    id ∈ t.values.map name ∨ some (name value) = some id := by
  obtain ⟨other, inside, rfl⟩ := List.mem_map.mp mem
  rcases putValues inside with rfl | old
  · exact .inr rfl
  · exact .inl (List.mem_map_of_mem old)

theorem restoreFiled (mem : id ∈ (t.restore key old).values.map name) :
    id ∈ t.values.map name ∨ old.map name = some id := by
  obtain ⟨other, inside, rfl⟩ := List.mem_map.mp mem
  rcases restoreValues inside with rfl | stored
  · exact .inr rfl
  · exact .inl (List.mem_map_of_mem stored)

theorem getFiled (found : (t.get? key).map name = some id) : id ∈ t.values.map name := by
  obtain ⟨value, stored, rfl⟩ := Option.map_eq_some_iff.mp found
  exact List.mem_map_of_mem (valueMem stored)

end Table

def StoreCall.filed? : StoreCall → Option EventId
  | addEvent event | saveEvent event => some event.id
  | addRegistration r => some r.event
  | addPayment payment => some payment.event
  | addTicket ticket | saveTicket ticket => some ticket.event
  | _ => none

def Edit.filed? : Edit → Option EventId
  | event made => some made.id
  | registration _ made => some made.event
  | payment _ made => some made.event
  | ticket _ made => some made.event
  | _ => none

def Undo.filed? : Undo → Option EventId
  | event _ old => old.map Event.id
  | registration _ old => old.map Registration.event
  | payment _ old => old.map Payment.event
  | ticket _ old => old.map Ticket.event
  | _ => none

namespace Tables
variable {t : Tables} {id : EventId}

def filed (t : Tables) : List EventId :=
  t.events.values.map Event.id ++ t.registrations.values.map Registration.event ++
    t.payments.values.map Payment.event ++ t.tickets.values.map Ticket.event

theorem memFiled : id ∈ t.filed ↔ id ∈ t.events.values.map Event.id ∨
    id ∈ t.registrations.values.map Registration.event ∨ id ∈ t.payments.values.map Payment.event ∨
    id ∈ t.tickets.values.map Ticket.event := by
  simp only [filed, List.mem_append, or_assoc]

theorem editFiled {e : Edit} (mem : id ∈ (t.edit e).filed) : id ∈ t.filed ∨ e.filed? = some id := by
  rw [memFiled] at mem ⊢
  cases e with
  | event | registration | payment | ticket =>
    rcases mem with mem | mem | mem | mem
    all_goals first
      | exact .inl (by tauto)
      | have put := Table.putFiled mem
        simp only [Edit.filed?]
        tauto
  | _ => exact .inl mem

theorem undoFiled {u : Undo} (mem : id ∈ (t.undo u).filed) : id ∈ t.filed ∨ u.filed? = some id := by
  rw [memFiled] at mem ⊢
  cases u with
  | event | registration | payment | ticket =>
    rcases mem with mem | mem | mem | mem
    all_goals first
      | exact .inl (by tauto)
      | have back := Table.restoreFiled mem
        simp only [Undo.filed?]
        tauto
  | _ => exact .inl mem

theorem undoAllFiled {entries : List Undo} (mem : id ∈ (entries.foldl undo t).filed) :
    id ∈ t.filed ∨ ∃ u ∈ entries, u.filed? = some id := by
  induction entries generalizing t with
  | nil => exact .inl mem
  | cons u rest ih =>
    rcases ih mem with now | ⟨other, inside, brings⟩
    · exact (undoFiled now).imp_right fun brings => ⟨u, List.mem_cons_self, brings⟩
    · exact .inr ⟨other, List.mem_cons_of_mem _ inside, brings⟩

theorem undoingFiled {e : Edit} (brings : (t.undoing e).filed? = some id) : id ∈ t.filed := by
  rw [memFiled]
  cases e with
  | event event => exact .inl (Table.getFiled brings)
  | registration label r => exact .inr (.inl (Table.getFiled brings))
  | payment label payment => exact .inr (.inr (.inl (Table.getFiled brings)))
  | ticket label ticket => exact .inr (.inr (.inr (Table.getFiled brings)))
  | _ => cases brings

theorem disowningFiled {given : Raw} {owner : Label} : ∀ e ∈ t.disowning given owner, e.filed? = none := by
  unfold disowning
  split <;> simp [Edit.filed?]

theorem planFiled (c : StoreCall) : ∀ e ∈ (t.plan c).2, e.filed? = some id → c.filed? = some id := by
  cases c with
  | moveTicket given source target =>
    have none (e : Edit) (mem : e ∈ (t.plan (.moveTicket given source target)).2) : e.filed? = none := by
      simp only [plan] at mem
      split at mem
      · cases mem
      · exact disowningFiled e mem
      · rcases List.mem_append.mp mem with off | on
        · exact disowningFiled e off
        · cases List.mem_singleton.mp on
          rfl
    intro e mem files
    cases (none e mem).symm.trans files
  | _ =>
    simp only [plan]
    repeat' split
    all_goals simp [Edit.filed?, StoreCall.filed?]

end Tables

namespace Passage
variable {σ : Type} {p : Passage σ σ} {s : σ} {holds : σ → Prop} {waiting : Waiting}

def Leaves (p : Passage σ σ) (holds : σ → Prop) : Prop :=
  match p with
  | .ok s => holds s
  | .error ended => holds ended.store

theorem leavesThrough {method : String} {work : σ → Passage σ σ} (here : holds s)
    (works : (work s).Leaves holds) : (through waiting method work s).Leaves holds := by
  unfold through
  split
  · exact works
  · exact here
  · generalize work s = worked at works ⊢
    cases worked <;> exact works

theorem leavesBind {next : σ → Passage σ σ} (first : p.Leaves holds)
    (later : ∀ s, holds s → (next s).Leaves holds) : Leaves (p >>= next) holds := by
  cases p with
  | ok s => exact later s first
  | error ended => exact first

theorem leavesFoldlM {α : Type} {next : σ → α → Passage σ σ} {items : List α} (here : holds s)
    (each : ∀ item ∈ items, ∀ s, holds s → (next s item).Leaves holds) : (items.foldlM next s).Leaves holds := by
  induction items generalizing s with
  | nil => exact here
  | cons item rest ih =>
    rw [List.foldlM_cons]
    exact leavesBind (each item List.mem_cons_self s here) fun s here =>
      ih here fun other mem => each other (List.mem_cons_of_mem _ mem)

theorem leavesEnded {ended : Interruption σ} (leaves : p.Leaves holds) (ends : p.interruption? = some ended) :
    holds ended.store := by
  cases p with
  | ok s => cases ends
  | error other =>
    cases ends
    exact leaves

end Passage

/-- What it means that a store files records under the listed ids: a call adds no id but that of its own
record, nothing else adds any, and what is looked up is listed. -/
structure RecordStore.Filing {σ : Type} [RecordStore σ] (filed : σ → List EventId) : Prop where
  called : ∀ {c s id}, id ∈ filed (RecordStore.call c s).2 → id ∈ filed s ∨ c.filed? = some id
  ended : ∀ {c waiting s ended id}, RecordStore.interrupted c waiting s = some ended →
    id ∈ filed ended.store → id ∈ filed s ∨ c.filed? = some id
  entered : ∀ {s id}, id ∈ filed (RecordStore.enter s) → id ∈ filed s
  committed : ∀ {s after id}, RecordStore.commit s = .ok after → id ∈ filed after → id ∈ filed s
  rolledBack : ∀ {s id}, id ∈ filed (RecordStore.rollBack s) → id ∈ filed s
  event : ∀ {s id event}, (RecordStore.call (.getEvent id) s).1 = .ok (some event) → event.id ∈ filed s
  ticket : ∀ {s given ticket}, (RecordStore.call (.getTicket given) s).1 = .ok (some ticket) →
    ticket.event ∈ filed s

namespace Journal
variable {s : Journal} {id : EventId} {waiting : Waiting} {c : StoreCall}

def filed (s : Journal) : List EventId :=
  s.tables.filed ++ s.entries.filterMap Undo.filed?

theorem memFiled : id ∈ s.filed ↔ id ∈ s.tables.filed ∨ ∃ u ∈ s.entries, u.filed? = some id := by
  simp only [filed, List.mem_append, List.mem_filterMap]

theorem editFiled {e : Edit} (mem : id ∈ ({ s with tables := s.tables.edit e } : Journal).filed) :
    id ∈ s.filed ∨ e.filed? = some id := by
  rw [memFiled] at mem ⊢
  rcases mem with now | back
  · exact (Tables.editFiled now).imp_left .inl
  · exact .inl (.inr back)

theorem recordFiled {e : Edit} (mem : id ∈ (s.record e).filed) : id ∈ s.filed ∨ e.filed? = some id := by
  rw [memFiled] at mem ⊢
  rcases mem with now | ⟨u, inside, brings⟩
  · exact (Tables.editFiled now).imp_left .inl
  · simp only [record] at inside
    split at inside
    · exact .inl (.inr ⟨u, inside, brings⟩)
    · rcases List.mem_cons.mp inside with rfl | old
      · exact .inl (.inl (Tables.undoingFiled brings))
      · exact .inl (.inr ⟨u, old, brings⟩)

theorem recordAllFiled {edits : List Edit} (mem : id ∈ (edits.foldl record s).filed) :
    id ∈ s.filed ∨ ∃ e ∈ edits, e.filed? = some id := by
  induction edits generalizing s with
  | nil => exact .inl mem
  | cons e rest ih =>
    rcases ih mem with now | ⟨other, inside, files⟩
    · exact (recordFiled now).imp_right fun files => ⟨e, List.mem_cons_self, files⟩
    · exact .inr ⟨other, List.mem_cons_of_mem _ inside, files⟩

theorem callFiled (mem : id ∈ (call c s).2.filed) : id ∈ s.filed ∨ c.filed? = some id := by
  refine (recordAllFiled mem).imp_right ?_
  rintro ⟨e, inside, files⟩
  exact Tables.planFiled c e inside files

theorem passFiled : (pass waiting c s).Leaves fun t => ∀ id ∈ t.filed, id ∈ s.filed ∨ c.filed? = some id := by
  have work : (passWork waiting c s).Leaves fun t => ∀ id ∈ t.filed, id ∈ s.filed ∨ c.filed? = some id := by
    unfold passWork
    split
    · exact fun _ mem => .inl mem
    split
    · exact fun _ mem => .inl mem
    refine Passage.leavesBind (Passage.leavesFoldlM (fun _ mem => .inl mem) fun e inside t here => ?_)
      fun t here => ?_
    · have files {u : Journal} (edited : ∀ id ∈ u.filed, id ∈ t.filed ∨ e.filed? = some id) :
          ∀ id ∈ u.filed, id ∈ s.filed ∨ c.filed? = some id :=
        fun id mem => (edited id mem).elim (here id) fun files => .inr (Tables.planFiled c e inside files)
      have entered : (Passage.through waiting entryMethod (fun _ => .ok (t.record e))
          { t with tables := t.tables.edit e }).Leaves fun u => ∀ id ∈ u.filed, id ∈ s.filed ∨ c.filed? = some id :=
        Passage.leavesThrough (files fun _ => editFiled) (files fun _ => recordFiled)
      unfold passEdit
      split
      · exact Passage.leavesThrough here entered
      · exact entered
    · split
      · exact Passage.leavesThrough here here
      · exact here
  unfold pass
  split
  · exact Passage.leavesThrough (fun _ mem => .inl mem) work
  · exact work

theorem leaveFiled (mem : id ∈ s.leave.filed) : id ∈ s.filed := by
  rw [memFiled] at mem ⊢
  unfold leave at mem
  split at mem
  · exact mem
  · rcases mem with now | ⟨u, inside, brings⟩
    · exact .inl now
    · cases inside
  · exact mem

theorem rollBackFiled (mem : id ∈ s.rollBack.filed) : id ∈ s.filed := by
  unfold rollBack at mem
  split at mem
  · exact mem
  · rcases memFiled.mp (leaveFiled mem) with now | ⟨u, inside, brings⟩
    · rw [memFiled]
      refine (Tables.undoAllFiled now).imp_right fun undone => ?_
      obtain ⟨u, inside, brings⟩ := undone
      exact ⟨u, List.mem_of_mem_take inside, brings⟩
    · exact memFiled.mpr (.inr ⟨u, List.mem_of_mem_drop inside, brings⟩)

theorem filing : RecordStore.Filing filed where
  called := callFiled
  ended ends := Passage.leavesEnded passFiled ends _
  entered mem := mem
  committed ok mem := by
    cases ok
    exact leaveFiled mem
  rolledBack := rollBackFiled
  event {s id event} found := by
    have stored : s.tables.events.get? id = some event := Except.ok.inj found
    exact memFiled.mpr (.inl (Tables.memFiled.mpr (.inl (List.mem_map_of_mem (Table.valueMem stored)))))
  ticket {s given ticket} found := by
    have read : (Checked.label given).map s.tables.tickets.get? = .ok (some ticket) := found
    cases named : Checked.label given with
    | error failure =>
      rw [named] at read
      cases read
    | ok label =>
      rw [named] at read
      have stored : s.tables.tickets.get? label = some ticket := Except.ok.inj read
      refine memFiled.mpr (.inl (Tables.memFiled.mpr (.inr (.inr (.inr ?_)))))
      exact List.mem_map_of_mem (Table.valueMem stored)

end Journal

end BoxOffice
