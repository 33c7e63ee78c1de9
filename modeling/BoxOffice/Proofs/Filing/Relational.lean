import BoxOffice.Proofs.Filing.Journal
import BoxOffice.Proofs.Store.Writes

/-! The events under which rows are filed. A row carries the id of the record that it keeps, and the rows that a
block puts back are those of its start. -/
namespace BoxOffice

namespace Rows
variable {τ : Type} {rows after : Rows τ} {id : EventId}

def filed (rows : Rows τ) : List EventId :=
  rows.events.map EventRow.id ++ rows.registrations.map Registration.event ++
    rows.payments.values.map Payment.event ++ rows.tickets.values.map Ticket.event

theorem memFiled : id ∈ rows.filed ↔ id ∈ rows.events.map EventRow.id ∨
    id ∈ rows.registrations.map Registration.event ∨ id ∈ rows.payments.values.map Payment.event ∨
    id ∈ rows.tickets.values.map Ticket.event := by
  simp only [filed, List.mem_append, or_assoc]

theorem writesFiled {c : StoreCall} (writes : rows.Writes c after) (mem : id ∈ after.filed) :
    id ∈ rows.filed ∨ c.filed? = some id := by
  rw [memFiled] at mem ⊢
  cases writes with
  | eventAdded made put =>
    obtain ⟨_, rfl⟩ := putTiersBeside put
    rw [List.map_append, List.mem_append] at mem
    rcases mem with (old | new) | mem
    · exact .inl (.inl old)
    · rw [List.map_singleton, List.mem_singleton, EventRow.ofEventId made] at new
      exact .inr (congrArg some new.symm)
    · exact .inl (.inr mem)
  | eventSaved made put =>
    obtain ⟨_, rfl⟩ := putTiersBeside put
    rcases mem with mem | mem
    · obtain ⟨_, there, rfl⟩ := List.mem_map.mp mem
      obtain ⟨old, stored, rfl⟩ := List.mem_map.mp there
      split
      · exact .inr (congrArg some (EventRow.ofEventId made).symm)
      · exact .inl (.inl (List.mem_map_of_mem stored))
    · exact .inl (.inr mem)
  | registered event =>
    rw [List.map_append, List.mem_append] at mem
    rcases mem with mem | (old | new) | mem
    · exact .inl (.inl mem)
    · exact .inl (.inr (.inl old))
    · rw [List.map_singleton, List.mem_singleton, event] at new
      exact .inr (congrArg some new.symm)
    · exact .inl (.inr (.inr mem))
  | paid event =>
    rcases mem with mem | mem | mem | mem
    · exact .inl (.inl mem)
    · exact .inl (.inr (.inl mem))
    · rw [StoreCall.filed?, ← event]
      exact (Table.putFiled mem).imp_left fun old => .inr (.inr (.inl old))
    · exact .inl (.inr (.inr (.inr mem)))
  | issued event | changed event =>
    rcases mem with mem | mem | mem | mem
    · exact .inl (.inl mem)
    · exact .inl (.inr (.inl mem))
    · exact .inl (.inr (.inr (.inl mem)))
    · rw [StoreCall.filed?, ← event]
      exact (Table.putFiled mem).imp_left fun old => .inr (.inr (.inr old))
  | beside => exact .inl mem

end Rows

namespace Relational
variable {τ : Type} {s : Relational τ} {id : EventId}

def filed (s : Relational τ) : List EventId :=
  s.rows.filed ++ s.starts.flatMap Rows.filed

theorem memFiled : id ∈ s.filed ↔ id ∈ s.rows.filed ∨ ∃ start ∈ s.starts, id ∈ start.filed := by
  simp only [filed, List.mem_append, List.mem_flatMap]

variable [TotalColumn τ] {c : StoreCall} {waiting : Waiting}

theorem callFiled (mem : id ∈ (call c s).2.filed) : id ∈ s.filed ∨ c.filed? = some id := by
  unfold call at mem
  split at mem
  · exact .inl mem
  · rename_i answer after called
    split at mem
    · rw [memFiled] at mem ⊢
      rcases mem with now | start
      · exact (Rows.writesFiled (Rows.callWrites called) now).imp_left .inl
      · exact .inl (.inr start)
    · exact .inl mem

section
variable {holds : Relational τ → Prop}

omit [TotalColumn τ] in
theorem passPlaceLeaves (here : holds s) : (passPlace waiting s).Leaves holds := by
  unfold passPlace
  split <;> exact here

omit [TotalColumn τ] in
theorem passBlockLeaves (here : holds s) : (passBlock waiting s).Leaves holds :=
  Passage.leavesBind (Passage.leavesThrough here here) fun _ here => passPlaceLeaves here

omit [TotalColumn τ] in
theorem passTableLeaves {keys : Except Failure Unit} (here : holds s) :
    (passTable waiting keys s).Leaves holds := by
  refine Passage.leavesBind (Passage.leavesThrough here here) fun t here => ?_
  cases keys with
  | error failure => exact here
  | ok keys => exact passPlaceLeaves here

theorem passTiersLeaves {event : Event} {row : Except Failure (Rows τ)} (here : holds s) :
    (passTiers waiting c event row s).Leaves holds := by
  unfold passTiers
  split
  · exact here
  · refine Passage.leavesThrough here ?_
    dsimp only
    split
    · refine Passage.leavesBind (p := .ok s) here fun t here => ?_
      split <;> exact here
    · refine Passage.leavesBind (passTableLeaves here) fun t here => ?_
      split <;> exact here

theorem passLeaves (here : holds s) (called : ∀ t, holds t → holds (call c t).2) :
    (pass waiting c s).Leaves holds := by
  cases c with
  | addRegistration _ | addPayment _ => exact passPlaceLeaves here
  | addTicket _ => exact passBlockLeaves here
  | addEvent event => exact Passage.leavesBind (passBlockLeaves here) fun _ here => passTiersLeaves here
  | saveEvent event =>
    exact Passage.leavesBind (passBlockLeaves here) fun _ here =>
      Passage.leavesBind (passTableLeaves here) fun _ here => passTiersLeaves here
  | nextPaymentId | nextTicketId =>
    unfold pass
    refine Passage.leavesThrough here ?_
    refine Passage.leavesBind (passBlockLeaves here) fun t here =>
      Passage.leavesBind (passTableLeaves here) fun t here => ?_
    exact called t here
  | addRevenue _ _ | moveTicket _ _ _ =>
    exact Passage.leavesBind (passBlockLeaves here) fun _ here => passTableLeaves here
  | _ =>
    unfold pass
    exact passTableLeaves here

end

omit [TotalColumn τ] in
theorem rollBackFiled (mem : id ∈ s.rollBack.filed) : id ∈ s.filed := by
  obtain ⟨rows, starts⟩ := s
  cases starts with
  | nil => exact mem
  | cons start starts =>
    rw [memFiled] at mem ⊢
    rcases mem with now | ⟨other, inside, files⟩
    · exact .inr ⟨start, List.mem_cons_self, now⟩
    · exact .inr ⟨other, List.mem_cons_of_mem _ inside, files⟩

theorem filing : RecordStore.Filing (filed (τ := τ)) where
  called := callFiled
  ended {c waiting s ended id} ends mem := by
    have left : (pass waiting c s).Leaves fun t => ∀ id ∈ t.filed, id ∈ s.filed ∨ c.filed? = some id :=
      passLeaves (fun _ mem => .inl mem) fun t here id mem => (callFiled mem).elim (here id) .inr
    exact Passage.leavesEnded left ends id mem
  entered {s id} mem := by
    rw [memFiled] at mem ⊢
    rcases mem with now | ⟨start, inside, files⟩
    · exact .inl now
    · rcases List.mem_cons.mp inside with rfl | outer
      · exact .inl files
      · exact .inr ⟨start, outer, files⟩
  committed {s after id} ok mem := by
    obtain ⟨_, _, ok⟩ := bindOk ok
    cases ok
    rw [memFiled] at mem ⊢
    exact mem.imp_right fun ⟨start, inside, files⟩ => ⟨start, List.mem_of_mem_tail inside, files⟩
  rolledBack := rollBackFiled
  event {s id event} found := by
    obtain ⟨_, shown⟩ := shownRows found
    obtain ⟨row, stored, rfl⟩ := Option.map_eq_some_iff.mp (congrArg Prod.fst (Except.ok.inj shown))
    refine memFiled.mpr (.inl (Rows.memFiled.mpr (.inl ?_)))
    exact List.mem_map_of_mem (f := EventRow.id) (List.mem_of_find?_eq_some stored)
  ticket {s given ticket} found := by
    obtain ⟨_, shown⟩ := shownRows found
    obtain ⟨_, read, shown⟩ := bindOk shown
    cases shown
    obtain ⟨number, _, read⟩ := bindOk read
    obtain ⟨n, _, stored⟩ := Option.bind_eq_some_iff.mp (Except.ok.inj read)
    refine memFiled.mpr (.inl (Rows.memFiled.mpr (.inr (.inr (.inr ?_)))))
    exact List.mem_map_of_mem (Table.valueMem stored)

end Relational
end BoxOffice
