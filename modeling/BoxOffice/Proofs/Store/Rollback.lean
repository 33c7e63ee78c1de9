import BoxOffice.Proofs.Store.View
import BoxOffice.Store.Journal

/-! What a journal keeps for each open block: the entries above its mark take the tables back to what
they showed when the block was entered. Every call keeps this, and rolling a block back uses it. -/
namespace BoxOffice.Journal

inductive Backs : View → List Undo → List Nat → List View → Prop where
  | outside (v) : Backs v [] [] []
  | inside {v above copy below marks copies}
      (back : above.foldl View.undo v = copy)
      (rest : Backs copy below marks copies) :
      Backs v (above ++ below) (below.length :: marks) (copy :: copies)

def Backed (s : Journal) (copies : List View) : Prop :=
  Backs s.tables.view s.entries s.marks copies

theorem recordBacked {s : Journal} {copies : List View} (backed : s.Backed copies) {e : Edit}
    (fits : s.tables.Fits e) : (s.record e).Backed copies := by
  obtain ⟨tables, entries, marks⟩ := s
  simp only [Backed, record, Tables.viewEdit] at backed ⊢
  cases backed with
  | outside => exact .outside _
  | @inside _ above copy below marks copies back rest =>
    have undone : (tables.undoing e :: above).foldl View.undo (tables.view.edit e) = copy := by
      rw [List.foldl_cons, Tables.undoEdit fits, back]
    exact .inside undone rest

theorem recordAllTables (s : Journal) (edits : List Edit) :
    (edits.foldl record s).tables = edits.foldl Tables.edit s.tables := by
  induction edits generalizing s with
  | nil => rfl
  | cons e rest ih => exact ih (s.record e)

theorem recordAllBacked {s : Journal} {copies : List View} (backed : s.Backed copies)
    {edits : List Edit} (fits : s.tables.FitsAll edits) : (edits.foldl record s).Backed copies := by
  induction edits generalizing s with
  | nil => exact backed
  | cons e rest ih => exact ih (recordBacked backed fits.1) fits.2

theorem callBacked {s : Journal} {copies : List View} (backed : s.Backed copies) (c : StoreCall) :
    (call c s).2.Backed copies :=
  recordAllBacked backed (s.tables.planFits c)

theorem enterBacked {s : Journal} {copies : List View} (backed : s.Backed copies) :
    s.enter.Backed (s.tables.view :: copies) :=
  @Backs.inside s.tables.view [] _ _ _ _ rfl backed

theorem leaveTables (s : Journal) : s.leave.tables = s.tables := by
  unfold leave
  split <;> rfl

theorem leaveBacked {s : Journal} {copy : View} {copies : List View}
    (backed : s.Backed (copy :: copies)) : s.leave.Backed copies := by
  obtain ⟨tables, entries, marks⟩ := s
  cases backed with
  | @inside _ above _ below marks _ back rest =>
    cases rest with
    | outside => exact .outside _
    | @inside _ above' copy' below' marks' copies' back' rest' =>
      have joined : (above ++ above').foldl View.undo tables.view = copy' := by
        rw [List.foldl_append, back, back']
      have kept : Backs tables.view (above ++ above' ++ below') (below'.length :: marks')
          (copy' :: copies') := .inside joined rest'
      rw [List.append_assoc] at kept
      exact kept

theorem backsInside {v copy : View} {entries : List Undo} {marks : List Nat} {copies : List View}
    (backs : Backs v entries marks (copy :: copies)) :
    ∃ above below outer, entries = above ++ below ∧ marks = below.length :: outer ∧
      above.foldl View.undo v = copy ∧ Backs copy below outer copies := by
  cases backs with
  | @inside _ above _ below outer _ back rest => exact ⟨above, below, outer, rfl, rfl, back, rest⟩

theorem unwindAbove (tables : Tables) (above below : List Undo) (marks : List Nat) :
    unwind ⟨tables, above ++ below, marks⟩ below.length =
      ⟨above.foldl Tables.undo tables, below, marks⟩ := by
  simp [unwind]

theorem rollBackBacked {s : Journal} {copy : View} {copies : List View}
    (backed : s.Backed (copy :: copies)) :
    s.rollBack.Backed copies ∧ s.rollBack.tables.view = copy := by
  obtain ⟨tables, entries, marks⟩ := s
  obtain ⟨above, below, outer, rfl, rfl, back, rest⟩ := backsInside backed
  have shown : (above.foldl Tables.undo tables).view = copy := by
    rw [Tables.viewUndos, back]
  simp only [rollBack, unwindAbove]
  refine ⟨?_, by rw [leaveTables]; exact shown⟩
  cases rest with
  | outside => exact .outside _
  | inside back' rest' =>
    have kept := Backs.inside back' rest'
    rw [← shown] at kept
    exact kept

end BoxOffice.Journal
