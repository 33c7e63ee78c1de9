import BoxOffice.Store.Journal

/-! Calls of a journalled store whose inner methods are disturbed. As long as the entry of what takes
an edit back is left alone, a call that ends on its way has made some of its edits, the first ones,
and each of them with its entry. -/
namespace BoxOffice

theorem labelFailure {value : Raw} {failure : Failure}
    (failed : Checked.label value = .error failure) : failure = .notALabel := by
  unfold Checked.label at failed
  split at failed
  · cases failed
  · exact (Except.error.inj failed).symm

theorem listingFailure {events : List Event} {organizer : Raw} {failure : Failure}
    (failed : listing events organizer = .error failure) : failure = .unordered := by
  simp only [listing] at failed
  repeat' split at failed
  all_goals first | exact (Except.error.inj failed).symm | cases failed

theorem planFailure {t : Tables} {c : StoreCall} {failure : Failure}
    (failed : (t.plan c).1 = .error failure) : failure ≠ .receiverFailed := by
  have label {value : Raw} (h : Checked.label value = .error failure) : failure ≠ .receiverFailed := by
    rw [labelFailure h]
    simp
  have mapped {value : Raw} {α : Type} {f : Label → α}
      (h : (Checked.label value).map f = .error failure) : failure ≠ .receiverFailed := by
    cases named : Checked.label value with
    | error other =>
      rw [named] at h
      cases h
      exact label named
    | ok name =>
      rw [named] at h
      cases h
  cases c with
  | listEvents organizer =>
    rw [listingFailure failed]
    simp
  | isRegistered _ _ | getPayment _ | getTicket _ | listOwnerTickets _ => exact mapped failed
  | addRevenue event amount =>
    simp only [Tables.plan] at failed
    split at failed
    · cases failed
    · rename_i fault _
      cases failed
      cases fault <;> simp [Failure.ofArithmetic]
  | addRegistration _ | addPayment _ | addTicket _ | saveTicket _ | moveTicket _ _ _ =>
    simp only [Tables.plan] at failed
    repeat' split at failed
    all_goals cases failed
    all_goals first | exact label (by assumption) | simp
  | _ =>
    simp only [Tables.plan] at failed
    repeat' split at failed
    all_goals cases failed
    all_goals simp

namespace Passage
variable {σ : Type} {waiting : Waiting} {method : String} {work : σ → Passage σ σ} {s after : σ}
  {ended : Interruption σ}

theorem throughOk (passed : through waiting method work s = .ok after) : work s = .ok after := by
  unfold through at passed
  split at passed
  · exact passed
  · cases passed
  · split at passed <;> cases passed

theorem throughError (passed : through waiting method work s = .error ended) :
    (ended.store = s ∧ ended.failure = none) ∨
    (work s = .ok ended.store ∧ ended.failure = none) ∨
    ∃ inner, work s = .error inner ∧ inner.store = ended.store ∧ inner.failure = ended.failure := by
  unfold through at passed
  split at passed
  · exact .inr (.inr ⟨ended, passed, rfl, rfl⟩)
  · cases passed
    exact .inl ⟨rfl, rfl⟩
  · split at passed
    · rename_i worked
      cases passed
      exact .inr (.inl ⟨worked, rfl⟩)
    · rename_i inner worked
      cases passed
      exact .inr (.inr ⟨inner, worked, rfl, rfl⟩)

end Passage

namespace Journal
variable {waiting : Waiting}

structure Stopped (c : StoreCall) (s : Journal) (ended : Interruption Journal) : Prop where
  store : ∃ n, ended.store = ((s.tables.plan c).2.take n).foldl record s
  failure : ended.failure ≠ some .receiverFailed

theorem passEditOk (quiet : waiting entryMethod = none) {s after : Journal} {e : Edit}
    (passed : passEdit waiting s e = .ok after) : after = s.record e := by
  simp only [passEdit, Passage.throughUndisturbed quiet] at passed
  split at passed
  · have worked := @Passage.throughOk _ _ _ (fun _ => .ok (s.record e)) s after passed
    exact (Except.ok.inj worked).symm
  · exact (Except.ok.inj passed).symm

theorem passEditError (quiet : waiting entryMethod = none) {s : Journal} {e : Edit}
    {ended : Interruption Journal} (passed : passEdit waiting s e = .error ended) :
    (ended.store = s ∨ ended.store = s.record e) ∧ ended.failure = none := by
  simp only [passEdit, Passage.throughUndisturbed quiet] at passed
  split at passed
  · obtain ⟨store, failure⟩ | ⟨worked, failure⟩ | ⟨inner, worked, _⟩ := Passage.throughError passed
    · exact ⟨.inl store, failure⟩
    · exact ⟨.inr (Except.ok.inj worked).symm, failure⟩
    · cases worked
  · cases passed

theorem passEditsOk (quiet : waiting entryMethod = none) {edits : List Edit} {s after : Journal}
    (passed : edits.foldlM (passEdit waiting) s = .ok after) : after = edits.foldl record s := by
  induction edits generalizing s with
  | nil => exact (Except.ok.inj passed).symm
  | cons e rest ih =>
    rw [List.foldlM_cons] at passed
    cases first : passEdit waiting s e with
    | error ended => simp [first, bind, Except.bind] at passed
    | ok next =>
      rw [first] at passed
      rw [ih passed, passEditOk quiet first, List.foldl_cons]

theorem passEditsError (quiet : waiting entryMethod = none) {edits : List Edit} {s : Journal}
    {ended : Interruption Journal} (passed : edits.foldlM (passEdit waiting) s = .error ended) :
    (∃ n, ended.store = (edits.take n).foldl record s) ∧ ended.failure = none := by
  induction edits generalizing s with
  | nil => cases passed
  | cons e rest ih =>
    rw [List.foldlM_cons] at passed
    cases first : passEdit waiting s e with
    | error early =>
      rw [first] at passed
      cases passed
      obtain ⟨store, failure⟩ := passEditError quiet first
      refine ⟨?_, failure⟩
      rcases store with none | one
      · exact ⟨0, none⟩
      · exact ⟨1, by simpa using one⟩
    | ok next =>
      rw [first] at passed
      obtain ⟨⟨n, store⟩, failure⟩ := ih passed
      rw [passEditOk quiet first] at store
      exact ⟨⟨n + 1, store⟩, failure⟩

theorem passWorkOk (quiet : waiting entryMethod = none) {c : StoreCall} {s after : Journal}
    (passed : passWork waiting c s = .ok after) : after = (s.tables.plan c).2.foldl record s := by
  unfold passWork at passed
  split at passed
  · cases passed
  split at passed
  · cases passed
  cases edits : (s.tables.plan c).2.foldlM (passEdit waiting) s with
  | error early => simp [edits, bind, Except.bind] at passed
  | ok next =>
    simp only [edits, bind, Except.bind] at passed
    rw [← passEditsOk quiet edits]
    split at passed
    · cases Passage.throughOk passed
    · exact (Except.ok.inj passed).symm

theorem passWorkError (quiet : waiting entryMethod = none) {c : StoreCall} {s : Journal}
    {ended : Interruption Journal} (passed : passWork waiting c s = .error ended) :
    Stopped c s ended := by
  unfold passWork at passed
  split at passed
  · cases passed
    exact ⟨⟨0, rfl⟩, by simp⟩
  split at passed
  · cases passed
    exact ⟨⟨0, rfl⟩, by simp⟩
  cases edits : (s.tables.plan c).2.foldlM (passEdit waiting) s with
  | error early =>
    simp only [edits, bind, Except.bind] at passed
    cases passed
    obtain ⟨store, failure⟩ := passEditsError quiet edits
    exact ⟨store, by simp [failure]⟩
  | ok after =>
    have all : after = ((s.tables.plan c).2.take (s.tables.plan c).2.length).foldl record s := by
      rw [List.take_length, passEditsOk quiet edits]
    simp only [edits, bind, Except.bind] at passed
    split at passed
    · rename_i method failure unlabelled failed
      obtain ⟨store, none⟩ | ⟨worked, _⟩ | ⟨inner, worked, store, same⟩ := Passage.throughError passed
      · exact ⟨⟨_, store.trans all⟩, by simp [none]⟩
      · cases worked
      · cases worked
        refine ⟨⟨_, store.symm.trans all⟩, ?_⟩
        rw [← same]
        simpa using planFailure failed
    · cases passed

theorem passError (quiet : waiting entryMethod = none) {c : StoreCall} {s : Journal}
    {ended : Interruption Journal} (passed : pass waiting c s = .error ended) :
    Stopped c s ended := by
  unfold pass at passed
  split at passed
  · obtain ⟨store, failure⟩ | ⟨worked, failure⟩ | ⟨inner, worked, store, failure⟩ :=
      Passage.throughError passed
    · exact ⟨⟨0, store⟩, by simp [failure]⟩
    · refine ⟨⟨(s.tables.plan c).2.length, ?_⟩, by simp [failure]⟩
      rw [List.take_length, passWorkOk quiet worked]
    · have stopped := passWorkError quiet worked
      exact ⟨by rw [← store]; exact stopped.store, by rw [← failure]; exact stopped.failure⟩
  · exact passWorkError quiet passed

end Journal
end BoxOffice
