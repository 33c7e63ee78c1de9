import BoxOffice.Proofs.Interchange.Columns
import BoxOffice.Proofs.Inventory

/-! Rows of tiers. An event's tiers are saved one by one, each in the place of the old row of its number, and
read back in the order of the numbers; as tiers are numbered in order and never go, that is the order of the
event. -/
namespace BoxOffice

namespace Event

def putAll (old tiers : List Tier) : List Tier :=
  tiers.foldl (fun tiers tier => putTier tier tiers) old

theorem putAllAfter (done old rest : List Tier)
    (whole : ∀ tier ∈ done ++ rest, ∃ m : Int, tier.id = .whole m) (once : ((done ++ rest).map Tier.id).Nodup)
    (known : old.map Tier.id <+: rest.map Tier.id) : putAll (done ++ old) rest = done ++ rest := by
  -- By induction on what is still to be put; the rest of the old list stands after what has been.
  induction rest generalizing done old with
  | nil =>
    rw [List.map_nil, List.prefix_nil, List.map_eq_nil_iff] at known
    rw [known]
    rfl
  | cons tier rest ih =>
    obtain ⟨n, id⟩ := whole tier (by simp)
    have apart : ∀ other ∈ done, other.id.same tier.id = false := by
      intro other mem
      obtain ⟨m, is⟩ := whole other (List.mem_append_left _ mem)
      refine Bool.eq_false_iff.mpr fun same => ?_
      exact apartOfOnce once other (List.mem_append_left _ mem) ((Raw.sameWholes is id).mp same)
    have goesOn (others : List Tier) (later : others.map Tier.id <+: rest.map Tier.id) :
        putAll (done ++ tier :: others) rest = done ++ tier :: rest := by
      have ends := ih (done ++ [tier]) others (by simpa using whole) (by simpa using once) later
      simpa using ends
    rw [putAll, List.foldl_cons, ← putAll]
    cases old with
    | nil =>
      rw [List.append_nil, putTierEnd apart]
      exact goesOn [] (List.nil_prefix)
    | cons other old =>
      rw [List.map_cons, List.map_cons, List.cons_prefix_cons] at known
      rw [putTierAt apart ((Raw.sameWholes (known.1.trans id) id).mpr known.1)]
      exact goesOn old known.2

theorem putAllNumbered {old tiers : List Tier}
    (known : old.map Tier.id = (List.range old.length).map fun n : Nat => .whole n)
    (ids : tiers.map Tier.id = (List.range tiers.length).map fun n : Nat => .whole n)
    (more : old.length ≤ tiers.length) : putAll old tiers = tiers := by
  obtain ⟨whole, once⟩ := wholeIds ids
  refine putAllAfter [] old tiers whole once ?_
  rw [known, ids]
  exact List.IsPrefix.map _ (List.prefix_iff_eq_take.mpr (by rw [List.length_range, List.take_range, Nat.min_eq_left more]))

theorem putTierDistinct {tier : Tier} {tiers : List Tier} {n : Int} (id : tier.id = .whole n)
    (whole : ∀ other ∈ tiers, ∃ m : Int, other.id = .whole m) (once : (tiers.map Tier.id).Nodup) :
    ((putTier tier tiers).map Tier.id).Nodup := by
  rw [((putTierPerm id whole once).map Tier.id).nodup_iff, List.map_cons, List.nodup_cons]
  refine ⟨fun mem => ?_, once.sublist (List.filter_sublist.map _)⟩
  obtain ⟨other, kept, same⟩ := List.mem_map.mp mem
  exact of_decide_eq_true (List.mem_filter.mp kept).2 same

theorem putAllPerm {old tiers : List Tier} (whole : ∀ tier ∈ old, ∃ m : Int, tier.id = .whole m)
    (once : (old.map Tier.id).Nodup) (whole' : ∀ tier ∈ tiers, ∃ m : Int, tier.id = .whole m)
    (once' : (tiers.map Tier.id).Nodup) :
    (putAll old tiers).Perm (tiers ++ old.filter fun tier => tier.id ∉ tiers.map Tier.id) := by
  induction tiers generalizing old with
  | nil => simp [putAll]
  | cons tier rest ih =>
    obtain ⟨⟨n, id⟩, whole'⟩ := List.forall_mem_cons.mp whole'
    obtain ⟨apart, once'⟩ := List.nodup_cons.mp once'
    have first := putTierPerm id whole once
    have wholes : ∀ other ∈ putTier tier old, ∃ m : Int, other.id = .whole m := by
      intro other mem
      rcases memPutTier mem with rfl | stored
      · exact ⟨n, id⟩
      · exact whole other stored
    have left : ((tier :: old.filter fun other => other.id ≠ tier.id).filter fun other =>
          other.id ∉ rest.map Tier.id) =
        tier :: old.filter fun other => other.id ∉ (tier :: rest).map Tier.id := by
      rw [List.filter_cons_of_pos (by simpa using apart), List.filter_filter]
      refine congrArg _ (List.filter_congr fun other _ => ?_)
      rw [← Bool.decide_and, decide_eq_decide, List.map_cons, List.mem_cons, not_or]
      exact and_comm
    have others := (first.filter fun other => other.id ∉ rest.map Tier.id).append_left rest
    rw [left] at others
    rw [putAll, List.foldl_cons, ← putAll]
    exact ((ih wholes (putTierDistinct id whole once) whole' once').trans others).trans List.perm_middle

end Event

namespace TierRow
variable {row : TierRow}

def ofEvent (id : EventId) (rows : List TierRow) : List Tier :=
  (rows.filter fun row => row.event == id).map toTier

theorem putHere (row : TierRow) (rows : List TierRow) :
    ofEvent row.event (row.put rows) = Event.putTier row.toTier (ofEvent row.event rows) := by
  induction rows with
  | nil => simp [ofEvent, put, Event.putTier]
  | cons first rest ih =>
    have ids : first.toTier.id.same row.toTier.id = decide (first.id = row.id) := by
      have same := @Raw.sameWholes _ _ first.id row.id rfl rfl
      rw [Raw.whole.injEq] at same
      rw [Bool.eq_iff_iff, decide_eq_true_iff]
      exact same
    by_cases event : first.event = row.event
    · by_cases id : first.id = row.id
      · simp [put, event, id, ofEvent, Event.putTier, ids]
      · rw [ofEvent, ofEvent] at ih
        simp [put, event, id, ofEvent, Event.putTier, ids, ih]
    · rw [ofEvent, ofEvent] at ih
      simp [put, event, ofEvent, ih]

theorem putThere {id : EventId} (apart : id ≠ row.event) (rows : List TierRow) :
    ofEvent id (row.put rows) = ofEvent id rows := by
  induction rows with
  | nil => simp [ofEvent, put, Ne.symm apart]
  | cons first rest ih =>
    rw [ofEvent, ofEvent] at ih
    by_cases here : first.event = row.event ∧ first.id = row.id
    · simp [put, here, ofEvent, Ne.symm apart]
    · rw [put, if_neg here]
      by_cases own : first.event = id <;> simp [ofEvent, own, ih]

end TierRow

namespace Rows
variable {τ : Type}

theorem putTiersFit {tiers : List Tier} (fit : ∀ tier ∈ tiers, tier.Fits) (event : EventId) (rows : Rows τ) :
    ∃ saved, rows.putTiers event tiers = .ok { rows with tiers := saved } ∧
      TierRow.ofEvent event saved =
        Event.putAll (TierRow.ofEvent event rows.tiers) (tiers.map Tier.settled) ∧
      ∀ id, id ≠ event → TierRow.ofEvent id saved = TierRow.ofEvent id rows.tiers := by
  induction tiers generalizing rows with
  | nil => exact ⟨rows.tiers, rfl, rfl, fun _ _ => rfl⟩
  | cons tier rest ih =>
    obtain ⟨row, made, rfl, is⟩ := TierRow.ofTierFits (fit tier List.mem_cons_self) event
    obtain ⟨saved, put, here, there⟩ :=
      ih (fun other mem => fit other (List.mem_cons_of_mem _ mem)) { rows with tiers := row.put rows.tiers }
    refine ⟨saved, ?_, ?_, fun id apart => ?_⟩
    · rw [putTiers, List.foldlM_cons, made]
      exact put
    · rw [here, TierRow.putHere, is]
      rfl
    · rw [there id apart, TierRow.putThere apart]

theorem putTiersSettled (event : EventId) (tiers : List Tier) (rows : Rows τ) :
    rows.putTiers event (tiers.map Tier.settled) = rows.putTiers event tiers := by
  unfold putTiers
  simp only [List.foldlM_map, TierRow.ofTierSettled]

theorem tiersOfSorted (rows : Rows τ) (id : EventId) : rows.tiersOf id =
    (TierRow.ofEvent id rows.tiers).mergeSort fun a b => a.id.number?.getD 0 ≤ b.id.number?.getD 0 := by
  rw [tiersOf, TierRow.ofEvent]
  exact List.map_mergeSort fun _ _ _ _ => rfl

theorem tiersOfNumbered {rows : Rows τ} {id : EventId} {tiers : List Tier}
    (kept : TierRow.ofEvent id rows.tiers = tiers)
    (ids : tiers.map Tier.id = (List.range tiers.length).map fun n : Nat => .whole n) :
    rows.tiersOf id = tiers := by
  have numbers : (rows.tiers.filter fun row => row.event == id).map (fun row => Raw.whole row.id) =
      (List.range tiers.length).map fun n : Nat => Raw.whole n := by
    rw [← ids, ← kept, TierRow.ofEvent, List.map_map]
    rfl
  have sorted : ((rows.tiers.filter fun row => row.event == id).map TierRow.id).Pairwise (· ≤ ·) := by
    have is : (rows.tiers.filter fun row => row.event == id).map TierRow.id =
        (List.range tiers.length).map fun n : Nat => (n : Int) := by
      have inside := congrArg (List.map fun given => given.number?.getD 0) numbers
      simpa [List.map_map, Function.comp_def, Raw.number?] using inside
    rw [is, List.pairwise_map]
    exact List.pairwise_lt_range.imp fun less => by omega
  rw [tiersOf, List.mergeSort_of_pairwise, ← kept, TierRow.ofEvent]
  simpa [List.pairwise_map] using sorted

end Rows
end BoxOffice
