import Mathlib.Data.List.Range
import BoxOffice.Proofs.Store.Table
import BoxOffice.Proofs.Store.View

/-! Tables whose records are numbered from one in the order in which they came, each under the number that
is its id, with lists of the ids for each event. -/
namespace BoxOffice

structure Series {α : Type} (id : α → Raw) (event : α → EventId) (records : Table Label α) (last : Nat)
    (lists : EventId → List Raw) : Prop where
  numbered : records.entries.map (fun entry => (entry.1, id entry.2)) =
    (List.range' 1 last).map fun n : Nat => (Label.numbered n, Raw.whole n)
  listed : ∀ key, lists key = (records.values.filter fun record => event record = key).map id

namespace Series
variable {α : Type} {id : α → Raw} {event : α → EventId} {records : Table Label α} {last : Nat}
  {lists : EventId → List Raw} {old value : α}

theorem empty (id : α → Raw) (event : α → EventId) : Series id event .empty 0 fun _ => [] :=
  ⟨rfl, fun _ => rfl⟩

theorem keys (series : Series id event records last lists) :
    records.entries.map Prod.fst = (List.range' 1 last).map fun n : Nat => Label.numbered n := by
  have firsts := congrArg (List.map Prod.fst) series.numbered
  simpa only [List.map_map, Function.comp_def] using firsts

theorem ids (series : Series id event records last lists) :
    records.values.map id = (List.range' 1 last).map fun n : Nat => Raw.whole n := by
  have seconds := congrArg (List.map Prod.snd) series.numbered
  simpa only [Table.values, List.map_map, Function.comp_def] using seconds

theorem once (series : Series id event records last lists) : (records.entries.map Prod.fst).Nodup := by
  rw [series.keys]
  exact (List.nodup_range' 1).map fun m n same => Int.ofNat_inj.mp (Label.numbered.inj same)

theorem number (series : Series id event records last lists) {label : Label}
    (stored : records.get? label = some value) :
    ∃ n : Nat, 1 ≤ n ∧ n ≤ last ∧ label = .numbered n ∧ id value = .whole n := by
  have mem : (label, id value) ∈ records.entries.map fun entry => (entry.1, id entry.2) :=
    List.mem_map.mpr ⟨_, Table.memOfGet stored, rfl⟩
  rw [series.numbered] at mem
  obtain ⟨n, inside, same⟩ := List.mem_map.mp mem
  obtain ⟨rfl, is⟩ := Prod.mk.inj same
  rw [List.mem_range'_1] at inside
  exact ⟨n, inside.1, by omega, rfl, is.symm⟩

theorem stored (series : Series id event records last lists) (mem : value ∈ records.values) :
    ∃ n : Nat, id value = .whole n ∧ records.get? (.numbered n) = some value := by
  obtain ⟨⟨label, value⟩, inside, rfl⟩ := List.mem_map.mp mem
  have found := Table.getOfMem series.once inside
  obtain ⟨n, _, _, rfl, is⟩ := series.number found
  exact ⟨n, is, found⟩

theorem found (series : Series id event records last lists) {n : Nat} (first : 1 ≤ n) (within : n ≤ last) :
    ∃ value, records.get? (.numbered n) = some value ∧ id value = .whole n := by
  have mem : (Label.numbered n, Raw.whole n) ∈ records.entries.map fun entry => (entry.1, id entry.2) := by
    rw [series.numbered]
    exact List.mem_map.mpr ⟨n, List.mem_range'_1.mpr ⟨first, by omega⟩, rfl⟩
  obtain ⟨⟨label, value⟩, inside, same⟩ := List.mem_map.mp mem
  obtain ⟨rfl, is⟩ := Prod.mk.inj same
  exact ⟨value, Table.getOfMem series.once inside, is⟩

theorem fresh (series : Series id event records last lists) :
    records.get? (.numbered (last + 1 : Nat)) = none := by
  cases stored : records.get? (.numbered (last + 1 : Nat)) with
  | none => rfl
  | some value =>
    obtain ⟨n, _, within, same, _⟩ := series.number stored
    cases same
    omega

theorem sorted (series : Series id event records last lists) (key : EventId) :
    ∃ ns : List Nat, lists key = ns.map (fun n => .whole n) ∧ ns.Pairwise (· < ·) := by
  have part : (lists key).Sublist ((List.range' 1 last).map fun n : Nat => Raw.whole n) := by
    rw [series.listed, ← series.ids]
    exact List.Sublist.map _ List.filter_sublist
  obtain ⟨ns, inside, same⟩ := List.sublist_map_iff.mp part
  exact ⟨ns, same, (List.pairwise_lt_range' 1).sublist inside⟩

theorem listedOnce (series : Series id event records last lists) (mem : value ∈ records.values)
    (key : EventId) : (lists key).count (id value) = if event value = key then 1 else 0 := by
  have all : (records.values.map id).Nodup := by
    rw [series.ids]
    exact (List.nodup_range' 1).map fun m n same => Int.ofNat_inj.mp (Raw.whole.inj same)
  have part : ((records.values.filter fun record => event record = key).map id).Nodup :=
    all.sublist (List.filter_sublist.map id)
  rw [series.listed]
  split
  · rename_i here
    exact List.count_eq_one_of_mem part (List.mem_map_of_mem (List.mem_filter.mpr ⟨mem, by simpa using here⟩))
  · rename_i apart
    refine List.count_eq_zero_of_not_mem fun listed => apart ?_
    obtain ⟨other, inside, same⟩ := List.mem_map.mp listed
    obtain ⟨there, own⟩ := List.mem_filter.mp inside
    rw [← List.inj_on_of_nodup_map all there mem same]
    simpa using own

theorem listedStored (series : Series id event records last lists) {key : EventId} {item : Raw}
    (mem : item ∈ lists key) : ∃ record ∈ records.values, id record = item ∧ event record = key := by
  rw [series.listed] at mem
  obtain ⟨record, inside, rfl⟩ := List.mem_map.mp mem
  obtain ⟨there, own⟩ := List.mem_filter.mp inside
  exact ⟨record, there, rfl, by simpa using own⟩

theorem next (series : Series id event records last lists) (is : id value = .whole (last + 1 : Nat)) :
    Series id event (records.put (.numbered (last + 1 : Nat)) value) (last + 1)
      (Function.update lists (event value) (lists (event value) ++ [id value])) where
  numbered := by
    rw [Table.putNew series.fresh, List.map_append, series.numbered, List.range'_1_concat, List.map_append,
      Nat.add_comm 1 last]
    simp [is]
  listed key := by
    rw [Table.putNewValues series.fresh, List.filter_append, List.map_append, ← series.listed]
    by_cases here : event value = key
    · subst here
      simp
    · simp [Function.update_of_ne (Ne.symm here), here]

theorem again (series : Series id event records last lists) {label : Label}
    (stored : records.get? label = some old) (named : id value = id old) (kept : event value = event old) :
    Series id event (records.put label value) last lists where
  numbered := (Table.putKnown stored _ (by simp [named])).trans series.numbered
  listed key := by
    have pairs : (records.put label value).values.map (fun record => (event record, id record)) =
        records.values.map fun record => (event record, id record) :=
      Table.putKnownValues stored _ (by rw [named, kept])
    have shown (values : List α) : (values.filter fun record => event record = key).map id =
        ((values.map fun record => (event record, id record)).filter fun pair => pair.1 = key).map Prod.snd := by
      simp [List.filter_map, Function.comp_def]
    rw [series.listed, shown, shown, pairs]

end Series
end BoxOffice
