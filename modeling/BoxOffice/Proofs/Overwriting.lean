import BoxOffice.Proofs.Interchange.Tiers
import BoxOffice.Proofs.Store.Writes

/-! What is shown of an event once its record has been saved anew. A store in memory puts the record in the
place of the old one. A store in tables puts the row of the event and, one by one, the rows of its tiers in the
places of the old rows of their numbers; the rows of other numbers stay, and their tiers are shown with the
new record. -/
namespace BoxOffice

/- A record that columns can keep: texts that can be encoded, times in the calendar, and tiers with distinct
numbers whose places can be counted. -/
structure Event.Storable (event : Event) : Prop where
  texts : ∀ given ∈ [event.organizer, event.name, event.description, event.venue], given.isLegible = true
  date : ∃ m, event.date = some m ∧ m.isDatable = true
  createdAt : ∃ m, event.createdAt = some m ∧ m.isDatable = true
  once : (event.tiers.map Tier.id).Nodup
  tiers : ∀ tier ∈ event.tiers, tier.Fits

namespace Journal
variable {s : Journal} {event before : Event}

theorem savedShown (stored : (call (.getEvent event.id) s).1 = .ok (some before)) :
    (call (.saveEvent event) s).1 = .ok () ∧
      (call (.getEvent event.id) (call (.saveEvent event) s).2).1 = .ok (some event) ∧
      ∀ id, id ≠ event.id →
        (call (.getEvent id) (call (.saveEvent event) s).2).1 = (call (.getEvent id) s).1 := by
  have there : s.tables.events.get? event.id = some before := Except.ok.inj stored
  have planned : s.tables.plan (.saveEvent event) = (.ok (), [.event event]) := by
    simp [Tables.plan, Table.contains, there]
  have saved : call (.saveEvent event) s = (.ok (), s.record (.event event)) := by
    simp only [call, planned, List.foldl_cons, List.foldl_nil]
  rw [saved]
  refine ⟨rfl, ?_, fun id other => ?_⟩
  · exact congrArg Except.ok (Table.getPutSame s.tables.events event.id event)
  · exact congrArg Except.ok (Table.getPutOther s.tables.events other event)

end Journal

namespace Rows
variable {τ : Type} {rows after : Rows τ}

def TiersOnce (rows : Rows τ) : Prop :=
  ∀ id, ((TierRow.ofEvent id rows.tiers).map Tier.id).Nodup

theorem ofEventWhole (id : EventId) (tiers : List TierRow) :
    ∀ tier ∈ TierRow.ofEvent id tiers, ∃ m : Int, tier.id = .whole m := by
  intro tier mem
  obtain ⟨row, _, rfl⟩ := List.mem_map.mp mem
  exact ⟨row.id, rfl⟩

theorem putOnce (once : rows.TiersOnce) (row : TierRow) :
    TiersOnce { rows with tiers := row.put rows.tiers } := by
  intro id
  by_cases own : id = row.event
  · subst own
    have here : TierRow.ofEvent row.event (row.put rows.tiers) = _ := TierRow.putHere row rows.tiers
    exact here ▸ Event.putTierDistinct rfl (ofEventWhole row.event rows.tiers) (once row.event)
  · have there : TierRow.ofEvent id (row.put rows.tiers) = _ := TierRow.putThere own rows.tiers
    exact there ▸ once id

theorem putTiersOnce {event : EventId} {tiers : List Tier} (once : rows.TiersOnce)
    (put : rows.putTiers event tiers = .ok after) : after.TiersOnce := by
  unfold putTiers at put
  induction tiers generalizing rows with
  | nil =>
    cases put
    exact once
  | cons tier rest ih =>
    rw [List.foldlM_cons] at put
    obtain ⟨_, first, put⟩ := bindOk put
    obtain ⟨row, _, first⟩ := bindOk first
    cases first
    exact ih (putOnce once row) put

theorem writesOnce {c : StoreCall} (once : rows.TiersOnce) (writes : rows.Writes c after) : after.TiersOnce := by
  cases writes with
  | eventAdded made put | eventSaved made put => exact putTiersOnce (by exact once) put
  | _ => exact once

theorem eventFound (rows : Rows τ) (id : EventId) : rows.event? id =
    (rows.events.find? fun row => row.id == id).map fun row => row.toEvent (rows.tiersOf id) := by
  rw [event?]
  cases found : rows.events.find? fun row => row.id == id with
  | none => rfl
  | some row =>
    have own : row.id = id := by simpa using List.find?_some found
    rw [Option.map_some, Option.map_some, eventOf, own]

theorem hasEventFound (rows : Rows τ) (id : EventId) :
    rows.hasEvent id = (rows.events.find? fun row => row.id == id).isSome := by
  rw [hasEvent, Bool.eq_iff_iff, List.any_eq_true, List.find?_isSome]

theorem findSwapped {row : EventRow} {event : EventId} (own : row.id = event) (events : List EventRow)
    (id : EventId) :
    ((events.map fun old => if old.id = event then row else old).find? fun row => row.id == id) =
      if id = event then (events.find? fun row => row.id == id).map fun _ => row
      else events.find? fun row => row.id == id := by
  have keeps (old : EventRow) : (if old.id = event then row else old).id = old.id := by
    by_cases here : old.id = event <;> simp [here, own]
  rw [List.find?_map]
  simp only [Function.comp_def, keeps]
  cases listed : events.find? fun row => row.id == id with
  | none => simp
  | some old =>
    have is : old.id = id := by simpa using List.find?_some listed
    rw [Option.map_some, Option.map_some, is]
    split <;> rfl

theorem tiersOfPerm (rows : Rows τ) (id : EventId) :
    (rows.tiersOf id).Perm (TierRow.ofEvent id rows.tiers) := by
  rw [tiersOfSorted]
  exact List.mergeSort_perm _ _

theorem tiersOfPut {event : EventId} {tiers : List Tier} (once : rows.TiersOnce)
    (fit : ∀ tier ∈ tiers, tier.Fits) (distinct : (tiers.map Tier.id).Nodup)
    (put : TierRow.ofEvent event after.tiers =
      Event.putAll (TierRow.ofEvent event rows.tiers) (tiers.map Tier.settled)) :
    (after.tiersOf event).Perm
      (tiers.map Tier.settled ++ (rows.tiersOf event).filter fun tier => tier.id ∉ tiers.map Tier.id) := by
  have numbers : ∀ tier ∈ tiers.map Tier.settled, ∃ n : Int, tier.id = .whole n := by
    refine List.forall_mem_map.mpr fun tier mem => ?_
    obtain ⟨n, _, id⟩ := (fit tier mem).id
    exact ⟨n, id⟩
  have ids : (tiers.map Tier.settled).map Tier.id = tiers.map Tier.id := by
    rw [List.map_map]
    rfl
  have all := Event.putAllPerm (ofEventWhole event rows.tiers) (once event) numbers (ids.symm ▸ distinct)
  rw [← put, ids] at all
  exact ((after.tiersOfPerm event).trans all).trans (((rows.tiersOfPerm event).symm.filter _).append_left _)

structure Saved (rows after : Rows τ) (event before back : Event) : Prop where
  saved : rows.saveEvent event = .ok after
  linked : after.linked = rows.linked
  shown : after.event? event.id = some back
  outline : { back with tiers := [] } = event.outline
  tiers : back.tiers.Perm
    (event.settled.tiers ++ before.tiers.filter fun tier => tier.id ∉ event.tiers.map Tier.id)
  others : ∀ id, id ≠ event.id → after.event? id = rows.event? id

theorem saveEventShown {event before : Event} (once : rows.TiersOnce) (storable : event.Storable)
    (stored : rows.event? event.id = some before) : ∃ after back, rows.Saved after event before back := by
  obtain ⟨row, made, outline⟩ := EventRow.ofEventColumns storable.texts storable.date storable.createdAt
  let swapped := rows.events.map fun old => if old.id = event.id then row else old
  obtain ⟨saved, put, here, there⟩ := putTiersFit storable.tiers event.id { rows with events := swapped }
  let after : Rows τ := { rows with events := swapped, tiers := saved }
  have found (id : EventId) : (after.events.find? fun row => row.id == id) = _ :=
    findSwapped (EventRow.ofEventId made) rows.events id
  rw [eventFound] at stored
  obtain ⟨old, listed, is⟩ := Option.map_eq_some_iff.mp stored
  refine ⟨after, row.toEvent (after.tiersOf event.id), ?_, ?_, ?_, outline, ?_, fun id other => ?_⟩
  · have present : rows.hasEvent event.id = true := by rw [hasEventFound, listed, Option.isSome_some]
    rw [saveEvent, saveEventRow, present, made]
    exact put
  · have has (id : EventId) : after.hasEvent id = rows.hasEvent id := by
      rw [hasEventFound, hasEventFound, found]
      split <;> simp
    simp only [linked, has]
    rfl
  · rw [eventFound, found, if_pos rfl, listed, Option.map_some, Option.map_some]
  · rw [← is]
    exact tiersOfPut once storable.tiers storable.once here
  · rw [eventFound, eventFound, found, if_neg other, tiersOfSorted, tiersOfSorted, there id other]

end Rows

namespace Relational
variable {τ : Type} {s : Relational τ}

def outside (s : Relational τ) : Rows τ :=
  s.starts.getLast?.getD s.rows

structure Sound (s : Relational τ) : Prop where
  rows : s.rows.TiersOnce
  starts : ∀ start ∈ s.starts, start.TiersOnce
  linked : s.outside.linked = true

theorem Sound.checked (sound : s.Sound) : (!s.starts.isEmpty || s.rows.linked) = true := by
  obtain ⟨rows, starts⟩ := s
  cases starts with
  | nil => exact sound.linked
  | cons start outer => rfl

variable [TotalColumn τ]

inductive Reached : Relational τ → Prop where
  | empty : Reached .empty
  | called {now} (c : StoreCall) (reached : Reached now) : Reached (call c now).2
  | entered {now} (reached : Reached now) : Reached now.enter
  | committed {now after} (reached : Reached now) (ok : now.commit = .ok after) : Reached after
  | rolledBack {now} (reached : Reached now) : Reached now.rollBack

theorem Reached.sound (reached : s.Reached) : s.Sound := by
  induction reached with
  | empty => exact ⟨fun _ => List.nodup_nil, List.forall_mem_nil _, rfl⟩
  | @called s c _ sound =>
    unfold call
    split
    · exact sound
    · rename_i answer after called
      split
      · rename_i checked
        refine ⟨Rows.writesOnce sound.rows (Rows.callWrites called), sound.starts, ?_⟩
        obtain ⟨rows, starts⟩ := s
        cases starts with
        | nil =>
          have linked : after.linked = true := by simpa using checked
          exact linked
        | cons start starts => exact sound.linked
      · exact sound
  | @entered s _ sound =>
    refine ⟨sound.rows, List.forall_mem_cons.mpr ⟨sound.rows, sound.starts⟩, ?_⟩
    have linked := sound.linked
    rwa [outside, enter, List.getLast?_cons, Option.getD_some]
  | @committed s after _ ok sound =>
    obtain ⟨_, checked, ok⟩ := bindOk ok
    cases ok
    refine ⟨sound.rows, fun start mem => sound.starts start (List.mem_of_mem_tail mem), ?_⟩
    obtain ⟨rows, starts⟩ := s
    cases starts with
    | nil => exact sound.linked
    | cons start outer =>
      cases outer with
      | nil =>
        unfold demand at checked
        split at checked
        · rename_i holds
          have linked : rows.linked = true := by simpa using holds
          exact linked
        · cases checked
      | cons next outer => exact sound.linked
  | @rolledBack s _ sound =>
    obtain ⟨rows, starts⟩ := s
    cases starts with
    | nil => exact sound
    | cons start outer =>
      obtain ⟨once, starts⟩ := List.forall_mem_cons.mp sound.starts
      refine ⟨once, starts, ?_⟩
      have linked := sound.linked
      rwa [outside, List.getLast?_cons, Option.getD_some] at linked

theorem getEventShown (checked : (!s.starts.isEmpty || s.rows.linked) = true) (id : EventId) :
    (call (.getEvent id) s).1 = .ok (s.rows.event? id) := by
  simp only [call, Rows.call, checked, if_true]

variable {event before : Event}

theorem savedShown (sound : s.Sound) (storable : event.Storable)
    (stored : (call (.getEvent event.id) s).1 = .ok (some before)) :
    (call (.saveEvent event) s).1 = .ok () ∧
      (∃ back, (call (.getEvent event.id) (call (.saveEvent event) s).2).1 = .ok (some back) ∧
        { back with tiers := [] } = event.outline ∧
        back.tiers.Perm
          (event.settled.tiers ++ before.tiers.filter fun tier => tier.id ∉ event.tiers.map Tier.id)) ∧
      ∀ id, id ≠ event.id →
        (call (.getEvent id) (call (.saveEvent event) s).2).1 = (call (.getEvent id) s).1 := by
  rw [getEventShown sound.checked] at stored
  obtain ⟨after, back, shows⟩ := Rows.saveEventShown sound.rows storable (Except.ok.inj stored)
  have checked : (!s.starts.isEmpty || after.linked) = true := shows.linked ▸ sound.checked
  have saved : call (.saveEvent event) s = (.ok (), { s with rows := after }) := by
    have written : s.rows.call (.saveEvent event) = .ok ((), after) := by
      rw [Rows.call, shows.saved]
      rfl
    rw [call, written]
    simp only [checked, if_true]
  have now (id : EventId) : (call (.getEvent id) { s with rows := after }).1 = .ok (after.event? id) :=
    getEventShown checked id
  rw [saved]
  refine ⟨rfl, ⟨back, ?_, shows.outline, shows.tiers⟩, fun id other => ?_⟩
  · rw [now, shows.shown]
  · rw [now, getEventShown sound.checked, shows.others id other]

end Relational

theorem Event.tiersReplaced {event before back : Event}
    (tiers : back.tiers.Perm
      (event.settled.tiers ++ before.tiers.filter fun tier => tier.id ∉ event.tiers.map Tier.id)) :
    (∀ tier, tier ∈ back.tiers ↔ tier ∈ event.settled.tiers) ↔
      ∀ tier ∈ before.tiers, tier.id ∈ event.tiers.map Tier.id := by
  have shown (tier : Tier) : tier ∈ back.tiers ↔ tier ∈ event.settled.tiers ∨
      tier ∈ before.tiers ∧ tier.id ∉ event.tiers.map Tier.id := by
    rw [tiers.mem_iff, List.mem_append, List.mem_filter, decide_eq_true_iff]
  constructor
  · intro replaced tier mem
    by_contra left
    have own := (replaced tier).mp ((shown tier).mpr (.inr ⟨mem, left⟩))
    obtain ⟨new, inside, rfl⟩ := List.mem_map.mp own
    exact left (List.mem_map.mpr ⟨new, inside, rfl⟩)
  · intro named tier
    rw [shown]
    exact or_iff_left fun old => old.2 (named tier old.1)

/-- A stored event that is saved anew is shown with the fields of its new record, and no other event is touched.
In memory the record itself is shown, with its tiers. In tables its fields and tiers are shown in settled
form, and behind them stay the tiers that were shown before and have other numbers; so exactly the tiers of
the record are shown if it leaves none of them out, and else not. -/
theorem savedRecordShown (event before : Event) :
    (∀ s : Journal,
      (RecordStore.call (.getEvent event.id) s).1 = .ok (some before) →
      let after := (RecordStore.call (.saveEvent event) s).2
      (RecordStore.call (.saveEvent event) s).1 = .ok () ∧
        (RecordStore.call (.getEvent event.id) after).1 = .ok (some event) ∧
        ∀ id, id ≠ event.id →
          (RecordStore.call (.getEvent id) after).1 = (RecordStore.call (.getEvent id) s).1) ∧
    ∀ {τ : Type} [TotalColumn τ] (s : Relational τ), s.Reached → event.Storable →
      (RecordStore.call (.getEvent event.id) s).1 = .ok (some before) →
      let after := (RecordStore.call (.saveEvent event) s).2
      (RecordStore.call (.saveEvent event) s).1 = .ok () ∧
        (∃ back, (RecordStore.call (.getEvent event.id) after).1 = .ok (some back) ∧
          { back with tiers := [] } = event.outline ∧
          back.tiers.Perm
            (event.settled.tiers ++ before.tiers.filter fun tier => tier.id ∉ event.tiers.map Tier.id) ∧
          ((∀ tier, tier ∈ back.tiers ↔ tier ∈ event.settled.tiers) ↔
            ∀ tier ∈ before.tiers, tier.id ∈ event.tiers.map Tier.id)) ∧
        ∀ id, id ≠ event.id →
          (RecordStore.call (.getEvent id) after).1 = (RecordStore.call (.getEvent id) s).1 := by
  refine ⟨fun s stored => Journal.savedShown stored, ?_⟩
  intro τ _ s reached storable stored after
  obtain ⟨saved, ⟨back, shown, outline, tiers⟩, others⟩ := Relational.savedShown reached.sound storable stored
  exact ⟨saved, ⟨back, shown, outline, tiers, Event.tiersReplaced tiers⟩, others⟩

theorem savedRecordShownGala :
    let tier (n : Nat) (name : String) : Tier := .fresh (.whole n) (.text name) ⟨⟨false, 5, -1⟩, by decide⟩ 9
    let event (id : EventId) (name : String) (tiers : List Tier) : Event :=
      ⟨id, .text "host", .text name, .text "", .text "Hall", some ⟨3600000000, some 3600⟩, some ⟨0, some 0⟩,
        .upcoming, tiers⟩
    let old := event ⟨"gala", rfl⟩ "Gala" [tier 0 "Floor", tier 1 "Box"]
    let new := event ⟨"gala", rfl⟩ "Grand Gala" [tier 1 "Loge", tier 0 "Floor", tier 2 "Pit"]
    let inMemory : Journal := (Journal.call (.addEvent old) .empty).2
    let inTables : Relational Decimal.Finite := (Relational.call (.addEvent old) .empty).2
    (RecordStore.call (.getEvent new.id) inMemory).1 = .ok (some old) ∧
      (RecordStore.call (.getEvent new.id) (RecordStore.call (.saveEvent new) inMemory).2).1 = .ok (some new) ∧
      inTables.Reached ∧ new.Storable ∧
      (RecordStore.call (.getEvent new.id) inTables).1 = .ok (some old.settled) ∧
      ∃ back, (RecordStore.call (.getEvent new.id) (RecordStore.call (.saveEvent new) inTables).2).1 =
          .ok (some back) ∧
        { back with tiers := [] } = new.outline ∧ ∀ tier, tier ∈ back.tiers ↔ tier ∈ new.settled.tiers := by
  intro tier event old new inMemory inTables
  have stored : (RecordStore.call (.getEvent new.id) inMemory).1 = .ok (some old) := by decide +kernel
  have tiers : inTables.rows.tiersOf new.id = old.settled.tiers :=
    Rows.tiersOfNumbered (by decide +kernel) (by decide)
  have stored' : (RecordStore.call (.getEvent new.id) inTables).1 = .ok (some old.settled) := by
    refine (Relational.getEventShown (by decide +kernel) new.id).trans ?_
    rw [Rows.eventFound, tiers]
    decide +kernel
  have reached : inTables.Reached := .called _ .empty
  have small : (Money.mk ⟨false, 5, -1⟩ (by decide)).cents < amountLimit := by decide
  have fits (n : Nat) (name : String) (within : n < wordLimit) (named : (Raw.text name).isLegible = true) :
      (tier n name).Fits := ⟨⟨n, within, rfl⟩, named, small, 9, 0, by decide, rfl, rfl, by decide⟩
  have storable : new.Storable := by
    refine ⟨by decide, ⟨_, rfl, by decide⟩, ⟨_, rfl, by decide⟩, by decide, ?_⟩
    simp only [new, event, List.forall_mem_cons]
    exact ⟨fits 1 "Loge" (by decide) (by decide), fits 0 "Floor" (by decide) (by decide),
      fits 2 "Pit" (by decide) (by decide), List.forall_mem_nil _⟩
  obtain ⟨memory, _⟩ := savedRecordShown new old
  obtain ⟨_, tables⟩ := savedRecordShown new old.settled
  obtain ⟨_, ⟨back, shown, outline, _, replaced⟩, _⟩ := tables inTables reached storable stored'
  exact ⟨stored, (memory inMemory stored).2.1, reached, storable, stored', back, shown, outline,
    replaced.mpr (by decide)⟩

/- A gala with two tiers is saved with the first of them alone, and shows both. -/
theorem droppedTierStays :
    let tier (n : Nat) (name : String) : Tier := .fresh (.whole n) (.text name) ⟨⟨false, 0, 0⟩, by decide⟩ 9
    let event (tiers : List Tier) : Event :=
      ⟨⟨"gala", rfl⟩, .text "host", .text "Gala", .text "", .text "Hall", some ⟨0, some 0⟩, some ⟨0, some 0⟩,
        .upcoming, tiers⟩
    let old := event [tier 0 "Floor", tier 1 "Box"]
    let new := event [tier 0 "Floor"]
    let s : Relational Decimal.Finite := (Relational.call (.addEvent old) .empty).2
    let after := (RecordStore.call (.saveEvent new) s).2
    s.Reached ∧ (new.tiers.map Tier.id).Nodup ∧
      (RecordStore.call (.saveEvent new) s).1 = .ok () ∧
      (RecordStore.call (.getEvent new.id) after).1 = .ok (some old.settled) ∧
      ¬∀ kept, kept ∈ old.settled.tiers ↔ kept ∈ new.settled.tiers := by
  intro tier event old new s after
  have saved : (RecordStore.call (.saveEvent new) s).1 = .ok () := by decide +kernel
  have tiers : after.rows.tiersOf new.id = old.settled.tiers :=
    Rows.tiersOfNumbered (by decide +kernel) (by decide)
  have shown : (RecordStore.call (.getEvent new.id) after).1 = .ok (some old.settled) := by
    refine (Relational.getEventShown (by decide +kernel) new.id).trans ?_
    rw [Rows.eventFound, tiers]
    decide +kernel
  refine ⟨.called _ .empty, by decide, saved, shown, fun same => ?_⟩
  exact absurd ((same (tier 1 "Box").settled).mp (by decide)) (by decide)

end BoxOffice
