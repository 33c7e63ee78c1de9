import Mathlib.Data.List.Nodup
import Mathlib.Logic.Function.Basic
import BoxOffice.Store.Table

/-! Entries of tables: keys that are all different, values that carry their keys, and tables whose keys are
put into another form. -/
namespace BoxOffice.Table
variable {κ α : Type} [DecidableEq κ] {t : Table κ α} {key : κ} {value : α}

theorem memOfGet (found : t.get? key = some value) : (key, value) ∈ t.entries := by
  obtain ⟨entries⟩ := t
  simp only [get?] at found ⊢
  induction entries with
  | nil => cases found
  | cons entry rest ih =>
    obtain ⟨k, old⟩ := entry
    by_cases same : k = key
    · subst same
      simp only [find?, if_true, Option.some.injEq] at found
      subst found
      exact List.mem_cons_self
    · simp only [find?, if_neg same] at found
      exact List.mem_cons_of_mem _ (ih found)

theorem getOfMem (once : (t.entries.map Prod.fst).Nodup) (mem : (key, value) ∈ t.entries) :
    t.get? key = some value := by
  obtain ⟨entries⟩ := t
  simp only [get?] at once mem ⊢
  induction entries with
  | nil => cases mem
  | cons entry rest ih =>
    obtain ⟨k, old⟩ := entry
    obtain ⟨absent, once⟩ := List.nodup_cons.mp once
    rcases List.mem_cons.mp mem with same | later
    · cases same
      simp [find?]
    · have other : k ≠ key := by
        rintro rfl
        exact absent (List.mem_map.mpr ⟨_, later, rfl⟩)
      simp only [find?, if_neg other]
      exact ih once later

theorem keyAbsent (absent : t.get? key = none) : key ∉ t.entries.map Prod.fst := by
  obtain ⟨entries⟩ := t
  simp only [get?] at absent ⊢
  induction entries with
  | nil => simp
  | cons entry rest ih =>
    obtain ⟨k, old⟩ := entry
    by_cases same : k = key
    · simp [find?, same] at absent
    · simp only [find?, if_neg same] at absent
      simp only [List.map_cons, List.mem_cons, not_or]
      exact ⟨Ne.symm same, ih absent⟩

theorem putNew (absent : t.get? key = none) (value : α) :
    (t.put key value).entries = t.entries ++ [(key, value)] := by
  obtain ⟨entries⟩ := t
  simp only [get?, put] at absent ⊢
  induction entries with
  | nil => rfl
  | cons entry rest ih =>
    obtain ⟨k, old⟩ := entry
    by_cases same : k = key
    · simp [find?, same] at absent
    · simp only [find?, if_neg same] at absent
      simp [replace, same, ih absent]

theorem putNewValues (absent : t.get? key = none) (value : α) :
    (t.put key value).values = t.values ++ [value] := by
  simp [values, putNew absent]

theorem putNewOnce (absent : t.get? key = none) (once : (t.entries.map Prod.fst).Nodup) (value : α) :
    ((t.put key value).entries.map Prod.fst).Nodup := by
  rw [putNew absent, List.map_append]
  refine List.Nodup.append once (List.nodup_singleton _) ?_
  simpa using keyAbsent absent

theorem replaceCommute {other : κ} (apart : key ≠ other) {entries : List (κ × α)}
    (known : (find? key entries).isSome = true ∨ (find? other entries).isSome = true) (value more : α) :
    replace other more (replace key value entries) = replace key value (replace other more entries) := by
  induction entries with
  | nil => simp [find?] at known
  | cons entry rest ih =>
    obtain ⟨k, old⟩ := entry
    by_cases here : k = key
    · subst here
      simp [replace, apart]
    · by_cases there : k = other
      · subst there
        simp [replace, here]
      · simp only [find?, here, there, if_false] at known
        simp [replace, here, there, ih known]

theorem replaceTwice (entries : List (κ × α)) (value last : α) :
    replace key last (replace key value entries) = replace key last entries := by
  induction entries with
  | nil => simp [replace]
  | cons entry rest ih =>
    obtain ⟨k, old⟩ := entry
    by_cases same : k = key
    · simp [replace, same]
    · simp [replace, same, ih]

theorem putTwice (t : Table κ α) (key : κ) (value last : α) : (t.put key value).put key last = t.put key last :=
  congrArg mk (replaceTwice t.entries value last)

theorem putCommute {other : κ} (apart : key ≠ other)
    (known : t.contains key = true ∨ t.contains other = true) (value more : α) :
    (t.put key value).put other more = (t.put other more).put key value :=
  congrArg mk (replaceCommute apart known value more)

section
variable {β : Type} {old : α}

theorem putKnown (stored : t.get? key = some old) (f : κ × α → β) (same : f (key, value) = f (key, old)) :
    (t.put key value).entries.map f = t.entries.map f := by
  obtain ⟨entries⟩ := t
  simp only [get?, put] at stored ⊢
  induction entries with
  | nil => cases stored
  | cons entry rest ih =>
    obtain ⟨k, first⟩ := entry
    by_cases here : k = key
    · subst here
      simp only [find?, if_true, Option.some.injEq] at stored
      simp [replace, stored, same]
    · simp only [find?, if_neg here] at stored
      simp [replace, here, ih stored]

theorem putStored (stored : t.get? key = some value) : t.put key value = t := by
  have same : (t.put key value).entries.map id = t.entries.map id := putKnown stored id rfl
  rw [List.map_id, List.map_id] at same
  exact congrArg mk same

theorem putKnownValues (stored : t.get? key = some old) (f : α → β) (same : f value = f old) :
    (t.put key value).values.map f = t.values.map f := by
  rw [values, values, List.map_map, List.map_map]
  exact putKnown stored (f ∘ Prod.snd) same

theorem valueMem (found : t.get? key = some value) : value ∈ t.values :=
  List.mem_map.mpr ⟨_, memOfGet found, rfl⟩

end

section
variable {μ : Type} [DecidableEq μ]

def mapKeys (f : κ → μ) (t : Table κ α) : Table μ α :=
  ⟨t.entries.map fun entry => (f entry.1, entry.2)⟩

theorem getMapKeys {f : κ → μ} (one : Function.Injective f) (t : Table κ α) (key : κ) :
    (t.mapKeys f).get? (f key) = t.get? key := by
  obtain ⟨entries⟩ := t
  simp only [mapKeys, get?]
  induction entries with
  | nil => rfl
  | cons entry rest ih =>
    by_cases here : entry.1 = key
    · simp [find?, here]
    · simp [find?, here, one.ne here, ih]

theorem putMapKeys {f : κ → μ} (one : Function.Injective f) (t : Table κ α) (key : κ) (value : α) :
    (t.put key value).mapKeys f = (t.mapKeys f).put (f key) value := by
  obtain ⟨entries⟩ := t
  simp only [mapKeys, put, mk.injEq]
  induction entries with
  | nil => rfl
  | cons entry rest ih =>
    by_cases here : entry.1 = key
    · simp [replace, here]
    · simp [replace, here, one.ne here, ih]

end

variable {name : α → κ}

theorem getNamed (named : ∀ entry ∈ t.entries, name entry.2 = entry.1) (key : κ) :
    t.get? key = t.values.find? fun value => name value == key := by
  obtain ⟨entries⟩ := t
  simp only [get?, values] at named ⊢
  induction entries with
  | nil => rfl
  | cons entry rest ih =>
    have own := named entry List.mem_cons_self
    have others := ih fun entry mem => named entry (List.mem_cons_of_mem _ mem)
    by_cases here : entry.1 = key <;> simp [find?, here, own, others]

theorem namedMem (named : ∀ entry ∈ t.entries, name entry.2 = entry.1)
    (once : (t.entries.map Prod.fst).Nodup) (mem : value ∈ t.values) : t.get? (name value) = some value := by
  obtain ⟨⟨key, value⟩, inside, rfl⟩ := List.mem_map.mp mem
  rw [named _ inside]
  exact getOfMem once inside

theorem containsMem : t.contains key = true ↔ key ∈ t.entries.map Prod.fst := by
  constructor
  · intro there
    obtain ⟨value, found⟩ := Option.isSome_iff_exists.mp there
    exact List.mem_map.mpr ⟨_, memOfGet found, rfl⟩
  · intro mem
    by_contra absent
    exact keyAbsent (by simpa [contains] using absent) mem

theorem countKeys (once : (t.entries.map Prod.fst).Nodup) (key : κ) :
    (t.entries.map Prod.fst).count key = if t.contains key then 1 else 0 := by
  simp only [List.Nodup.count once, containsMem]

theorem containsPut (t : Table κ α) (other key : κ) (value : α) (there : t.contains other = true) :
    (t.put key value).contains other = true := by
  unfold contains at there ⊢
  by_cases same : other = key
  · rw [same, getPutSame]
    rfl
  · rwa [getPutOther t same]

theorem putNamedValues (named : ∀ entry ∈ t.entries, name entry.2 = entry.1)
    (once : (t.entries.map Prod.fst).Nodup) (known : t.contains (name value) = true) :
    (t.put (name value) value).values =
      t.values.map fun old => if name old = name value then value else old := by
  obtain ⟨entries⟩ := t
  rw [containsMem] at known
  simp only [put, values] at named once known ⊢
  induction entries with
  | nil => cases known
  | cons entry rest ih =>
    obtain ⟨k, old⟩ := entry
    obtain rfl : name old = k := named (k, old) List.mem_cons_self
    have others : ∀ entry ∈ rest, name entry.2 = entry.1 :=
      fun entry mem => named entry (List.mem_cons_of_mem _ mem)
    obtain ⟨absent, once⟩ := List.nodup_cons.mp once
    by_cases here : name old = name value
    · have apart : ∀ other ∈ rest.map Prod.snd, name other ≠ name value := by
        intro other mem same
        obtain ⟨entry, inside, rfl⟩ := List.mem_map.mp mem
        exact absent (List.mem_map.mpr ⟨entry, inside, by rw [← others entry inside, same, here]⟩)
      have kept : (rest.map Prod.snd).map (fun old => if name old = name value then value else old) =
          rest.map Prod.snd := by
        conv_rhs => rw [← List.map_id (rest.map Prod.snd)]
        exact List.map_congr_left fun other mem => if_neg (apart other mem)
      simp only [replace, here, if_true, List.map_cons, kept]
    · have inside := (List.mem_cons.mp known).resolve_left (Ne.symm here)
      simp only [replace, here, if_false, List.map_cons, ih others once inside]

theorem putKnownEntries (named : ∀ entry ∈ t.entries, name entry.2 = entry.1) :
    ∀ entry ∈ (t.put (name value) value).entries, name entry.2 = entry.1 := by
  obtain ⟨entries⟩ := t
  simp only [put] at named ⊢
  induction entries with
  | nil => simp [replace]
  | cons entry rest ih =>
    have others := ih fun entry mem => named entry (List.mem_cons_of_mem _ mem)
    have own := named entry List.mem_cons_self
    by_cases here : entry.1 = name value
    · simp only [replace, here, if_true, List.forall_mem_cons, true_and]
      exact fun entry mem => named entry (List.mem_cons_of_mem _ mem)
    · simp only [replace, here, if_false, List.forall_mem_cons]
      exact ⟨own, others⟩

theorem putOnce (once : (t.entries.map Prod.fst).Nodup) (key : κ) (value : α) :
    ((t.put key value).entries.map Prod.fst).Nodup := by
  cases stored : t.get? key with
  | none => exact putNewOnce stored once value
  | some old =>
    have kept : (t.put key value).entries.map Prod.fst = t.entries.map Prod.fst :=
      putKnown stored Prod.fst rfl
    rwa [kept]

end BoxOffice.Table
