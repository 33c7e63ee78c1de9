/-! Tables that keep their keys in the order of first insertion. -/
namespace BoxOffice

structure Table (κ α : Type) where
  entries : List (κ × α)
  deriving DecidableEq, Repr

namespace Table
variable {κ α : Type} [DecidableEq κ]

def empty : Table κ α := ⟨[]⟩

instance : Inhabited (Table κ α) := ⟨empty⟩

def find? (key : κ) : List (κ × α) → Option α
  | [] => none
  | (k, value) :: rest => if k = key then some value else find? key rest

def replace (key : κ) (value : α) : List (κ × α) → List (κ × α)
  | [] => [(key, value)]
  | (k, old) :: rest => if k = key then (k, value) :: rest else (k, old) :: replace key value rest

def remove (key : κ) : List (κ × α) → List (κ × α)
  | [] => []
  | (k, old) :: rest => if k = key then rest else (k, old) :: remove key rest

def get? (t : Table κ α) (key : κ) : Option α :=
  find? key t.entries

def contains (t : Table κ α) (key : κ) : Bool :=
  (t.get? key).isSome

/- A new key goes to the end; a known one stays in its place. -/
def put (t : Table κ α) (key : κ) (value : α) : Table κ α :=
  ⟨replace key value t.entries⟩

def erase (t : Table κ α) (key : κ) : Table κ α :=
  ⟨remove key t.entries⟩

def restore (t : Table κ α) (key : κ) : Option α → Table κ α
  | some value => t.put key value
  | none => t.erase key

def values (t : Table κ α) : List α :=
  t.entries.map Prod.snd

theorem getEmpty (key : κ) : (empty : Table κ α).get? key = none := rfl

theorem findReplaceSame (key : κ) (value : α) (es : List (κ × α)) :
    find? key (replace key value es) = some value := by
  induction es with
  | nil => simp [replace, find?]
  | cons e rest ih =>
    obtain ⟨k, old⟩ := e
    by_cases h : k = key <;> simp [replace, find?, h, ih]

theorem findReplaceOther {key other : κ} (h : other ≠ key) (value : α) (es : List (κ × α)) :
    find? other (replace key value es) = find? other es := by
  induction es with
  | nil => simp [replace, find?, h.symm]
  | cons e rest ih =>
    obtain ⟨k, old⟩ := e
    by_cases hk : k = key
    · subst hk
      simp [replace, find?, h.symm]
    · simp [replace, find?, hk, ih]

theorem getPutSame (t : Table κ α) (key : κ) (value : α) :
    (t.put key value).get? key = some value :=
  findReplaceSame key value t.entries

theorem getPutOther (t : Table κ α) {key other : κ} (h : other ≠ key) (value : α) :
    (t.put key value).get? other = t.get? other :=
  findReplaceOther h value t.entries

theorem removeReplace {key : κ} {es : List (κ × α)} (h : find? key es = none) (value : α) :
    remove key (replace key value es) = es := by
  induction es with
  | nil => simp [replace, remove]
  | cons e rest ih =>
    obtain ⟨k, old⟩ := e
    by_cases hk : k = key
    · simp [find?, hk] at h
    · simp only [find?, hk, if_false] at h
      simp [replace, remove, hk, ih h]

theorem replaceReplace {key : κ} {es : List (κ × α)} {old : α} (h : find? key es = some old)
    (value : α) : replace key old (replace key value es) = es := by
  induction es with
  | nil => simp [find?] at h
  | cons e rest ih =>
    obtain ⟨k, first⟩ := e
    by_cases hk : k = key
    · simp only [find?, hk, if_true, Option.some.injEq] at h
      simp [replace, hk, h]
    · simp only [find?, hk, if_false] at h
      simp [replace, hk, ih h]

theorem restorePut (t : Table κ α) (key : κ) (value : α) :
    (t.put key value).restore key (t.get? key) = t := by
  obtain ⟨es⟩ := t
  cases h : find? key es with
  | none => simp [put, get?, restore, erase, h, removeReplace h]
  | some old => simp [put, get?, restore, h, replaceReplace h]

end Table
end BoxOffice
