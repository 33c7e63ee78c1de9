import BoxOffice.Raw

/-! What values go by. Values that are equal as numbers go by one label, so a book that is kept by
labels has one entry for them. Lists and records go by none, but they too can be compared. -/
namespace BoxOffice

namespace Raw

mutual

/- The form that equal values share: truth counts as one, its opposite as zero, a number without a
fraction is whole, and the fields of a record are in the order of their names. -/
def key : Raw → Raw
  | truth value => whole (if value then 1 else 0)
  | fraction value =>
    match value.whole? with
    | some n => whole n
    | none => fraction value
  | list items => list (itemKeys items)
  | record fields => record ((fieldKeys fields).mergeSort fun a b => decide (a.1 ≤ b.1))
  | value => value

def itemKeys : List Raw → List Raw
  | [] => []
  | item :: rest => item.key :: itemKeys rest

def fieldKeys : List (String × Raw) → List (String × Raw)
  | [] => []
  | (name, value) :: rest => (name, value.key) :: fieldKeys rest

end

def alike (a b : Raw) : Bool :=
  a.key == b.key

/- Whether values are equal; what is no number does not even equal itself. -/
def same (a b : Raw) : Bool :=
  a.alike b && a != fraction .nan

theorem alikeIffKey {a b : Raw} : a.alike b = true ↔ a.key = b.key := by
  simp [alike]

theorem sameIffAlike {a b : Raw} (number : a ≠ fraction .nan) : a.same b = a.alike b := by
  simp [same, number]

end Raw

inductive Label
  | nobody
  | named (name : String)
  | numbered (number : Int)
  | fraction (value : Floating)
  deriving DecidableEq, Repr

namespace Label

def ofRaw? (value : Raw) : Option Label :=
  match value.key with
  | .nothing => some nobody
  | .text name => some (named name)
  | .whole number => some (numbered number)
  | .fraction value => some (fraction value)
  | .truth _ | .list _ | .record _ => none

theorem ofText (name : String) : ofRaw? (.text name) = some (named name) := rfl

theorem alikeIffLabel {a b : Raw} {x y : Label} (ha : ofRaw? a = some x) (hb : ofRaw? b = some y) :
    a.alike b = true ↔ x = y := by
  rw [Raw.alikeIffKey]
  simp only [ofRaw?] at ha hb
  cases ka : a.key <;> cases kb : b.key <;> simp_all <;> subst ha <;> subst hb <;> simp

end Label
end BoxOffice
