import BoxOffice.Failure

/-! Counts as they are given: whole numbers, or floating ones. They are compared by their exact
values. Whole numbers are counted without limits; beside a floating one each becomes floating. -/
namespace BoxOffice

def word (n : Int) : Except Failure Int :=
  let limit : Nat := 2 ^ (63 : Nat)
  if -limit ≤ n ∧ n < limit then .ok n else .error .integerOverflow

inductive Quantity
  | whole (n : Int)
  | floating (value : Floating)
  deriving DecidableEq, Repr

namespace Quantity

def ofRaw? : Raw → Option Quantity
  | .whole n => some (whole n)
  | .truth value => some (whole (if value then 1 else 0))
  | .fraction value => some (floating value)
  | .nothing | .text _ | .list _ | .record _ => none

def ofRaw (given : Raw) : Except Failure Quantity :=
  match ofRaw? given with
  | some quantity => .ok quantity
  | none => .error .notANumber

def toRaw : Quantity → Raw
  | whole n => .whole n
  | floating value => .fraction value

def toDecimal : Quantity → Decimal
  | whole n => .ofInt n
  | floating value => value.toDecimal

def order? : Quantity → Quantity → Option Ordering
  | whole a, whole b => some (compare a b)
  | a, b => (a.toDecimal.order b.toDecimal).toOption

def isBelow (a b : Quantity) : Bool :=
  a.order? b == some .lt

def isAtMost (a b : Quantity) : Bool :=
  a.isBelow b || a.order? b == some .eq

def toFloating : Quantity → Except Failure Floating
  | whole n =>
    match Floating.ofBinary (.ofInt n) with
    | .finite value => .ok (.finite value)
    | .infinite _ | .nan => .error .integerOverflow
  | floating value => .ok value

def negate : Quantity → Quantity
  | whole n => whole (-n)
  | floating value => floating value.negate

def plus : Quantity → Quantity → Except Failure Quantity
  | whole a, whole b => .ok (whole (a + b))
  | a, b => do return floating ((← a.toFloating).add (← b.toFloating))

def minus (a b : Quantity) : Except Failure Quantity :=
  a.plus b.negate

def wholePart : Quantity → Except Failure Int
  | whole n => .ok n
  | floating (.finite value) => .ok value.truncated
  | floating (.infinite _) => .error .integerOverflow
  | floating .nan => .error .noWholePart

theorem ofRawWhole (n : Int) : ofRaw (.whole n) = .ok (whole n) := rfl

theorem isBelowWhole (a b : Int) : (whole a).isBelow (whole b) = decide (a < b) := by
  simp only [isBelow, order?, compare, compareOfLessAndEq]
  split
  · simp_all
  · split <;> simp_all

theorem isAtMostWhole (a b : Int) : (whole a).isAtMost (whole b) = decide (a ≤ b) := by
  simp only [isAtMost, isBelowWhole, order?, compare, compareOfLessAndEq]
  by_cases below : a < b
  · simp [below, Int.le_of_lt below]
  · by_cases same : a = b
    · simp [same]
    · have above : ¬a ≤ b := by omega
      simp [below, same, above]

end Quantity

namespace Raw

def plus (a b : Raw) : Except Failure Raw := do
  return (← (← Quantity.ofRaw a).plus (← Quantity.ofRaw b)).toRaw

def minus (a b : Raw) : Except Failure Raw := do
  return (← (← Quantity.ofRaw a).minus (← Quantity.ofRaw b)).toRaw

def isBelow (a b : Raw) : Except Failure Bool := do
  return (← Quantity.ofRaw a).isBelow (← Quantity.ofRaw b)

def isAtMost (a b : Raw) : Except Failure Bool := do
  return (← Quantity.ofRaw a).isAtMost (← Quantity.ofRaw b)

def wholePart (given : Raw) : Except Failure Int := do
  (← Quantity.ofRaw given).wholePart

end Raw
end BoxOffice
