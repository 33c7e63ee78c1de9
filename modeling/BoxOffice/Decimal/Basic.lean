import BoxOffice.Power

/-! Decimal numbers that keep their exponent: `1.50` and `1.5` are one value in two forms. Sums are
exact up to 28 significant digits and then rounded once, a half going to the even neighbour. Beside
the finite numbers stand the infinities and the results that are no number. -/
namespace BoxOffice

/- The value is coefficient · 10 ^ exponent with the sign; zero has a sign too. -/
structure Decimal.Finite where
  negative : Bool
  coefficient : Nat
  exponent : Int
  deriving DecidableEq, Repr

inductive Decimal
  | finite (n : Decimal.Finite)
  | infinite (negative : Bool)
  | nan (negative : Bool) (signaling : Bool) (payload : Nat)
  deriving DecidableEq, Repr

inductive Decimal.Fault
  | undefined
  | overflow
  deriving DecidableEq, Repr

namespace Decimal

def precision : Nat := 28

def topExponent : Int := 999999

def leastExponent : Int := -999999 - 27

def digitCount (n : Nat) : Nat :=
  (Nat.toDigits 10 n).length

theorem digitCountLe {n k : Nat} (h : 0 < k) : digitCount n ≤ k ↔ n < 10 ^ k :=
  Nat.length_toDigits_le_iff (by decide) h

theorem digitCountPos (n : Nat) : 0 < digitCount n :=
  Nat.length_toDigits_pos

def roundDiv (n places : Nat) : Nat :=
  if digitCount n < places then 0
  else
    let unit := 10 ^ places
    let below := n / unit
    let twice := 2 * (n % unit)
    if twice < unit then below
    else if unit < twice then below + 1
    else below + below % 2

namespace Finite

def ofInt (n : Int) : Finite :=
  ⟨decide (n < 0), n.natAbs, 0⟩

def zero : Finite := ⟨false, 0, 0⟩

def isZero (n : Finite) : Bool :=
  n.coefficient == 0

def isNegative (n : Finite) : Bool :=
  n.negative && !n.isZero

def adjusted (n : Finite) : Int :=
  n.exponent + digitCount n.coefficient - 1

def magnitude (n : Finite) (unit : Int) : Nat :=
  if n.isZero then 0 else n.coefficient * 10 ^ (n.exponent - unit).toNat

def count (n : Finite) (unit : Int) : Int :=
  if n.negative then -(n.magnitude unit : Int) else n.magnitude unit

def signum (n : Finite) : Int :=
  if n.isZero then 0 else if n.negative then -1 else 1

def compareSize (a b : Finite) : Ordering :=
  (compare a.adjusted b.adjusted).then
    (let unit := min a.exponent b.exponent
     compare (a.magnitude unit) (b.magnitude unit))

def order (a b : Finite) : Ordering :=
  (compare a.signum b.signum).then <|
    if a.isZero then .eq
    else if a.negative then compareSize b a
    else compareSize a b

def negate (n : Finite) : Finite :=
  { n with negative := !n.negative }

def rounded? (n : Finite) : Option Finite :=
  if n.isZero then
    some { n with exponent := max leastExponent (min n.exponent topExponent) }
  else
    let unit := max (n.exponent + digitCount n.coefficient - precision) leastExponent
    if topExponent < unit + (precision - 1) then none
    else if n.exponent < unit then
      let kept := roundDiv n.coefficient (unit - n.exponent).toNat
      if kept < 10 ^ precision then some ⟨n.negative, kept, unit⟩
      else if topExponent < unit + precision then none
      else some ⟨n.negative, kept / 10, unit + 1⟩
    else some n

/- A summand beside one of higher exponent. When all of it lies below the digits that a sum keeps,
one unit there rounds the same way. -/
def beside (low high : Finite) : Finite :=
  let unit := high.exponent - 1 + min 0 (digitCount high.coefficient - (precision + 1) : Int)
  if !high.isZero && low.adjusted < unit then
    ⟨low.negative, if low.isZero then 0 else 1, unit⟩
  else low

def join (high low : Finite) : Finite :=
  let low := low.beside high
  let total := high.count low.exponent + low.count low.exponent
  ⟨if total = 0 then high.negative && low.negative else decide (total < 0), total.natAbs,
    low.exponent⟩

def sum (a b : Finite) : Finite :=
  if a.exponent < b.exponent then join b a else join a b

def add? (a b : Finite) : Option Finite :=
  (sum a b).rounded?

def cents? (n : Finite) : Option Nat :=
  let shift := n.exponent + 2
  if n.isZero then some 0
  else if (precision : Int) < digitCount n.coefficient + shift then none
  else if 0 ≤ shift then some (n.coefficient * 10 ^ shift.toNat)
  else
    let kept := roundDiv n.coefficient (-shift).toNat
    if kept < 10 ^ precision then some kept else none

def ofCents (negative : Bool) (cents : Nat) : Finite :=
  ⟨negative, cents, -2⟩

theorem orderRefl (n : Finite) : n.order n = .eq := by
  have size : n.compareSize n = .eq := by simp [compareSize]
  simp only [order, size, Std.ReflCmp.compare_self, Ordering.then]
  split <;> simp

theorem centsInRange {n : Finite} {cents : Nat} (h : n.cents? = some cents) :
    cents < 10 ^ precision := by
  simp only [cents?] at h
  split at h
  · cases h; decide
  split at h
  · cases h
  split at h
  · rename_i many up
    cases h
    have digits : digitCount n.coefficient ≤ precision - (n.exponent + 2).toNat := by
      omega
    have room : 0 < precision - (n.exponent + 2).toNat := by
      have := digitCountPos n.coefficient
      omega
    have bound := (digitCountLe room).1 digits
    calc
      n.coefficient * 10 ^ (n.exponent + 2).toNat
          < 10 ^ (precision - (n.exponent + 2).toNat) * 10 ^ (n.exponent + 2).toNat :=
        Nat.mul_lt_mul_of_pos_right bound (Nat.pow_pos (by decide))
      _ = 10 ^ precision := by
        rw [← Nat.pow_add]
        congr 1
        omega
  · split at h
    · cases h; assumption
    · cases h

end Finite

def ofInt (n : Int) : Decimal :=
  .finite (.ofInt n)

def zero : Decimal := .finite .zero

/- The first operand that is no number decides; one that signals is refused. -/
def settle (operands : List Decimal) : Except Fault (Option Decimal) :=
  if operands.any (fun | .nan _ signaling _ => signaling | _ => false) then .error .undefined
  else .ok <| operands.findSome? fun
    | .nan negative _ payload => some (.nan negative false (payload % 10 ^ precision))
    | _ => none

def add (a b : Decimal) : Except Fault Decimal := do
  if let some result ← settle [a, b] then
    return result
  match a, b with
  | .finite a, .finite b =>
    match a.add? b with
    | some n => .ok (.finite n)
    | none => .error .overflow
  | .infinite a, .infinite b => if a = b then .ok (.infinite a) else .error .undefined
  | .infinite a, _ => .ok (.infinite a)
  | _, b => .ok b

def negate : Decimal → Decimal
  | .finite n => .finite n.negate
  | .infinite negative => .infinite (!negative)
  | .nan negative signaling payload => .nan negative signaling payload

def sub (a b : Decimal) : Except Fault Decimal :=
  add a b.negate

def order (a b : Decimal) : Except Fault Ordering :=
  match a, b with
  | .nan .., _ | _, .nan .. => .error .undefined
  | .finite a, .finite b => .ok (a.order b)
  | .infinite a, .infinite b => .ok (if a = b then .eq else if a then .lt else .gt)
  | .infinite a, .finite _ => .ok (if a then .lt else .gt)
  | .finite _, .infinite b => .ok (if b then .gt else .lt)

end Decimal
end BoxOffice
