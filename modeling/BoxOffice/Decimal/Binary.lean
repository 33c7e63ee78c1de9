import BoxOffice.Decimal.Basic

/-! Numbers of binary floating point with 53 significant bits. Every result is the nearest such
number, and a half goes to the even neighbour. -/
namespace BoxOffice

/- The value is significand · 2 ^ exponent with the sign. A number has its full count of bits, or
the least exponent; zero has the exponent zero, and a sign too. -/
structure Binary64 where
  negative : Bool
  significand : Nat
  exponent : Int
  deriving DecidableEq, Repr

namespace Binary64

def precision : Nat := 53

def leastExponent : Int := -1074

def topExponent : Int := 971

def zero : Binary64 := ⟨false, 0, 0⟩

def isZero (b : Binary64) : Bool :=
  b.significand == 0

def nearest (n d : Nat) : Nat :=
  let below := n / d
  let twice := 2 * (n % d)
  if twice < d then below
  else if d < twice then below + 1
  else below + below % 2

def roughExponent (bits n d : Nat) : Int :=
  (n.log2 : Int) - d.log2 - bits

def inUnits (n d : Nat) (unit : Int) : Nat × Nat :=
  (n * 2 ^ (-unit).toNat, d * 2 ^ unit.toNat)

def rounded (bits : Nat) (least : Int) (n d : Nat) : Nat × Int :=
  let rough := roughExponent bits n d
  let (top, bottom) := inUnits n d rough
  let fine := if bottom * 2 ^ bits ≤ top then rough + 1 else rough
  let exponent := max least fine
  let (top, bottom) := inUnits n d exponent
  let significand := nearest top bottom
  if significand = 2 ^ bits then (2 ^ (bits - 1), exponent + 1) else (significand, exponent)

def ofQuotient (negative : Bool) (n d : Nat) : Binary64 :=
  let (significand, exponent) := rounded precision leastExponent n d
  if significand = 0 then ⟨negative, 0, 0⟩ else ⟨negative, significand, exponent⟩

def reach : Nat := 400

def ofDecimal (n : Decimal.Finite) : Binary64 :=
  if n.isZero || n.adjusted < -reach then ⟨n.negative, 0, 0⟩
  else if reach < n.adjusted then ofQuotient n.negative (10 ^ reach) 1
  else ofQuotient n.negative (n.coefficient * 10 ^ n.exponent.toNat) (10 ^ (-n.exponent).toNat)

def ofInt (n : Int) : Binary64 :=
  ofDecimal (.ofInt n)

def count (b : Binary64) (unit : Int) : Int :=
  let magnitude := b.significand * 2 ^ (b.exponent - unit).toNat
  if b.negative then -(magnitude : Int) else magnitude

def add (a b : Binary64) : Binary64 :=
  let unit := min a.exponent b.exponent
  let total := a.count unit + b.count unit
  if total = 0 then ⟨a.negative && b.negative, 0, 0⟩
  else ofQuotient (decide (total < 0)) (total.natAbs * 2 ^ unit.toNat) (2 ^ (-unit).toNat)

def negate (b : Binary64) : Binary64 :=
  { b with negative := !b.negative }

def times (b : Binary64) (factor : Nat) : Binary64 :=
  ofQuotient b.negative (b.significand * factor * 2 ^ b.exponent.toNat) (2 ^ (-b.exponent).toNat)

def toDecimal (b : Binary64) : Decimal.Finite :=
  if 0 ≤ b.exponent then ⟨b.negative, b.significand * 2 ^ b.exponent.toNat, 0⟩
  else
    let shared := (Nat.gcd b.significand (2 ^ (-b.exponent).toNat)).log2
    let places := (-b.exponent).toNat - shared
    ⟨b.negative, b.significand / 2 ^ shared * 5 ^ places, -places⟩

def truncated (b : Binary64) : Int :=
  let size := b.significand / 2 ^ (-b.exponent).toNat * 2 ^ b.exponent.toNat
  if b.negative then -(size : Int) else size

def fraction (b : Binary64) : Binary64 :=
  let whole := 2 ^ (-b.exponent).toNat
  ofQuotient b.negative (b.significand % whole) whole

def whole? (b : Binary64) : Option Int :=
  if b.significand % 2 ^ (-b.exponent).toNat = 0 then some b.truncated else none

def roundedFrom (start : Int) (b : Binary64) : Int :=
  let unit : Nat := 2 ^ (-b.exponent).toNat
  let total := start * unit + b.count (min 0 b.exponent)
  let below := total.fdiv unit
  let twice := 2 * (total - below * unit)
  if twice < unit then below
  else if unit < twice then below + 1
  else below + below % 2

end Binary64
end BoxOffice
