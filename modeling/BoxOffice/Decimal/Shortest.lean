import BoxOffice.Decimal.Binary

/-! The shortest decimal that reads back as a binary number. The decimals that do so fill an
interval around the number, which ends halfway to its neighbours; both ends belong to it if the
significand is even. -/
namespace BoxOffice.Binary64

def mostDigits : Nat := 17

/- Quarters of a unit of the significand down to the lower end of the interval: below the least
significand of an exponent the numbers lie twice as close. -/
def belowQuarters (b : Binary64) : Nat :=
  if b.significand = 2 ^ (precision - 1) ∧ leastExponent < b.exponent then 1 else 2

def reads (b : Binary64) (size : Nat) (unit : Int) : Bool :=
  let quarter := b.exponent - 2
  let given := size * 10 ^ unit.toNat * 2 ^ (-quarter).toNat
  let scale := 10 ^ (-unit).toNat * 2 ^ quarter.toNat
  let low := (4 * b.significand - b.belowQuarters) * scale
  let high := (4 * b.significand + 2) * scale
  if b.significand % 2 = 0 then low ≤ given && given ≤ high else low < given && given < high

/- The size as a decimal of so many digits; rounding up may have brought one more, which is then a
one before zeros. -/
def ofSize (negative : Bool) (digits size : Nat) (unit : Int) : Decimal.Finite :=
  if size = 10 ^ digits then ⟨negative, 1, unit + digits⟩ else ⟨negative, size, unit⟩

def ofDigits? (b : Binary64) (digits : Nat) : Option Decimal.Finite :=
  let exact := b.toDecimal
  let unit := exact.adjusted + 1 - digits
  let top := exact.coefficient * 10 ^ (exact.exponent - unit).toNat
  let bottom := 10 ^ (unit - exact.exponent).toNat
  let below := top / bottom
  let nearer := nearest top bottom
  let other := if nearer = below then below + 1 else below
  if b.reads nearer unit then some (ofSize b.negative digits nearer unit)
  else if b.reads other unit then some (ofSize b.negative digits other unit)
  else none

def shortest (b : Binary64) : Decimal.Finite :=
  if b.isZero then ⟨b.negative, 0, 0⟩
  else
    ((List.range mostDigits).findSome? fun digits => b.ofDigits? (digits + 1)).getD b.toDecimal

end BoxOffice.Binary64
