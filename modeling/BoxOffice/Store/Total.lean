import BoxOffice.Decimal.Scaled

/-! How a column keeps a running total. An exact column gives back what was added; a column of
binary numbers scales each amount that it is given, rounds each sum, and shows 15 digits. -/
namespace BoxOffice

class TotalColumn (τ : Type) where
  zero : τ
  add : τ → Decimal.Finite → τ
  read : τ → Decimal.Finite

instance : TotalColumn Decimal.Finite where
  zero := .zero
  add := .sum
  read total := total

def shownDigits : Nat := 15

def Binary64.shortened (b : Binary64) : Decimal.Finite :=
  let exact := b.toDecimal
  let excess := Decimal.digitCount exact.coefficient - shownDigits
  ⟨b.negative, Decimal.roundDiv exact.coefficient excess, exact.exponent + excess⟩

instance : TotalColumn Binary64 where
  zero := .zero
  add total amount := total.add (.scaled amount)
  read := Binary64.shortened

end BoxOffice
