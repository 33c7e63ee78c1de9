import BoxOffice.Decimal.Reading
import BoxOffice.Decimal.Writing
import BoxOffice.Raw

/-! Amounts of money: not negative, whole hundredths, at most 28 digits in hundredths. An amount
keeps the form it was written in; two forms of one value are the same amount. -/
namespace BoxOffice

inductive MoneyFault
  | notAnAmount (shown : String)
  | negative
  | outOfRange
  | finerThanCent
  | incomparable
  deriving DecidableEq, Repr

def Money.fault? (n : Decimal.Finite) : Option MoneyFault :=
  if n.isNegative then some .negative
  else
    match n.cents? with
    | none => some .outOfRange
    | some cents =>
      if n.order (.ofCents n.negative cents) = .eq then none else some .finerThanCent

structure Money where
  amount : Decimal.Finite
  sound : Money.fault? amount = none
  deriving DecidableEq, Repr

namespace Money

def ofFinite (n : Decimal.Finite) : Except MoneyFault Money :=
  match h : fault? n with
  | none => .ok ⟨n, h⟩
  | some fault => .error fault

def ofDecimal : Decimal → Except MoneyFault Money
  | .finite n => ofFinite n
  | .infinite true => .error .negative
  | .infinite false => .error .outOfRange
  | .nan .. => .error .incomparable

def finite? : Option Decimal → Option Decimal.Finite
  | some (.finite n) => some n
  | _ => none

/- The number that a value names, if it names a finite one; a floating number names what its text
does. -/
def named? : Raw → Option Decimal.Finite
  | .whole n => some (.ofInt n)
  | .text value => finite? (Decimal.read? value)
  | .fraction value => finite? (Decimal.read? value.text)
  | _ => none

def ofRaw (value : Raw) : Except MoneyFault Money :=
  match named? value with
  | some n => ofFinite n
  | none => .error (.notAnAmount value.shown)

def cents (m : Money) : Nat :=
  m.amount.cents?.getD 0

def toDecimal (m : Money) : Decimal :=
  .finite m.amount

def add (a b : Money) : Except MoneyFault Money :=
  match a.amount.add? b.amount with
  | some n => ofFinite n
  | none => .error .outOfRange

def total (first : Money) : List Money → Except MoneyFault Money
  | [] => .ok first
  | next :: rest => do
    let sum ← first.add next
    sum.total rest

def totalOfRaw (first : Money) : List Raw → Except MoneyFault Money
  | [] => .ok first
  | next :: rest => do
    let sum ← first.add (← ofRaw next)
    sum.totalOfRaw rest

def same (a b : Money) : Bool :=
  a.amount.order b.amount == .eq

def isPositive (m : Money) : Bool :=
  m.amount.order .zero == .gt

def text (m : Money) : String :=
  String.ofList (Decimal.centsChars m.amount.negative m.cents)

theorem readOfCents {cents : Nat} (negative : Bool) (range : cents < 10 ^ Decimal.precision) :
    (Decimal.Finite.ofCents negative cents).cents? = some cents := by
  have digits := (Decimal.digitCountLe (by decide)).2 range
  have few : ¬(Decimal.precision : Int) < Decimal.digitCount cents := by omega
  by_cases none : cents = 0
  · simp [Decimal.Finite.cents?, Decimal.Finite.ofCents, Decimal.Finite.isZero, none]
  · simp [Decimal.Finite.cents?, Decimal.Finite.ofCents, Decimal.Finite.isZero, none, few]

theorem soundOfCents {negative : Bool} {cents : Nat} (range : cents < 10 ^ Decimal.precision)
    (sign : (Decimal.Finite.ofCents negative cents).isNegative = false) :
    fault? (.ofCents negative cents) = none := by
  have self : (Decimal.Finite.ofCents negative cents).order
      (.ofCents (Decimal.Finite.ofCents negative cents).negative cents) = .eq :=
    Decimal.Finite.orderRefl _
  simp [fault?, sign, readOfCents negative range, self]

theorem notNegative (m : Money) : m.amount.isNegative = false := by
  have sound := m.sound
  unfold fault? at sound
  split at sound
  · cases sound
  · simpa using ‹¬m.amount.isNegative = true›

theorem centsOfMoney (m : Money) : m.amount.cents? = some m.cents := by
  have sound := m.sound
  unfold fault? at sound
  split at sound
  · cases sound
  · unfold cents
    cases h : m.amount.cents? with
    | none => simp [h] at sound
    | some cents => rfl

theorem centsNotNegative (m : Money) :
    (Decimal.Finite.ofCents m.amount.negative m.cents).isNegative = false := by
  have sign := notNegative m
  have read := centsOfMoney m
  simp only [Decimal.Finite.isNegative, Decimal.Finite.isZero, Decimal.Finite.ofCents] at sign ⊢
  cases hs : m.amount.negative with
  | false => rfl
  | true =>
    have none : m.amount.isZero = true := by simpa [hs, Decimal.Finite.isZero] using sign
    simp only [Decimal.Finite.cents?, none] at read
    have : m.cents = 0 := by simpa using (Option.some.inj read).symm
    simp [this]

def hundredths (m : Money) : Money :=
  ⟨.ofCents m.amount.negative m.cents,
    soundOfCents (Decimal.Finite.centsInRange (centsOfMoney m)) (centsNotNegative m)⟩

end Money
end BoxOffice
