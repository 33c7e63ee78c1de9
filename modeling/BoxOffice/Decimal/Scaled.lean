import BoxOffice.Decimal.Binary

/-! Binary numbers from decimals by scaling, which is not always nearest. The digits at the front
that fit a whole number of 63 bits are kept, and the power of ten is brought in with 64 significant
bits, by repeated squaring. -/
namespace BoxOffice

structure Extended where
  significand : Nat
  exponent : Int
  deriving DecidableEq, Repr

namespace Extended

def precision : Nat := 64

def leastExponent : Int := -10000

def ofQuotient (n d : Nat) : Extended :=
  let (significand, exponent) := Binary64.rounded precision leastExponent n d
  ⟨significand, exponent⟩

def ofNat (n : Nat) : Extended :=
  ofQuotient n 1

def quotient (x : Extended) : Nat × Nat :=
  (x.significand * 2 ^ x.exponent.toNat, 2 ^ (-x.exponent).toNat)

def times (x y : Extended) : Extended :=
  ofQuotient (x.quotient.1 * y.quotient.1) (x.quotient.2 * y.quotient.2)

def quotientBy (x y : Extended) : Extended :=
  ofQuotient (x.quotient.1 * y.quotient.2) (x.quotient.2 * y.quotient.1)

def power (base result : Extended) (e : Nat) : Extended :=
  if h : e = 0 then result
  else power (base.times base) (if e % 2 = 1 then result.times base else result) (e / 2)
termination_by e

def powerOfTen (e : Nat) : Extended :=
  power (ofNat 10) (ofNat 1) e

def toBinary (negative : Bool) (x : Extended) : Binary64 :=
  .ofQuotient negative x.quotient.1 x.quotient.2

end Extended

namespace Binary64

def fullSignificand : Nat := 922337203685477579

def kept (coefficient : Nat) (exponent : Int) : Nat × Int :=
  if coefficient / 10 < fullSignificand then (coefficient, exponent)
  else kept (coefficient / 10) (exponent + 1)
termination_by coefficient
decreasing_by
  have : fullSignificand = 922337203685477579 := rfl
  omega

def raised (significand : Nat) : Nat → Nat × Nat
  | 0 => (significand, 0)
  | e + 1 =>
    if fullSignificand < significand then (significand, e + 1) else raised (significand * 10) e

def lowered (significand : Nat) : Nat → Nat × Nat
  | 0 => (significand, 0)
  | e + 1 =>
    if significand % 10 = 0 then lowered (significand / 10) e else (significand, e + 1)

def onePower : Nat := 307

def beyond : Nat := 342

def dividedBy (b : Binary64) (power : Nat) : Binary64 :=
  let unit := ofQuotient false (10 ^ power) 1
  ofQuotient b.negative (b.significand * 2 ^ b.exponent.toNat)
    (unit.significand * 2 ^ unit.exponent.toNat * 2 ^ (-b.exponent).toNat)

def multipliedBy (b : Binary64) (power : Nat) : Binary64 :=
  let unit := ofQuotient false (10 ^ power) 1
  b.times (unit.significand * 2 ^ unit.exponent.toNat)

def timesPower (negative : Bool) (significand e : Nat) : Binary64 :=
  ((Extended.ofNat significand).times (.powerOfTen e)).toBinary negative

def overPower (negative : Bool) (significand e : Nat) : Binary64 :=
  ((Extended.ofNat significand).quotientBy (.powerOfTen e)).toBinary negative

def scaledUp (negative : Bool) (significand e : Nat) : Binary64 :=
  if e ≤ onePower then timesPower negative significand e
  else
    (timesPower negative significand (min e beyond - (onePower + 1))).multipliedBy (onePower + 1)

def scaledDown (negative : Bool) (significand e : Nat) : Binary64 :=
  if e ≤ onePower then overPower negative significand e
  else if e < beyond then
    (overPower negative significand (e - (onePower + 1))).dividedBy (onePower + 1)
  else ⟨negative, 0, 0⟩

def signed (negative : Bool) (n : Nat) : Binary64 :=
  ofQuotient negative n 1

def scaled (n : Decimal.Finite) : Binary64 :=
  let (significand, exponent) := kept n.coefficient n.exponent
  if significand = 0 then ⟨n.negative, 0, 0⟩
  else if 0 ≤ exponent then
    let (significand, e) := raised significand exponent.toNat
    if e = 0 then signed n.negative significand else scaledUp n.negative significand e
  else
    let (significand, e) := lowered significand (-exponent).toNat
    if e = 0 then signed n.negative significand else scaledDown n.negative significand e

end Binary64
end BoxOffice
