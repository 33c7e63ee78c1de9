import BoxOffice.Decimal.Reading
import BoxOffice.Decimal.Shortest
import BoxOffice.Decimal.Writing

/-! Floating-point numbers with the infinities and the result that is no number, and their text: the
fewest digits that read back, with a point at least one of them behind it, or with an exponent
where the number is less than a ten-thousandth or has more than 16 digits before the point. -/
namespace BoxOffice

inductive Floating
  | finite (value : Binary64)
  | infinite (negative : Bool)
  | nan
  deriving DecidableEq, Repr

namespace Floating

def ofBinary (b : Binary64) : Floating :=
  if Binary64.topExponent < b.exponent then infinite b.negative else finite b

def ofDecimal : Decimal → Floating
  | .finite n => ofBinary (.ofDecimal n)
  | .infinite negative => infinite negative
  | .nan .. => nan

def read? (written : String) : Option Floating :=
  (Decimal.read? written).map ofDecimal

def toDecimal : Floating → Decimal
  | finite b => .finite b.toDecimal
  | infinite negative => .infinite negative
  | nan => .nan false false 0

def isZero : Floating → Bool
  | finite b => b.isZero
  | infinite _ | nan => false

def add : Floating → Floating → Floating
  | finite a, finite b => ofBinary (a.add b)
  | infinite a, infinite b => if a = b then infinite a else nan
  | infinite a, finite _ => infinite a
  | finite _, infinite b => infinite b
  | nan, _ | _, nan => nan

def negate : Floating → Floating
  | finite b => finite b.negate
  | infinite negative => infinite !negative
  | nan => nan

def whole? : Floating → Option Int
  | finite b => b.whole?
  | infinite _ | nan => none

def leastPlace : Int := -3

def mostPlaces : Int := 16

def exponentChars (e : Int) : List Char :=
  let digits := Decimal.digitText e.natAbs
  'e' :: (if e < 0 then '-' else '+') :: (if digits.length < 2 then '0' :: digits else digits)

def finiteChars (b : Binary64) : List Char :=
  let short := b.shortest
  let digits := Decimal.digitText short.coefficient
  let place := short.exponent + digits.length
  Decimal.signText b.negative ++
    if place < leastPlace ∨ mostPlaces < place then
      Decimal.pointed digits 1 ++ exponentChars (place - 1)
    else
      Decimal.pointed digits place ++ if digits.length ≤ place then ['.', '0'] else []

def chars : Floating → List Char
  | finite b => finiteChars b
  | infinite negative => Decimal.signText negative ++ "inf".toList
  | nan => "nan".toList

def text (f : Floating) : String :=
  String.ofList f.chars

end Floating
end BoxOffice
