import BoxOffice.Decimal.Basic

/-! The text of a decimal. All digits of the coefficient are written. The exponent shows only where
it is positive or more than six zeros would follow the point; then one digit stands before the
point. -/
namespace BoxOffice.Decimal

def digitText (n : Nat) : List Char :=
  Nat.toDigits 10 n

def exponentText (e : Int) : List Char :=
  'E' :: (if e < 0 then '-' else '+') :: digitText e.natAbs

def pointed (digits : List Char) (place : Int) : List Char :=
  if place ≤ 0 then '0' :: '.' :: (List.replicate (-place).toNat '0' ++ digits)
  else if (digits.length : Int) ≤ place then
    digits ++ List.replicate (place - digits.length).toNat '0'
  else digits.take place.toNat ++ '.' :: digits.drop place.toNat

def signText (negative : Bool) : List Char :=
  if negative then ['-'] else []

def Finite.chars (n : Finite) : List Char :=
  let digits := digitText n.coefficient
  let place := n.exponent + digits.length
  if n.exponent ≤ 0 ∧ -6 < place then
    signText n.negative ++ pointed digits place
  else
    signText n.negative ++ pointed digits 1 ++ exponentText (place - 1)

def chars : Decimal → List Char
  | .finite n => n.chars
  | .infinite negative => signText negative ++ "Infinity".toList
  | .nan negative signaling payload =>
    signText negative ++ (if signaling then ['s'] else []) ++ "NaN".toList ++
      (if payload = 0 then [] else digitText payload)

def text (d : Decimal) : String :=
  String.ofList d.chars

def centsChars (negative : Bool) (cents : Nat) : List Char :=
  signText negative ++ digitText (cents / 100) ++
    '.' :: digitText (cents / 10 % 10) ++ digitText (cents % 10)

end BoxOffice.Decimal
