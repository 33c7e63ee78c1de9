import BoxOffice.Decimal.Basic
import BoxOffice.Text.Blank
import BoxOffice.Text.Digit

/-! Reading a decimal from text: blanks around it, underscores anywhere, digits of any script, an
optional sign, point and exponent, or one of the words for what is not finite. -/
namespace BoxOffice.Decimal
open Text (digitValue? numberOf isBlank trim)

def widestExponent : Int := 999999999999999999

def deepestExponent : Int := -1999999999999999997

def spanDigits : List Char → List Nat × List Char
  | [] => ([], [])
  | c :: rest =>
    match digitValue? c with
    | some d => (d :: (spanDigits rest).1, (spanDigits rest).2)
    | none => ([], c :: rest)

def readSign : List Char → Bool × List Char
  | '-' :: rest => (true, rest)
  | '+' :: rest => (false, rest)
  | rest => (false, rest)

def readDigits? (text : List Char) : Option (List Nat) :=
  match spanDigits text with
  | (digits, []) => some digits
  | _ => none

def readExponent? : List Char → Option Int
  | [] => some 0
  | c :: rest =>
    if c = 'e' ∨ c = 'E' then
      let (negative, rest) := readSign rest
      match readDigits? rest with
      | none | some [] => none
      | some digits => some (if negative then -(numberOf digits : Int) else numberOf digits)
    else none

def readFraction : List Char → List Nat × List Char
  | '.' :: rest => spanDigits rest
  | rest => ([], rest)

def Finite.inReach (n : Finite) : Bool :=
  deepestExponent ≤ n.exponent &&
    (if n.isZero then n.exponent ≤ widestExponent else n.adjusted ≤ widestExponent)

def readFinite? (negative : Bool) (text : List Char) : Option Decimal :=
  let (whole, rest) := spanDigits text
  let (fraction, rest) := readFraction rest
  if whole.isEmpty && fraction.isEmpty then none
  else do
    let exponent ← readExponent? rest
    let n : Finite := ⟨negative, numberOf (whole ++ fraction), exponent - fraction.length⟩
    if n.inReach then some (.finite n) else none

def afterWord? : List Char → List Char → Option (List Char)
  | [], rest => some rest
  | w :: word, c :: rest => if c.toLower = w then afterWord? word rest else none
  | _ :: _, [] => none

def readNan? (negative signaling : Bool) (payload : List Char) : Option Decimal :=
  (readDigits? payload).map fun digits => .nan negative signaling (numberOf digits)

def readInfinite? (negative : Bool) (rest : List Char) : Option Decimal :=
  if rest = [] ∨ afterWord? "inity".toList rest = some [] then some (.infinite negative) else none

def readUnsigned? (negative : Bool) (text : List Char) : Option Decimal :=
  match afterWord? "nan".toList text with
  | some payload => readNan? negative false payload
  | none =>
    match afterWord? "snan".toList text with
    | some payload => readNan? negative true payload
    | none =>
      match afterWord? "inf".toList text with
      | some rest => readInfinite? negative rest
      | none => readFinite? negative text

def readChars? (text : List Char) : Option Decimal :=
  let (negative, rest) := readSign ((trim isBlank text).filter (· ≠ '_'))
  readUnsigned? negative rest

def read? (text : String) : Option Decimal :=
  readChars? text.toList

end BoxOffice.Decimal
