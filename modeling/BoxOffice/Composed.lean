import BoxOffice.Decimal.Reading
import BoxOffice.Quantity

/-! Decimals that are given in three parts: the sign, which is 0 or 1, a list of digits, and the
exponent or a letter for what is not finite. -/
namespace BoxOffice.Composed

def digit (given : Raw) (limit : Int) (fault : PartsFault) : Except Failure Int :=
  match given.number? with
  | none => .error (.notADecimal fault)
  | some n => do
    let n ← word n
    if 0 ≤ n ∧ n ≤ limit then return n
    throw (.notADecimal fault)

inductive Ending
  | infinite
  | nan (signaling : Bool)
  | exponent (exponent : Int)

def ending (given : Raw) : Except Failure Ending :=
  match given with
  | .text "F" => .ok .infinite
  | .text "n" => .ok (.nan false)
  | .text "N" => .ok (.nan true)
  | .text _ => .error (.notADecimal .word)
  | given =>
    match given.number? with
    | some exponent => (word exponent).map .exponent
    | none => .error (.notADecimal .exponent)

def digits : Raw → Except Failure (List Nat)
  | .list digits => digits.mapM fun given => (digit given 9 .digits).map Int.toNat
  | _ => .error (.notADecimal .digits)

def assembled (negative : Bool) (digits : List Nat) : Ending → Except Failure Decimal
  | .infinite => .ok (.infinite negative)
  | .nan signaling => .ok (.nan negative signaling (Text.numberOf digits))
  | .exponent exponent =>
    let n : Decimal.Finite := ⟨negative, Text.numberOf digits, exponent⟩
    if n.inReach then .ok (.finite n) else .error .undefinedAmount

def decimal : List Raw → Except Failure Decimal
  | [sign, coefficient, exponent] => do
    let sign ← digit sign 1 .sign
    let ending ← ending exponent
    assembled (sign = 1) (← digits coefficient) ending
  | _ => .error (.notADecimal .count)

end BoxOffice.Composed
