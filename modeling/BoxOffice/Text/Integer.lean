import BoxOffice.Text.Blank
import BoxOffice.Text.Digit

/-! Whole numbers as they are written in a configuration: white space around, a sign, digits of any
script, and single underscores between digits. A number has a greatest count of digits. -/
namespace BoxOffice.Text

inductive IntegerFault
  | malformed
  | tooLong (digits : Nat)
  deriving DecidableEq, Repr

def mostDigits : Nat := 4300

/- Digits of a number; an underscore stands only between two of them. -/
def digitGroups : List Char → Option (List Nat)
  | [] => none
  | [c] => (digitValue? c).map fun d => [d]
  | c :: '_' :: rest => do
    let d ← digitValue? c
    let ds ← digitGroups rest
    return d :: ds
  | c :: rest => do
    let d ← digitValue? c
    let ds ← digitGroups rest
    return d :: ds

def startsNumber (c : Char) : Bool :=
  c == '_' || (digitValue? c).isSome

def natural (text : List Char) : Except IntegerFault Nat :=
  match digitGroups (text.takeWhile startsNumber) with
  | none => .error .malformed
  | some digits =>
    if mostDigits < digits.length then .error (.tooLong digits.length)
    else if text.all startsNumber then .ok (numberOf digits)
    else .error .malformed

def integer (text : String) : Except IntegerFault Int :=
  match trim isSpace text.toList with
  | '-' :: rest => (natural rest).map fun n => -(n : Int)
  | '+' :: rest => (natural rest).map fun n => (n : Int)
  | rest => (natural rest).map fun n => (n : Int)

end BoxOffice.Text
