import BoxOffice.Moment.Basic
import BoxOffice.Text.Bytes

/-! Reading a moment from text. A date is year, month and day, or year, week and day of the week,
with hyphens or without. One character of any kind parts it from the time, which has two digits each
for hours, minutes and seconds, with colons or without, and a fraction of a second. Then comes the
zone: the letter `Z`, or an offset that is written like a time. The text is read byte by byte and
ends with its last byte or with a zero; what stands between a time and its zone is passed over. -/
namespace BoxOffice

inductive MomentFault
  | malformed
  | offset (micros : Int)
  | year (year : Nat)
  | month
  | day
  | hour
  | minute
  | second
  deriving DecidableEq, Repr

namespace Moment

def isDigit (byte : Nat) : Bool :=
  '0'.toNat ≤ byte && byte ≤ '9'.toNat

def fixed? : Nat → Nat → List Nat → Option (Nat × List Nat)
  | 0, value, rest => some (value, rest)
  | width + 1, value, byte :: rest =>
    if isDigit byte then fixed? width (10 * value + (byte - '0'.toNat)) rest else none
  | _ + 1, _, [] => none

def hyphen : Nat := '-'.toNat

def colon : Nat := ':'.toNat

def weekLetter : Nat := 'W'.toNat

def byteAt (bytes : List Nat) (place : Nat) : Nat :=
  bytes.getD place 0

/- Where a week date without hyphens ends. An odd count of digits after the week begins with the
day of the week, and the others make up the time. -/
def compactWeekEnd (bytes : List Nat) : Nat :=
  let place := 7 + ((bytes.drop 7).takeWhile isDigit).length
  if place < 9 then place else if place % 2 = 0 then 7 else 8

def dateEnd (bytes : List Nat) : Nat :=
  if bytes.length = 7 then 7
  else if byteAt bytes 4 = hyphen then
    if byteAt bytes 5 ≠ weekLetter then 10
    else if byteAt bytes 8 ≠ hyphen ∨ isDigit (byteAt bytes 10) then 8
    else 10
  else if byteAt bytes 4 = weekLetter then compactWeekEnd bytes
  else 8

def firstWeekday (year : Nat) : Nat :=
  daysBeforeYear year % 7

def weeksOf (year : Nat) : Nat :=
  if firstWeekday year = 3 ∨ firstWeekday year = 2 ∧ isLeap year then 53 else 52

def weekDay (year week day : Nat) : Nat :=
  let first := daysBeforeYear year
  let monday := if firstWeekday year ≤ 3 then first - firstWeekday year
    else first + 7 - firstWeekday year
  monday + (week - 1) * 7 + (day - 1)

def weekDate? (year week day : Nat) : Option (Nat × Nat × Nat) :=
  if year = 0 then
    if 1 ≤ week ∧ week ≤ 52 ∧ 1 ≤ day ∧ day ≤ 7 then some (1, 0, 0) else none
  else if 1 ≤ week ∧ week ≤ weeksOf year ∧ 1 ≤ day ∧ day ≤ 7 then
    some (dateOfDay (weekDay year week day))
  else none

def after? (mark : Nat) : List Nat → Option (List Nat)
  | byte :: rest => if byte = mark then some rest else none
  | [] => none

def readDate? (bytes : List Nat) : Option (Nat × Nat × Nat) := do
  let (year, rest) ← fixed? 4 0 bytes
  let hyphened := rest.head? = some hyphen
  let next (rest : List Nat) : Option (List Nat) :=
    if hyphened then after? hyphen rest else some rest
  let rest ← next rest
  if rest.head? = some weekLetter then
    let (week, rest) ← fixed? 2 0 rest.tail
    if bytes.length - rest.length < dateEnd bytes then
      let (day, _) ← fixed? 1 0 (← next rest)
      weekDate? year week day
    else weekDate? year week 1
  else
    let (month, rest) ← fixed? 2 0 rest
    let (day, _) ← fixed? 2 0 (← next rest)
    return (year, month, day)

structure Clock where
  hour : Nat
  minute : Nat
  second : Nat
  micros : Nat
  /- Whether the text goes on after it. -/
  goesOn : Bool

def clockOf (numbers : List Nat) (micros : Nat) (goesOn : Bool) : Clock :=
  ⟨numbers.getD 0 0, numbers.getD 1 0, numbers.getD 2 0, micros, goesOn⟩

def readMicros? (numbers : List Nat) (bytes : List Nat) (limit : Nat) : Option Clock := do
  let width := min 6 limit
  let (value, rest) ← fixed? width 0 bytes
  let rest := rest.dropWhile isDigit
  return clockOf numbers (value * 10 ^ (6 - width)) (byteAt rest 0 != 0)

def isPoint (byte : Nat) : Bool :=
  byte == '.'.toNat || byte == ','.toNat

def readNumbers? (colons : Option Bool) (numbers : List Nat) (bytes : List Nat) (limit : Nat) :
    Nat → Option Clock
  | 0 => readMicros? numbers bytes limit
  | more + 1 => do
    let (number, rest) ← fixed? 2 0 bytes
    let numbers := numbers ++ [number]
    let mark := byteAt rest 0
    let colons := colons.getD (mark = colon)
    if limit ≤ 3 then return clockOf numbers 0 (mark != 0)
    if colons && mark = colon then
      readNumbers? (some colons) numbers rest.tail (limit - 3) more
    else if isPoint mark then readMicros? numbers rest.tail (limit - 3)
    else if !colons then readNumbers? (some colons) numbers rest (limit - 2) more
    else none

def readClock? (bytes : List Nat) (limit : Nat) : Option Clock :=
  readNumbers? none [] bytes limit 3

def startsZone (byte : Nat) : Bool :=
  byte == '+'.toNat || byte == hyphen || byte == 'Z'.toNat

/- The offset in microseconds; without whole seconds there is none. -/
def readZone? (bytes : List Nat) : Option Int :=
  match bytes with
  | [] => none
  | mark :: rest => do
    if mark = 'Z'.toNat then
      if byteAt rest 0 = 0 then return 0 else none
    let clock ← readClock? rest rest.length
    if clock.goesOn then none
    let seconds := (clock.hour * 60 + clock.minute) * 60 + clock.second
    let micros : Int := if seconds = 0 then 0 else seconds * 1000000 + clock.micros
    return if mark = hyphen then -micros else micros

def readTime? (bytes : List Nat) : Option (Clock × Option Int) := do
  let zone := bytes.dropWhile (!startsZone ·)
  let clock ← readClock? bytes (bytes.length - zone.length)
  if zone.isEmpty then
    if clock.goesOn then none else return (clock, none)
  else return (clock, some (← readZone? zone))

def frontSize (bytes : List Nat) : Nat :=
  let first := byteAt bytes 0
  if first < 0x80 then 1 else if first < 0xE0 then 2 else if first < 0xF0 then 3 else 4

def make (date : Nat × Nat × Nat) (clock : Clock) (zone : Option Int) :
    Except MomentFault Moment := do
  let (year, month, day) := date
  if let some offset := zone then
    if microsPerDay ≤ offset.natAbs then throw (.offset offset)
  if year < 1 ∨ 9999 < year then throw (.year year)
  match (monthLengths year)[month - 1]? with
  | none => throw .month
  | some length =>
    if month = 0 then throw .month
    if day = 0 ∨ length < day then throw .day
  if 24 ≤ clock.hour then throw .hour
  if 60 ≤ clock.minute then throw .minute
  if 60 ≤ clock.second then throw .second
  let seconds := (clock.hour * 60 + clock.minute) * 60 + clock.second
  return ⟨((dayOf year month day * 86400 + seconds) * 1000000 + clock.micros : Nat), zone⟩

def readBytes (bytes : List Nat) : Except MomentFault Moment :=
  match readDate? bytes, bytes.drop (dateEnd bytes) with
  | none, _ => .error .malformed
  | some date, [] => make date (clockOf [] 0 false) none
  | some date, rest =>
    match readTime? (rest.drop (frontSize rest)) with
    | none => .error .malformed
    | some (clock, zone) => make date clock zone

def partingPlaces : List Nat := [7, 8, 10]

def read (text : String) : Except MomentFault Moment :=
  let codes := Text.pointsOf text
  let parting := partingPlaces.find? fun place => Text.isHalf (codes.getD place 0)
  let codes := match parting with
    | some place => codes.set place 'T'.toNat
    | none => codes
  if codes.any Text.isHalf then .error .malformed
  else readBytes (codes.flatMap Text.bytesOf)

end Moment
end BoxOffice
