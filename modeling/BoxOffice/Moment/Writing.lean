import BoxOffice.Moment.Basic

/-! The text of a moment: date and time with the letter `T` between. Seconds of an offset and
fractions of a second show only if there are any. -/
namespace BoxOffice.Moment

def padded (width n : Nat) : List Char :=
  let digits := Nat.toDigits 10 n
  List.replicate (width - digits.length) '0' ++ digits

def dateChars (day : Nat) : List Char :=
  let (year, month, dayOfMonth) := dateOfDay day
  padded 4 year ++ '-' :: padded 2 month ++ '-' :: padded 2 dayOfMonth

def fractionChars (fraction : Nat) : List Char :=
  if fraction = 0 then [] else '.' :: padded 6 fraction

def clockChars (second : Nat) : List Char :=
  padded 2 (second / 3600) ++ ':' :: padded 2 (second / 60 % 60) ++ ':' :: padded 2 (second % 60)

def offsetChars (offset : Int) : List Char :=
  let second := offset.natAbs / 1000000
  let fraction := offset.natAbs % 1000000
  (if offset < 0 then '-' else '+') ::
    (padded 2 (second / 3600) ++ ':' :: padded 2 (second / 60 % 60) ++
      if second % 60 = 0 ∧ fraction = 0 then []
      else ':' :: padded 2 (second % 60) ++ fractionChars fraction)

def chars (m : Moment) : List Char :=
  let second := m.wall.toNat / 1000000
  dateChars (second / 86400) ++ 'T' :: clockChars (second % 86400) ++
    fractionChars (m.wall.toNat % 1000000) ++ (m.offset.map offsetChars).getD []

def text (m : Moment) : String :=
  String.ofList m.chars

end BoxOffice.Moment
