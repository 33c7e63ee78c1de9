import BoxOffice.Text.Half
import BoxOffice.Text.Printable

/-! A text as a message shows it: between quotes, on one line, with every character that is not
shown as it is written by its code point. -/
namespace BoxOffice.Text

def hex (width n : Nat) : List Char :=
  let digits := Nat.toDigits 16 n
  List.replicate (width - digits.length) '0' ++ digits

def escaped (quote : Char) (point : Nat) : List Char :=
  if point = quote.toNat ∨ point = '\\'.toNat then ['\\', Char.ofNat point]
  else if point = '\n'.toNat then ['\\', 'n']
  else if point = '\r'.toNat then ['\\', 'r']
  else if point = '\t'.toNat then ['\\', 't']
  else if isPrintable point then [Char.ofNat point]
  else if point ≤ 0xFF then '\\' :: 'x' :: hex 2 point
  else if point ≤ 0xFFFF then '\\' :: 'u' :: hex 4 point
  else '\\' :: 'U' :: hex 8 point

def quoteMark (text : List Char) : Char :=
  if text.contains '\'' && !text.contains '"' then '"' else '\''

def quoted (text : String) : String :=
  let quote := quoteMark text.toList
  String.ofList (quote :: (pointsOf text).flatMap (escaped quote) ++ [quote])

def quotedRoom : Nat := 200

def quotedStart (text : String) : String :=
  String.ofList ((quoted text).toList.take quotedRoom)

end BoxOffice.Text
