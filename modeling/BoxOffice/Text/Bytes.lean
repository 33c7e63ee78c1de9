import BoxOffice.Power
import BoxOffice.Text.Half

/-! Code points as bytes, one to four for each, and back. A byte that belongs to no character can be
kept in a text all the same, as a half of a pair. -/
namespace BoxOffice.Text

def following (point place : Nat) : Nat :=
  0x80 + point / 64 ^ place % 64

def bytesOf (point : Nat) : List Nat :=
  if point < 0x80 then [point]
  else if point < 0x800 then [0xC0 + point / 64, following point 0]
  else if point < 0x10000 then [0xE0 + point / 64 ^ (2 : Nat), following point 1, following point 0]
  else [0xF0 + point / 64 ^ (3 : Nat), following point 2, following point 1, following point 0]

def strayByte (byte : Nat) : Nat :=
  0xDC00 + byte

def bytes? (codes : List Nat) : Option (List Nat) :=
  (codes.mapM fun point =>
    if !isHalf point then some (bytesOf point)
    else if strayByte 0x80 ≤ point ∧ point ≤ strayByte 0xFF then some [point - strayByte 0]
    else none).map List.flatten

def opening? (byte : Nat) : Option (Nat × Nat × Nat) :=
  if byte < 0x80 then some (0, byte, 0)
  else if 0xC0 ≤ byte ∧ byte < 0xE0 then some (1, byte - 0xC0, 0x80)
  else if 0xE0 ≤ byte ∧ byte < 0xF0 then some (2, byte - 0xE0, 0x800)
  else if 0xF0 ≤ byte ∧ byte < 0xF8 then some (3, byte - 0xF0, 0x10000)
  else none

def joined? (bits : Nat) : List Nat → Option Nat
  | [] => some bits
  | byte :: rest =>
    if 0x80 ≤ byte ∧ byte < 0xC0 then joined? (bits * 64 + (byte - 0x80)) rest else none

def first? (byte : Nat) (rest : List Nat) : Option (Nat × Nat) := do
  let (size, bits, least) ← opening? byte
  if rest.length < size then none
  let point ← joined? bits (rest.take size)
  if least ≤ point ∧ point ≤ markPoint ∧ !isHalf point then some (point, size) else none

def ofBytes : List Nat → List Nat
  | [] => []
  | byte :: rest =>
    let (point, size) := (first? byte rest).getD (strayByte byte, 0)
    point :: ofBytes (rest.drop size)
termination_by bytes => bytes.length
decreasing_by rw [List.length_drop, List.length_cons]; omega

end BoxOffice.Text
