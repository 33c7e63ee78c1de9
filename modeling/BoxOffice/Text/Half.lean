/-! Texts whose code points may be halves of pairs that stand alone. No character is such a half, so
it takes two characters: a mark, and a character of private use that stands for the half. The mark
itself is doubled, and every other code point is its own character. -/
namespace BoxOffice.Text

def firstHalf : Nat := 0xD800

def lastHalf : Nat := 0xDFFF

def markPoint : Nat := 0x10FFFF

def mark : Char := Char.ofNat markPoint

def firstStandIn : Nat := 0xE000

def isHalf (point : Nat) : Bool :=
  firstHalf ≤ point && point ≤ lastHalf

def ofPoint (point : Nat) : List Char :=
  if isHalf point then [mark, Char.ofNat (firstStandIn + (point - firstHalf))]
  else if point = markPoint then [mark, mark]
  else [Char.ofNat point]

/- The code point that a mark and the character after it write. -/
def marked (c : Char) : Nat :=
  if c = mark then markPoint else firstHalf + (c.toNat - firstStandIn)

def points : List Char → List Nat
  | [] => []
  | [c] => [c.toNat]
  | c :: d :: rest => if c = mark then marked d :: points rest else c.toNat :: points (d :: rest)

def pointsOf (text : String) : List Nat :=
  points text.toList

def ofPoints (codes : List Nat) : String :=
  String.ofList (codes.flatMap ofPoint)

def isWhole (text : String) : Bool :=
  (pointsOf text).all (!isHalf ·)

theorem isHalfIff {point : Nat} : isHalf point = true ↔ 0xD800 ≤ point ∧ point ≤ 0xDFFF := by
  rw [isHalf, Bool.and_eq_true, decide_eq_true_eq, decide_eq_true_eq]
  rfl

theorem toNatOfNat {n : Nat} (valid : n.isValidChar) : (Char.ofNat n).toNat = n := by
  rw [Char.ofNat, dif_pos valid]
  rfl

theorem toNatMark : mark.toNat = 0x10FFFF :=
  toNatOfNat (by decide)

theorem validOfPoint {point : Nat} (range : point ≤ markPoint) (alone : ¬isHalf point = true) :
    point.isValidChar := by
  rw [isHalfIff] at alone
  have range : point ≤ 0x10FFFF := range
  simp only [Nat.isValidChar]
  omega

theorem pointsOther {c : Char} (other : c ≠ mark) (rest : List Char) :
    points (c :: rest) = c.toNat :: points rest := by
  cases rest with
  | nil => rfl
  | cons d rest => rw [points, if_neg other]

theorem markedHalf {point : Nat} (half : isHalf point = true) :
    marked (Char.ofNat (firstStandIn + (point - firstHalf))) = point := by
  obtain ⟨low, high⟩ := isHalfIff.1 half
  have number : (Char.ofNat (0xE000 + (point - 0xD800))).toNat = 0xE000 + (point - 0xD800) :=
    toNatOfNat (.inr (by omega))
  have other : Char.ofNat (0xE000 + (point - 0xD800)) ≠ mark := by
    intro same
    rw [same, toNatMark] at number
    omega
  have back : 0xD800 + (0xE000 + (point - 0xD800) - 0xE000) = point := by omega
  show (if Char.ofNat (0xE000 + (point - 0xD800)) = mark then markPoint else
    0xD800 + ((Char.ofNat (0xE000 + (point - 0xD800))).toNat - 0xE000)) = point
  rw [if_neg other, number, back]

theorem pointsOfPoint {point : Nat} (range : point ≤ markPoint) (rest : List Char) :
    points (ofPoint point ++ rest) = point :: points rest := by
  unfold ofPoint
  split
  · rename_i half
    simp [points, markedHalf half]
  · rename_i alone
    split
    · rename_i same
      simp [points, marked, same]
    · rename_i different
      have number := toNatOfNat (validOfPoint range alone)
      have other : Char.ofNat point ≠ mark := by
        intro same
        rw [same, toNatMark] at number
        exact different number.symm
      simp [pointsOther other, number]

theorem pointsOfOfPoints {codes : List Nat} (range : ∀ point ∈ codes, point ≤ markPoint) :
    pointsOf (ofPoints codes) = codes := by
  simp only [pointsOf, ofPoints, String.toList_ofList]
  induction codes with
  | nil => rfl
  | cons point codes ih =>
    rw [List.flatMap_cons, pointsOfPoint (range point (by simp)),
      ih fun other member => range other (by simp [member])]

end BoxOffice.Text
