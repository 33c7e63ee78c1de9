import BoxOffice.Checked
import BoxOffice.Proofs.Amounts
import BoxOffice.Proofs.Decimal.Text

/-! Amounts of money and texts. A value is an amount exactly if its text reads as one, which is then kept in the
form it was written in. Every amount has a text with two places, and that text reads as the amount again. -/
namespace BoxOffice

namespace Decimal
open Text
variable {c : Char} {rest : List Char}

theorem trimFront (solid : isBlank c = false) (rest : List Char) :
    ∃ kept, trim isBlank (c :: rest) = c :: kept := by
  have front : (c :: rest).dropWhile isBlank = c :: rest := by simp [solid]
  rw [trim, front, List.reverse_cons, List.dropWhile_append]
  split
  · exact ⟨[], by simp [solid]⟩
  · exact ⟨(rest.reverse.dropWhile isBlank).reverse, by simp⟩

theorem readBracket (bracket : c = '[' ∨ c = '\x7b') (rest : List Char) : readChars? (c :: rest) = none := by
  have solid : isBlank c = false := by
    obtain rfl | rfl := bracket <;> decide
  have digitless : digitValue? c = none := by
    obtain rfl | rfl := bracket <;> decide
  obtain ⟨kept, trimmed⟩ := trimFront solid rest
  rw [readChars?, trimmed]
  obtain rfl | rfl := bracket <;>
    simp [readSign, readUnsigned?, afterWord?, readFinite?, spanDigits, digitless, readFraction]

end Decimal

namespace Money
variable {value : Raw} {n : Decimal.Finite}

theorem faultlessInReach {k : Int} (sound : fault? (.ofInt k) = none) :
    (Decimal.Finite.ofInt k).inReach = true := by
  have below : (Decimal.Finite.ofInt k).size < 10 ^ (26 : Int) := by
    obtain ⟨least, most, _⟩ := faultlessValue.mp sound
    rw [← Decimal.Finite.absValue, abs_of_nonneg least]
    exact_mod_cast most
  have low : Decimal.deepestExponent ≤ (Decimal.Finite.ofInt k).exponent := by
    simp [Decimal.Finite.ofInt, Decimal.deepestExponent]
  have high : (Decimal.Finite.ofInt k).exponent ≤ Decimal.widestExponent := by
    simp [Decimal.Finite.ofInt, Decimal.widestExponent]
  cases none : (Decimal.Finite.ofInt k).isZero with
  | true => simp [Decimal.Finite.inReach, low, high, none]
  | false =>
    have leading := Decimal.Finite.adjustedBelow none below
    have leading : (Decimal.Finite.ofInt k).adjusted ≤ Decimal.widestExponent := by
      rw [Decimal.widestExponent]
      omega
    simp [Decimal.Finite.inReach, low, leading, none]

theorem namedText (value : Raw) : named? value = finite? (Decimal.read? value.plain) ∨
    ∃ k, value = .whole k ∧ (Decimal.Finite.ofInt k).inReach = false ∧
      finite? (Decimal.read? value.plain) = none := by
  cases value with
  | text value => exact .inl rfl
  | fraction value => exact .inl rfl
  | whole k =>
    have text : Raw.plain (.whole k) = (Decimal.ofInt k).text := by
      rw [Decimal.text, Decimal.ofInt, Decimal.chars, Decimal.intChars]
      rfl
    rw [text, Decimal.readText, Decimal.ofInt]
    cases reach : (Decimal.Finite.ofInt k).inReach with
    | true =>
      left
      simp only [reach, if_true]
      rfl
    | false =>
      right
      simp only [reach, Bool.false_eq_true, if_false]
      exact ⟨k, rfl, reach, rfl⟩
  | nothing => exact .inl (by decide)
  | truth value => cases value <;> exact .inl (by decide)
  | list items =>
    have read : Decimal.read? (Raw.plain (.list items)) = none :=
      (congrArg Decimal.readChars? String.toList_ofList).trans (Decimal.readBracket (.inl rfl) _)
    exact .inl (by rw [read]; rfl)
  | record fields =>
    have read : Decimal.read? (Raw.plain (.record fields)) = none :=
      (congrArg Decimal.readChars? String.toList_ofList).trans (Decimal.readBracket (.inr rfl) _)
    exact .inl (by rw [read]; rfl)

theorem finiteIff {read : Option Decimal} : finite? read = some n ↔ read = some (.finite n) := by
  cases read with
  | none => simp [finite?]
  | some d => cases d <;> simp [finite?]

theorem ofRawText (value : Raw) : (∃ m, ofRaw value = .ok m ∧ m.amount = n) ↔
    Decimal.read? value.plain = some (.finite n) ∧ fault? n = none := by
  have named : (∃ m, ofRaw value = .ok m ∧ m.amount = n) ↔ named? value = some n ∧ fault? n = none := by
    obtain ⟨m, named, read⟩ | ⟨fault, read, faulty⟩ := ofRawCases value
    · simp only [named, read, Except.ok.injEq, exists_eq_left', Option.some.injEq]
      exact ⟨fun same => ⟨same, same ▸ m.sound⟩, fun both => both.1⟩
    · simp only [read, reduceCtorEq, false_and, exists_false, false_iff, not_and]
      exact faulty n
  rw [named, ← finiteIff]
  obtain same | ⟨k, rfl, far, unread⟩ := namedText value
  · rw [same]
  · rw [unread]
    constructor
    · rintro ⟨⟨⟩, sound⟩
      cases far.symm.trans (faultlessInReach sound)
    · rintro ⟨⟨⟩, _⟩

theorem ofRawFault {fault : MoneyFault} (refused : ofRaw value = .error fault) : fault ≠ .incomparable := by
  unfold ofRaw at refused
  cases named : named? value with
  | none =>
    rw [named] at refused
    cases refused
    simp
  | some n =>
    rw [named] at refused
    rintro rfl
    cases found : fault? n with
    | none => cases (ofFiniteSound found).symm.trans refused
    | some fault =>
      cases (ofFiniteFault found).symm.trans refused
      simp only [fault?] at found
      split at found
      · cases found
      · split at found
        · cases found
        · split at found <;> cases found

theorem checkedIff {m : Money} : Checked.amount value = .ok m ↔ ofRaw value = .ok m := by
  unfold Checked.amount
  cases ofRaw value <;> simp

end Money

/-- A value is taken as an amount of money exactly if its text reads as a finite decimal of whole hundredths
that is not negative and less than 10 ^ 26, whatever its digits and its exponent, and the amount is that decimal
as it stands. Every other value is refused as none. For a decimal that is given as such this says which ones are
amounts. -/
theorem amountTaken (value : Raw) :
    (∀ n : Decimal.Finite, (∃ m, Checked.amount value = .ok m ∧ m.amount = n) ↔
      Decimal.read? value.plain = some (.finite n) ∧
        0 ≤ n.value ∧ n.value < 10 ^ 26 ∧ ∃ cents : Int, n.value = cents / 100) ∧
    ((∃ m, Checked.amount value = .ok m) ∨ ∃ fault, Checked.amount value = .error (.notMoney fault)) ∧
    ∀ (d : Decimal) (n : Decimal.Finite), (∃ m, Checked.amount (.text d.text) = .ok m ∧ m.amount = n) ↔
      d = .finite n ∧ n.inReach = true ∧
        0 ≤ n.value ∧ n.value < 10 ^ 26 ∧ ∃ cents : Int, n.value = cents / 100 := by
  refine ⟨fun n => ?_, ?_, fun d n => ?_⟩
  · simp only [Money.checkedIff, Money.ofRawText, Money.faultlessValue]
  · cases read : Money.ofRaw value with
    | ok m => exact .inl ⟨m, Money.checkedIff.mpr read⟩
    | error fault =>
      have said : Failure.ofMoney fault = .notMoney fault := by
        cases fault with
        | incomparable => exact absurd rfl (Money.ofRawFault read)
        | notAnAmount | negative | outOfRange | finerThanCent => rfl
      refine .inr ⟨fault, ?_⟩
      rw [Checked.amount, read, ← said]
  · simp only [Money.checkedIff, Money.ofRawText, Money.faultlessValue, Raw.plain, Decimal.readText]
    cases d with
    | finite k =>
      simp only [Option.ite_none_right_eq_some, Option.some.injEq, Decimal.finite.injEq, and_assoc]
      constructor
      · rintro ⟨reach, rfl, amount⟩
        exact ⟨rfl, reach, amount⟩
      · rintro ⟨rfl, reach, amount⟩
        exact ⟨reach, rfl, amount⟩
    | infinite | nan => simp

namespace Money
variable {a b : Money}

theorem hundredthsCents (m : Money) : m.hundredths.cents = m.cents :=
  centsUnique (Decimal.Finite.ofCentsWorth m.amountWorth)

theorem sameIff : a.same b = true ↔ a.cents = b.cents := by
  rw [same, beq_iff_eq, Decimal.Finite.orderValue, compare_eq_iff_eq, valueOfCents, valueOfCents,
    div_left_inj' (by norm_num), Nat.cast_inj]

theorem zeroIff (m : Money) : m.amount.isZero = true ↔ m.cents = 0 := by
  constructor
  · intro none
    have read := m.centsOfMoney
    rw [Decimal.Finite.cents?, if_pos none] at read
    exact (Option.some.inj read).symm
  · intro nothing
    by_contra some
    have positive := Decimal.Finite.sizePositive (Bool.eq_false_iff.mpr some)
    rw [Decimal.Finite.worthSize m.amountWorth, nothing] at positive
    norm_num at positive

theorem signSame (cents : a.cents = b.cents)
    (sign : a.amount.isZero = true → a.amount.negative = b.amount.negative) :
    a.amount.negative = b.amount.negative := by
  -- Only a zero shows its sign, since no other amount is negative.
  cases none : a.amount.isZero with
  | true => exact sign none
  | false =>
    have none' : b.amount.isZero = false := by
      rwa [Bool.eq_false_iff, ne_eq, zeroIff, ← cents, ← zeroIff, ← ne_eq, ← Bool.eq_false_iff]
    rw [Decimal.Finite.worthPositive a.amountWorth none (Int.natCast_nonneg _),
      Decimal.Finite.worthPositive b.amountWorth none' (Int.natCast_nonneg _)]

theorem readMoneyText (m : Money) : Decimal.read? m.text = some (.finite m.hundredths.amount) := by
  rw [text, Decimal.read?, String.toList_ofList]
  exact Decimal.readCents _ m.centsBelow

theorem ofText (m : Money) : Checked.amount (.text m.text) = .ok m.hundredths := by
  obtain ⟨back, read, same⟩ := (ofRawText (.text m.text)).mpr ⟨m.readMoneyText, m.hundredths.sound⟩
  obtain ⟨_, _⟩ := back
  cases same
  exact checkedIff.mpr read

end Money

/-- Every amount reads back from its text as the same amount, which has that text again; and the texts of two
amounts are the same exactly if the amounts are, except that a zero shows its sign. -/
theorem moneyReadsBack (m : Money) :
    (∃ back, Checked.amount (.text m.text) = .ok back ∧ back.same m = true ∧ back.text = m.text) ∧
    ∀ other : Money, m.text = other.text ↔
      m.same other = true ∧ (m.amount.isZero = true → m.amount.negative = other.amount.negative) := by
  refine ⟨⟨m.hundredths, m.ofText, Money.sameIff.mpr m.hundredthsCents, ?_⟩, fun other => ⟨fun text => ?_, ?_⟩⟩
  · rw [Money.text, m.hundredthsCents]
    rfl
  · have read := m.readMoneyText
    rw [text, other.readMoneyText] at read
    simp only [Money.hundredths, Decimal.Finite.ofCents, Option.some.injEq, Decimal.finite.injEq,
      Decimal.Finite.mk.injEq, and_true] at read
    exact ⟨Money.sameIff.mpr read.2.symm, fun _ => read.1.symm⟩
  · rintro ⟨same, sign⟩
    have cents := Money.sameIff.mp same
    rw [Money.text, Money.text, cents, Money.signSame cents sign]

end BoxOffice
