import BoxOffice.Decimal.Reading
import BoxOffice.Decimal.Writing

/-! Texts of decimals read back. A text is a sign, digits with or without a point among them, and perhaps an
exponent; reading it gives the same digits at the same place, so every form of a number comes back as it was. -/
namespace BoxOffice

namespace Text
variable {d : Nat} {ds : List Nat}

def numeral (digits : List Nat) : List Char :=
  digits.map Nat.digitChar

structure Digits (digits : List Nat) : Prop where
  some : digits ≠ []
  single : ∀ d ∈ digits, d < 10

@[simp]
theorem numeralAppend (ds es : List Nat) : numeral (ds ++ es) = numeral ds ++ numeral es := by
  simp [numeral]

theorem numeralZeros (k : Nat) : numeral (List.replicate k 0) = List.replicate k '0' := by
  simp [numeral, Nat.digitChar]

theorem digitValueOfChar (single : d < 10) : digitValue? d.digitChar = some d := by
  have all : ∀ d < 10, digitValue? d.digitChar = some d := by decide
  exact all d single

theorem numberOfZeros (k : Nat) (ds : List Nat) : numberOf (List.replicate k 0 ++ ds) = numberOf ds := by
  induction k with
  | zero => simp
  | succ k ih => simpa [List.replicate_succ, numberOf] using ih

theorem digitsOf (n : Nat) : ∃ ds, Nat.toDigits 10 n = numeral ds ∧ Digits ds ∧ numberOf ds = n := by
  -- By induction on the number: the digits of a tenth of it, and then the last one.
  induction n using Nat.strongRecOn with
  | _ n ih =>
    by_cases single : n < 10
    · refine ⟨[n], ?_, ⟨by simp, by simpa using single⟩, by simp [numberOf]⟩
      rw [Nat.toDigits_of_lt_base single]
      rfl
    · obtain ⟨ds, written, ⟨some, digits⟩, number⟩ := ih (n / 10) (by omega)
      have last : n % 10 < 10 := Nat.mod_lt _ (by decide)
      have parts : 10 * (n / 10) + n % 10 = n := Nat.div_add_mod n 10
      refine ⟨ds ++ [n % 10], ?_, ⟨by simp, ?_⟩, by rw [numberOfAppend, number, parts]⟩
      · calc
          Nat.toDigits 10 n = Nat.toDigits 10 (10 * (n / 10) + n % 10) := by rw [parts]
          _ = Nat.toDigits 10 (n / 10) ++ Nat.toDigits 10 (n % 10) :=
            (Nat.toDigits_append_toDigits (by decide) (by omega) last).symm
          _ = numeral (ds ++ [n % 10]) := by
            rw [written, Nat.toDigits_of_lt_base last, numeralAppend]
            rfl
      · intro d mem
        obtain mem | mem := List.mem_append.mp mem
        · exact digits d mem
        · rw [List.mem_singleton.mp mem]
          exact last

end Text

namespace Decimal
open Text
variable {ds whole fraction : List Nat} {rest tail : List Char} {e : Int} {negative : Bool}

theorem spanNumeral (single : ∀ d ∈ ds, d < 10) (stop : spanDigits rest = ([], rest)) :
    spanDigits (numeral ds ++ rest) = (ds, rest) := by
  induction ds with
  | nil => exact stop
  | cons d ds ih =>
    have value := digitValueOfChar (single d (by simp))
    have others := ih fun e mem => single e (by simp [mem])
    rw [numeral] at others
    simp [numeral, spanDigits, value, others]

theorem readDigitText (n : Nat) : ∃ ds, readDigits? (digitText n) = some ds ∧ ds ≠ [] ∧ numberOf ds = n := by
  obtain ⟨ds, written, ⟨some, single⟩, number⟩ := digitsOf n
  have span : spanDigits (numeral ds ++ []) = (ds, []) := spanNumeral single rfl
  rw [List.append_nil] at span
  refine ⟨ds, ?_, some, number⟩
  rw [readDigits?, digitText, written, span]

inductive Ending : List Char → Int → Prop
  | plain : Ending [] 0
  | scaled (e : Int) : Ending (exponentText e) e

theorem Ending.span (ending : Ending tail e) : spanDigits tail = ([], tail) := by
  cases ending with
  | plain => rfl
  | scaled => rfl

theorem Ending.readFraction (ending : Ending tail e) : readFraction tail = ([], tail) := by
  cases ending with
  | plain => rfl
  | scaled => rfl

theorem Ending.read (ending : Ending tail e) : readExponent? tail = some e := by
  cases ending with
  | plain => rfl
  | scaled =>
    obtain ⟨_ | ⟨d, ds⟩, digits, some, number⟩ := readDigitText e.natAbs
    · exact absurd rfl some
    · rcases Int.lt_or_le e 0 with below | above
      · have value : -(e.natAbs : Int) = e := by omega
        simp only [exponentText, readExponent?, readSign, below, digits, number, value, or_true, if_true]
      · have notBelow : ¬e < 0 := by omega
        have value : (e.natAbs : Int) = e := by omega
        simp only [exponentText, readExponent?, readSign, notBelow, digits, number, value, or_true, if_true,
          if_false, Bool.false_eq_true]

def written (whole fraction : List Nat) : List Char :=
  numeral whole ++ if fraction.isEmpty then [] else '.' :: numeral fraction

theorem readParts (digits : Digits whole) (single : ∀ d ∈ fraction, d < 10) (ending : Ending tail e) :
    readFinite? negative (written whole fraction ++ tail) =
      let n : Finite := ⟨negative, numberOf (whole ++ fraction), e - fraction.length⟩
      if n.inReach then some (.finite n) else none := by
  have some : whole.isEmpty = false := by simpa using digits.some
  cases fraction with
  | nil =>
    have span := spanNumeral digits.single ending.span
    simp [readFinite?, written, span, ending.readFraction, some, ending.read]
  | cons d ds =>
    have span : spanDigits (numeral whole ++ '.' :: (numeral (d :: ds) ++ tail)) =
        (whole, '.' :: (numeral (d :: ds) ++ tail)) := spanNumeral digits.single rfl
    have span' := spanNumeral single ending.span
    simp [readFinite?, written, span, readFraction, span', some, ending.read]

theorem pointedParts (digits : Digits ds) (place : Int) (within : place ≤ ds.length) :
    ∃ whole fraction, pointed (numeral ds) place = written whole fraction ∧ Digits whole ∧
      (∀ d ∈ fraction, d < 10) ∧ numberOf (whole ++ fraction) = numberOf ds ∧
      (fraction.length : Int) = ds.length - place := by
  have length : (numeral ds).length = ds.length := by simp [numeral]
  unfold pointed
  split
  · rename_i before
    refine ⟨[0], List.replicate (-place).toNat 0 ++ ds, ?_, ⟨by simp, by simp⟩, ?_, ?_, ?_⟩
    · simp [written, digits.some, numeralZeros]
      rfl
    · intro d mem
      obtain mem | mem := List.mem_append.mp mem
      · rw [List.eq_of_mem_replicate mem]
        decide
      · exact digits.single d mem
    · exact numberOfZeros ((-place).toNat + 1) ds
    · simp
      omega
  · split
    · rename_i after
      have all : place = ds.length := by omega
      exact ⟨ds, [], by simp [written, all, length], digits, by simp, by simp, by simp [all]⟩
    · rename_i inside outside
      rw [length] at outside
      have nonempty : 0 < (ds.drop place.toNat).length := by
        rw [List.length_drop]
        omega
      refine ⟨ds.take place.toNat, ds.drop place.toNat, ?_, ⟨?_, ?_⟩, ?_, ?_, ?_⟩
      · have some : (ds.drop place.toNat).isEmpty = false := by
          simpa using List.ne_nil_of_length_pos nonempty
        simp [written, some, numeral]
      · refine List.ne_nil_of_length_pos ?_
        rw [List.length_take]
        omega
      · exact fun d mem => digits.single d (List.mem_of_mem_take mem)
      · exact fun d mem => digits.single d (List.mem_of_mem_drop mem)
      · rw [List.take_append_drop]
      · rw [List.length_drop]
        omega

def keeps (c : Char) : Bool :=
  !isBlank c && c != '_'

theorem dropNone {text : List Char} (kept : text.all keeps = true) : text.dropWhile isBlank = text := by
  cases text with
  | nil => rfl
  | cons c rest =>
    have first : isBlank c = false := by simp_all [keeps]
    simp [first]

theorem readKept {text : List Char} (kept : text.all keeps = true) :
    readChars? text = readUnsigned? (readSign text).1 (readSign text).2 := by
  have back : text.reverse.all keeps = true := by rwa [List.all_reverse]
  have whole : text.filter (· ≠ '_') = text := by
    rw [List.filter_eq_self]
    intro c mem
    have := List.all_eq_true.mp kept c mem
    simp_all [keeps]
  rw [readChars?, trim, dropNone kept, dropNone back, List.reverse_reverse, whole]

@[simp]
theorem signKept : (signText negative).all keeps = true := by
  cases negative <;> rfl

theorem numeralKept (single : ∀ d ∈ ds, d < 10) : (numeral ds).all keeps = true := by
  have all : ∀ d < 10, keeps d.digitChar = true := by decide
  simpa [numeral] using fun d mem => all d (single d mem)

theorem digitTextKept (n : Nat) : (digitText n).all keeps = true := by
  obtain ⟨ds, written, digits, _⟩ := digitsOf n
  rw [digitText, written]
  exact numeralKept digits.single

theorem Ending.kept (ending : Ending tail e) : tail.all keeps = true := by
  cases ending with
  | plain => rfl
  | scaled =>
    have sign : keeps (if e < 0 then '-' else '+') = true := by
      split <;> decide
    rw [exponentText, List.all_cons, List.all_cons, sign, digitTextKept]
    decide

theorem writtenKept (digits : Digits whole) (single : ∀ d ∈ fraction, d < 10) :
    (written whole fraction).all keeps = true := by
  cases fraction with
  | nil => simp [written, numeralKept digits.single]
  | cons d ds =>
    have point : keeps '.' = true := by decide
    simp [written, numeralKept digits.single, numeralKept single, point]

theorem readDigit {d : Nat} (single : d < 10) (negative : Bool) (rest : List Char) :
    readUnsigned? (readSign (signText negative ++ d.digitChar :: rest)).1
        (readSign (signText negative ++ d.digitChar :: rest)).2 =
      readFinite? negative (d.digitChar :: rest) := by
  have signless : ∀ d < 10, d.digitChar ≠ '-' ∧ d.digitChar ≠ '+' := by decide
  have wordless : ∀ d < 10,
      d.digitChar.toLower ≠ 'n' ∧ d.digitChar.toLower ≠ 's' ∧ d.digitChar.toLower ≠ 'i' := by decide
  obtain ⟨noMinus, noPlus⟩ := signless d single
  obtain ⟨noN, noS, noI⟩ := wordless d single
  have sign : readSign (signText negative ++ d.digitChar :: rest) = (negative, d.digitChar :: rest) := by
    cases negative with
    | true => rfl
    | false => simp [signText, readSign, noMinus, noPlus]
  simp [sign, readUnsigned?, afterWord?, noN, noS, noI]

theorem readNumber (digits : Digits whole) (single : ∀ d ∈ fraction, d < 10) (ending : Ending tail e) :
    readChars? (signText negative ++ written whole fraction ++ tail) =
      let n : Finite := ⟨negative, numberOf (whole ++ fraction), e - fraction.length⟩
      if n.inReach then some (.finite n) else none := by
  have kept : (signText negative ++ written whole fraction ++ tail).all keeps = true := by
    simp [writtenKept digits single, ending.kept]
  rw [readKept kept, ← readParts digits single ending]
  obtain _ | ⟨d, ds⟩ := whole
  · exact absurd rfl digits.some
  · simpa [written, numeral] using readDigit (digits.single d (by simp)) negative _

theorem finiteParts (n : Finite) : ∃ whole fraction tail e,
    n.chars = signText n.negative ++ written whole fraction ++ tail ∧ Digits whole ∧ (∀ d ∈ fraction, d < 10) ∧
      Ending tail e ∧ numberOf (whole ++ fraction) = n.coefficient ∧ e - fraction.length = n.exponent := by
  obtain ⟨ds, text, digits, number⟩ := digitsOf n.coefficient
  have length : (digitText n.coefficient).length = ds.length := by simp [digitText, text, numeral]
  have some : 0 < ds.length := List.length_pos_iff.mpr digits.some
  unfold Finite.chars
  dsimp only
  rw [length]
  split
  · obtain ⟨whole, fraction, point, digits', single, number', places⟩ :=
      pointedParts digits (n.exponent + ds.length) (by omega)
    refine ⟨whole, fraction, [], 0, ?_, digits', single, .plain, number'.trans number, by omega⟩
    rw [digitText, text, point, List.append_nil]
  · obtain ⟨whole, fraction, point, digits', single, number', places⟩ :=
      pointedParts digits 1 (by omega)
    refine ⟨whole, fraction, exponentText (n.exponent + ds.length - 1), n.exponent + ds.length - 1, ?_, digits',
      single, .scaled _, number'.trans number, by omega⟩
    rw [digitText, text, point]

theorem readChars (n : Finite) : readChars? n.chars = if n.inReach then some (.finite n) else none := by
  obtain ⟨whole, fraction, tail, e, text, digits, single, ending, number, place⟩ := finiteParts n
  rw [text, readNumber digits single ending, number, place]

theorem readText (d : Decimal) : read? d.text =
    match d with
    | .finite n => if n.inReach then some d else none
    | _ => some d := by
  rw [read?, text, String.toList_ofList]
  cases d with
  | finite n => exact readChars n
  | infinite negative => cases negative <;> decide +kernel
  | nan negative signaling payload =>
    have kept : (chars (.nan negative signaling payload)).all keeps = true := by
      have word : keeps 's' = true ∧ keeps 'N' = true ∧ keeps 'a' = true := by decide
      cases signaling <;> by_cases none : payload = 0 <;> simp [chars, word, none, digitTextKept]
    rw [readKept kept]
    by_cases none : payload = 0
    · subst none
      cases negative <;> cases signaling <;> decide
    · obtain ⟨ds, read, _, number⟩ := readDigitText payload
      cases negative <;> cases signaling <;>
        simp [chars, signText, readSign, readUnsigned?, afterWord?, none, readNan?, read, number]

theorem intChars (n : Int) : (Finite.ofInt n).chars = (toString n).toList := by
  have some := digitCountPos n.natAbs
  rw [digitCount] at some
  have plain : (Finite.ofInt n).chars = signText (decide (n < 0)) ++ digitText n.natAbs := by
    have place : ¬(Nat.toDigits 10 n.natAbs).length = 0 := by omega
    simp [Finite.chars, Finite.ofInt, pointed, digitText, place]
    omega
  rw [plain, Int.toString_eq_repr, Int.repr_eq_if]
  rcases Int.lt_or_le n 0 with below | above
  · have from0 : ¬0 ≤ n := by omega
    have size : (-n).toNat = n.natAbs := by omega
    simp [signText, digitText, below, from0, size]
  · have from0 : ¬n < 0 := by omega
    have size : n.toNat = n.natAbs := by omega
    simp [signText, digitText, above, from0, size]

theorem centsInReach {cents : Nat} (negative : Bool) (range : cents < 10 ^ precision) :
    (Finite.ofCents negative cents).inReach = true := by
  have digits : digitCount cents ≤ precision := (digitCountLe (by decide)).mpr range
  rw [precision] at digits
  have low : deepestExponent ≤ (Finite.ofCents negative cents).exponent := by
    simp [Finite.ofCents, deepestExponent]
  have high : (Finite.ofCents negative cents).exponent ≤ widestExponent := by
    simp [Finite.ofCents, widestExponent]
  have leading : (Finite.ofCents negative cents).adjusted ≤ widestExponent := by
    simp [Finite.adjusted, Finite.ofCents, widestExponent]
    omega
  simp [Finite.inReach, low, high, leading]

theorem readCents {cents : Nat} (negative : Bool) (range : cents < 10 ^ precision) :
    readChars? (centsChars negative cents) = some (.finite (.ofCents negative cents)) := by
  obtain ⟨whole, text, digits, number⟩ := digitsOf (cents / 100)
  have tens : cents / 10 % 10 < 10 := Nat.mod_lt _ (by decide)
  have ones : cents % 10 < 10 := Nat.mod_lt _ (by decide)
  have chars : centsChars negative cents =
      signText negative ++ written whole [cents / 10 % 10, cents % 10] ++ [] := by
    simp [centsChars, digitText, text, written, numeral, Nat.toDigits_of_lt_base tens,
      Nat.toDigits_of_lt_base ones]
  have value : numberOf (whole ++ [cents / 10 % 10, cents % 10]) = cents := by
    rw [← List.singleton_append, ← List.append_assoc, numberOfAppend, numberOfAppend, number]
    omega
  rw [chars, readNumber digits (by simp [tens, ones]) .plain, value]
  exact if_pos (centsInReach negative range)

end Decimal
end BoxOffice
