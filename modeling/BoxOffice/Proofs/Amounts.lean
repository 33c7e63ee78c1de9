import BoxOffice.Proofs.Balances

/-! Which decimals are amounts of money, and what amounts come to that are added up. Sums are rounded to 28
digits on the way, but below 10 ^ 26 only zeros are dropped, and from there on nothing comes back below. -/
namespace BoxOffice

namespace Decimal.Finite
variable {n m : Finite} {c : Int}

theorem roundDivLeast {k n places : Nat} (least : k * 10 ^ places ≤ n) : k ≤ roundDiv n places := by
  have unit : 0 < 10 ^ places := Nat.pow_pos (by decide)
  have below : k ≤ n / 10 ^ places := (Nat.le_div_iff_mul_le unit).mpr least
  unfold roundDiv
  split
  · rename_i few
    have less := (digitCountLe (by omega)).mp few.le
    have none : n / 10 ^ places = 0 := Nat.div_eq_of_lt less
    omega
  · dsimp only
    split
    · exact below
    · split <;> omega

theorem coefficientLeast {k : Nat} {unit : Int} (fine : n.exponent ≤ unit) (large : (k : ℚ) * 10 ^ unit ≤ n.size) :
    k * 10 ^ (unit - n.exponent).toNat ≤ n.coefficient := by
  have power : (0 : ℚ) < 10 ^ n.exponent := by positivity
  rw [← powTen fine, ← mul_assoc, size] at large
  exact_mod_cast le_of_mul_le_mul_right large power

theorem sizeLeast {k : Nat} {e : Int} (sign : Bool) (digits : 10 ^ 27 ≤ k) (tenths : -1 ≤ e) :
    (10 : ℚ) ^ (26 : Int) ≤ size ⟨sign, k, e⟩ := by
  have digits : (10 : ℚ) ^ (27 : Int) ≤ k := by exact_mod_cast digits
  have tenths : (10 : ℚ) ^ (-1 : Int) ≤ 10 ^ e := zpow_le_zpow_right₀ (by norm_num) tenths
  calc
    (10 : ℚ) ^ (26 : Int) = 10 ^ (27 : Int) * 10 ^ (-1 : Int) := by norm_num
    _ ≤ k * 10 ^ e := mul_le_mul digits tenths (by positivity) (by positivity)

theorem roundedFar (some : n.isZero = false) (far : n.adjusted = 26) :
    ∃ m, n.rounded? = .some m ∧ m.negative = n.negative ∧ (10 : ℚ) ^ (26 : Int) ≤ m.size := by
  have large : (10 : ℚ) ^ (26 : Int) ≤ n.size := far ▸ (sizeBounds some).1
  have digits : n.exponent + digitCount n.coefficient - precision = -1 := by
    rw [adjusted] at far
    rw [precision]
    omega
  have place : max (-1) leastExponent = -1 := by decide
  unfold rounded?
  rw [some, if_neg (by simp), digits, place, if_neg (by decide)]
  dsimp only
  split
  · rename_i fine
    have least : 10 ^ 27 ≤ roundDiv n.coefficient (-1 - n.exponent).toNat := by
      refine roundDivLeast (coefficientLeast fine.le ?_)
      refine le_trans (le_of_eq ?_) large
      norm_num
    generalize roundDiv n.coefficient (-1 - n.exponent).toNat = kept at least
    split
    · exact ⟨_, rfl, rfl, sizeLeast _ least (by decide)⟩
    · rename_i many
      have least : 10 ^ 27 ≤ kept / 10 := by
        rw [precision] at many
        omega
      exact ⟨_, if_neg (by decide), rfl, sizeLeast _ least (by decide)⟩
  · exact ⟨n, rfl, rfl, large⟩

theorem centsFar (large : (10 : ℚ) ^ (26 : Int) ≤ n.size) : n.cents? = none := by
  have some : n.isZero = false := by
    rw [Bool.eq_false_iff]
    intro none
    rw [sizeZero none] at large
    exact absurd large (by norm_num)
  have top := adjustedFrom some large
  unfold cents?
  rw [some, if_neg (by simp)]
  refine if_pos ?_
  rw [adjusted] at top
  rw [precision]
  omega

theorem worthNotNegative (worth : n.Worth c) (above : 0 ≤ c) : n.isNegative = false := by
  unfold isNegative
  cases some : n.isZero with
  | true => simp
  | false => simp [worthPositive worth some above]

theorem worthFar {cents : Nat} (worth : n.Worth cents) (least : 10 ^ precision ≤ cents)
    (most : cents < 10 * 10 ^ precision) : n.isZero = false ∧ n.adjusted = 26 := by
  have size : n.size = (cents : ℚ) / 100 := worthSize worth
  have low : (10 : ℚ) ^ (26 : Int) ≤ n.size := by
    rw [size]
    exact_mod_cast not_lt.mp (hundredthsBelow.not.mpr least.not_gt)
  have high : n.size < (10 : ℚ) ^ (27 : Int) := by
    have most : (cents : ℚ) < ((10 * 10 ^ precision : Nat) : ℚ) := Nat.cast_lt.mpr most
    rw [Nat.cast_mul, precisionValue] at most
    rw [size, div_lt_iff₀ (by norm_num)]
    refine lt_of_lt_of_eq most ?_
    norm_num
  have some : n.isZero = false := by
    rw [Bool.eq_false_iff]
    intro none
    rw [sizeZero none] at low
    exact absurd low (by norm_num)
  have from26 := adjustedFrom some low
  have to27 := adjustedBelow some high
  exact ⟨some, by omega⟩

theorem ofCentsWorth {cents : Nat} (worth : n.Worth cents) : (ofCents n.negative cents).Worth cents := by
  have size := worthSize worth
  rw [Int.natAbs_natCast, ← ofCentsSize n.negative] at size
  rw [Worth, ← worth, value, value, size]
  rfl

end Decimal.Finite

namespace Money
variable {n : Decimal.Finite} {a b : Money} {cents : Nat}

theorem amountWorth (m : Money) : m.amount.Worth m.cents := by
  obtain ⟨n, same, worth⟩ := m.worth
  cases same
  exact worth

theorem centsBelow (m : Money) : m.cents < 10 ^ Decimal.precision :=
  Decimal.Finite.centsInRange m.centsOfMoney

theorem centsUnique {m : Money} (worth : m.amount.Worth cents) : m.cents = cents := by
  have same : ((m.cents : Int) : ℚ) / 100 = ((cents : Int) : ℚ) / 100 := m.amountWorth.symm.trans worth
  rw [div_left_inj' (by norm_num)] at same
  exact_mod_cast same

theorem faultless (worth : n.Worth cents) (below : cents < 10 ^ Decimal.precision) : fault? n = none := by
  have sign := Decimal.Finite.worthNotNegative worth (Int.natCast_nonneg cents)
  have read : n.cents? = some cents := Decimal.Finite.centsWorth worth below
  have order : n.order (.ofCents n.negative cents) = .eq := by
    rw [Decimal.Finite.orderValue, compare_eq_iff_eq, worth, Decimal.Finite.ofCentsWorth worth]
  rw [fault?, sign, if_neg (by simp), read]
  exact if_pos order

theorem faultlessIff : fault? n = none ↔ ∃ cents : Nat, cents < 10 ^ Decimal.precision ∧ n.Worth cents :=
  ⟨fun sound => ⟨_, centsBelow ⟨n, sound⟩, amountWorth ⟨n, sound⟩⟩,
    fun ⟨_, below, worth⟩ => faultless worth below⟩

theorem faultlessValue : fault? n = none ↔
    0 ≤ n.value ∧ n.value < 10 ^ 26 ∧ ∃ cents : Int, n.value = cents / 100 := by
  rw [faultlessIff]
  constructor
  · rintro ⟨cents, below, worth⟩
    have value : n.value = ((cents : Int) : ℚ) / 100 := worth
    refine ⟨?_, ?_, cents, value⟩ <;> rw [value, Int.cast_natCast]
    · positivity
    · exact Decimal.Finite.hundredthsBelow.mpr below
  · rintro ⟨least, most, cents, value⟩
    rw [value] at least most
    rw [le_div_iff₀ (by norm_num), zero_mul, Int.cast_nonneg_iff] at least
    obtain ⟨cents, rfl⟩ := Int.eq_ofNat_of_zero_le least
    rw [Int.cast_natCast, Decimal.Finite.hundredthsBelow] at most
    exact ⟨cents, most, value⟩

theorem ofFiniteSound (sound : fault? n = none) : ofFinite n = .ok ⟨n, sound⟩ := by
  unfold ofFinite
  split
  · rfl
  · rename_i fault found
    cases sound.symm.trans found

theorem ofFiniteFault {fault : MoneyFault} (found : fault? n = some fault) : ofFinite n = .error fault := by
  unfold ofFinite
  split
  · rename_i sound
    cases sound.symm.trans found
  · rename_i other found'
    cases found.symm.trans found'
    rfl

theorem ofRawCases (value : Raw) :
    (∃ m : Money, named? value = some m.amount ∧ ofRaw value = .ok m) ∨
      ∃ fault, ofRaw value = .error fault ∧ ∀ n, named? value = some n → fault? n ≠ none := by
  unfold ofRaw
  cases named? value with
  | none =>
    refine .inr ⟨_, rfl, ?_⟩
    rintro _ ⟨⟩
  | some n =>
    cases found : fault? n with
    | none => exact .inl ⟨⟨n, found⟩, rfl, ofFiniteSound found⟩
    | some fault =>
      refine .inr ⟨fault, ofFiniteFault found, ?_⟩
      rintro _ ⟨⟩ sound
      cases found.symm.trans sound

theorem sumWorth (a b : Money) : (a.amount.sum b.amount).Worth ((a.cents + b.cents : Nat) : Int) := by
  have below := Decimal.Finite.worthBelow a.amountWorth (by rw [Int.natAbs_natCast]; exact a.centsBelow)
  have below' := Decimal.Finite.worthBelow b.amountWorth (by rw [Int.natAbs_natCast]; exact b.centsBelow)
  rw [Decimal.Finite.Worth, Decimal.Finite.sumValue a.amountWorth b.amountWorth below below', a.amountWorth,
    b.amountWorth]
  push_cast
  ring

theorem addExact (below : a.cents + b.cents < 10 ^ Decimal.precision) :
    ∃ sum, a.add b = .ok sum ∧ sum.cents = a.cents + b.cents := by
  have total := sumWorth a b
  have small := Decimal.Finite.worthBelow total (by rwa [Int.natAbs_natCast])
  obtain ⟨n, rounded, same⟩ := Decimal.Finite.roundedExact total small
  have worth : n.Worth ((a.cents + b.cents : Nat) : Int) := same.trans total
  have sound := faultless worth below
  refine ⟨⟨n, sound⟩, ?_, centsUnique worth⟩
  rw [add, Decimal.Finite.add?, rounded]
  exact ofFiniteSound sound

theorem addFar (far : 10 ^ Decimal.precision ≤ a.cents + b.cents) :
    (a.amount.add? b.amount).isSome = true ∧ a.add b = .error .outOfRange := by
  have total := sumWorth a b
  have first := a.centsBelow
  have second := b.centsBelow
  obtain ⟨some, place⟩ := Decimal.Finite.worthFar total far (by omega)
  obtain ⟨n, rounded, sign, large⟩ := Decimal.Finite.roundedFar some place
  have plus := Decimal.Finite.worthPositive total some (Int.natCast_nonneg _)
  have fault : fault? n = .some .outOfRange := by
    rw [fault?, Decimal.Finite.isNegative, sign, plus, Decimal.Finite.centsFar large]
    rfl
  rw [add, Decimal.Finite.add?, rounded]
  exact ⟨rfl, ofFiniteFault fault⟩

theorem addRounded (a b : Money) : (a.amount.add? b.amount).isSome = true := by
  rcases Nat.lt_or_ge (a.cents + b.cents) (10 ^ Decimal.precision) with below | far
  · obtain ⟨sum, added, _⟩ := addExact below
    rw [add] at added
    split at added
    · rename_i n rounded
      rw [rounded]
      rfl
    · cases added
  · exact (addFar far).1

theorem addCents {sum : Money} (added : a.add b = .ok sum) : sum.cents = a.cents + b.cents := by
  rcases Nat.lt_or_ge (a.cents + b.cents) (10 ^ Decimal.precision) with below | far
  · obtain ⟨exact, added', cents⟩ := addExact below
    cases added'.symm.trans added
    exact cents
  · cases (addFar far).2.symm.trans added

theorem totalCents (first : Money) (rest : List Money) :
    (first.cents + (rest.map Money.cents).sum < 10 ^ Decimal.precision ∧
      ∃ total, first.total rest = .ok total ∧ total.cents = first.cents + (rest.map Money.cents).sum) ∨
    (10 ^ Decimal.precision ≤ first.cents + (rest.map Money.cents).sum ∧ first.total rest = .error .outOfRange) := by
  -- What has been added so far is no more than all of it, so a sum in range in the end was so on the way.
  induction rest generalizing first with
  | nil => exact .inl ⟨first.centsBelow, first, rfl, rfl⟩
  | cons next rest ih =>
    rw [List.map_cons, List.sum_cons, ← Nat.add_assoc]
    rcases Nat.lt_or_ge (first.cents + next.cents) (10 ^ Decimal.precision) with below | far
    · obtain ⟨sum, added, cents⟩ := addExact below
      have goesOn : first.total (next :: rest) = sum.total rest := by
        rw [total, added]
        rfl
      rw [goesOn, ← cents]
      exact ih sum
    · refine .inr ⟨by omega, ?_⟩
      rw [total, (addFar far).2]
      rfl

theorem valueOfCents (m : Money) : m.amount.value = (m.cents : ℚ) / 100 :=
  m.amountWorth

theorem sumOfCents (amounts : List Money) :
    (amounts.map fun m => m.amount.value).sum = ((amounts.map Money.cents).sum : ℚ) / 100 := by
  induction amounts with
  | nil => simp
  | cons m rest ih =>
    rw [List.map_cons, List.map_cons, List.sum_cons, List.sum_cons, ih, valueOfCents, Nat.cast_add, add_div]

end Money

/-- Amounts are added up from left to right. In whatever order they come, either all of them come to their exact
sum, which is less than 10 ^ 26, or the sum is not and is refused as out of range. No step rounds away
anything but zeros in a sum that it gives, and none has a sum that is too great to be rounded. -/
theorem sumInAnyOrder (first : Money) (rest : List Money) :
    let sum : ℚ := ((first :: rest).map fun m => m.amount.value).sum
    (∀ a b : Money, (a.amount.add? b.amount).isSome = true ∧
      ∀ m, a.add b = .ok m → m.amount.value = a.amount.value + b.amount.value) ∧
    ((sum < 10 ^ 26 ∧ ∀ other others, (other :: others).Perm (first :: rest) →
        ∃ total, other.total others = .ok total ∧ total.amount.value = sum) ∨
      (10 ^ 26 ≤ sum ∧ ∀ other others, (other :: others).Perm (first :: rest) →
        other.total others = .error .outOfRange)) := by
  intro sum
  have limit : ((10 ^ Decimal.precision : Nat) : ℚ) = 10 ^ 26 * 100 := by
    rw [Decimal.precision]
    norm_num
  have worth : sum = (((first :: rest).map Money.cents).sum : ℚ) / 100 := Money.sumOfCents _
  have reordered {other : Money} {others : List Money} (order : (other :: others).Perm (first :: rest)) :
      other.cents + (others.map Money.cents).sum = ((first :: rest).map Money.cents).sum :=
    (order.map Money.cents).sum_eq
  refine ⟨fun a b => ⟨Money.addRounded a b, fun m added => ?_⟩, ?_⟩
  · rw [Money.valueOfCents, Money.addCents added, Nat.cast_add, add_div, Money.valueOfCents, Money.valueOfCents]
  rcases Nat.lt_or_ge ((first :: rest).map Money.cents).sum (10 ^ Decimal.precision) with below | far
  · refine .inl ⟨?_, fun other others order => ?_⟩
    · rw [worth, div_lt_iff₀ (by norm_num), ← limit]
      exact Nat.cast_lt.mpr below
    · obtain ⟨_, total, added, cents⟩ | ⟨far, _⟩ := Money.totalCents other others
      · refine ⟨total, added, ?_⟩
        rw [Money.valueOfCents, cents, reordered order, worth]
      · rw [reordered order] at far
        omega
  · refine .inr ⟨?_, fun other others order => ?_⟩
    · rw [worth, le_div_iff₀ (by norm_num), ← limit]
      exact Nat.cast_le.mpr far
    · obtain ⟨below, _⟩ | ⟨_, refused⟩ := Money.totalCents other others
      · rw [reordered order] at below
        omega
      · exact refused

/- One amount is written without places, and one with zeros far beyond the cents. In another order too they come
to one cent less than 10 ^ 26, and with that cent they are refused. -/
theorem sumInAnyOrderToTheCent :
    let great : Money := ⟨⟨false, 5, 25⟩, by decide +kernel⟩
    let long : Money := ⟨⟨false, 10 ^ 36, -37⟩, by decide +kernel⟩
    let most : Money := ⟨⟨false, 4999999999999999999999999989, -2⟩, by decide +kernel⟩
    let cent : Money := ⟨⟨false, 1, -2⟩, by decide +kernel⟩
    [long, most, great].Perm [great, long, most] ∧
      (∃ total, long.total [most, great] = .ok total ∧ total.amount.value = 10 ^ 26 - 1 / 100) ∧
      [cent, long, most, great].Perm [great, long, most, cent] ∧
      cent.total [long, most, great] = .error .outOfRange := by
  intro great long most cent
  have order : [long, most, great].Perm [great, long, most] := by decide +kernel
  have order' : [cent, long, most, great].Perm [great, long, most, cent] := by decide +kernel
  have value : ([great, long, most].map fun m => m.amount.value).sum = 10 ^ 26 - 1 / 100 := by
    norm_num [great, long, most, Decimal.Finite.value, Decimal.Finite.size]
  have value' : ([great, long, most, cent].map fun m => m.amount.value).sum = 10 ^ 26 := by
    norm_num [great, long, most, cent, Decimal.Finite.value, Decimal.Finite.size]
  refine ⟨order, ?_, order', ?_⟩
  · obtain ⟨_, ⟨_, sums⟩ | ⟨far, _⟩⟩ := sumInAnyOrder great [long, most]
    · exact value ▸ sums long [most, great] order
    · rw [value] at far
      norm_num at far
  · obtain ⟨_, ⟨below, _⟩ | ⟨_, refuses⟩⟩ := sumInAnyOrder great [long, most, cent]
    · rw [value'] at below
      norm_num at below
    · exact refuses cent [long, most, great] order'

end BoxOffice
