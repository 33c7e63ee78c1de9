import BoxOffice.Proofs.Decimal.Value

/-! Sums of decimals that stand for whole hundredths. They are whole hundredths again, and as long as they
stay below 10 ^ 26 nothing is rounded away. -/
namespace BoxOffice.Decimal
namespace Finite
variable {n m low high a b : Finite} {c x y unit : Int}

def Worth (n : Finite) (cents : Int) : Prop :=
  n.value = cents / 100

theorem worthSize (worth : n.Worth c) : n.size = (c.natAbs : ℚ) / 100 := by
  rw [← absValue, worth, abs_div, ← Int.cast_abs, Int.abs_eq_natAbs]
  norm_num

theorem worthAdjusted (worth : n.Worth c) (some : n.isZero = false) : -2 ≤ n.adjusted := by
  have size := worthSize worth
  have positive := sizePositive some
  refine adjustedFrom some ?_
  have one : 1 ≤ c.natAbs := by
    by_contra none
    have : c.natAbs = 0 := by omega
    rw [size, this] at positive
    norm_num at positive
  have least : (1 : ℚ) ≤ c.natAbs := by exact_mod_cast one
  have power : (10 : ℚ) ^ (-2 : Int) = 1 / 100 := by norm_num
  rw [size, power]
  exact div_le_div_of_nonneg_right least (by norm_num)

theorem worthPositive (worth : n.Worth c) (some : n.isZero = false) (above : 0 ≤ c) : n.negative = false := by
  refine nonnegPlus ?_ some
  rw [worth]
  positivity

theorem worthCoarse (n : Finite) (coarse : -2 ≤ n.exponent) : ∃ c, n.Worth c ∧ (n.negative = false → 0 ≤ c) := by
  refine ⟨n.count (-2), ?_, fun sign => ?_⟩
  · rw [Worth, ← countValue coarse]
    norm_num
    ring
  · simp [count, sign]

theorem besideCases (low high : Finite) : low.beside high = low ∨ ∃ unit : Int, high.isZero = false ∧
    unit < high.exponent ∧ unit ≤ high.adjusted - 29 ∧ low.adjusted < unit ∧
    low.beside high = ⟨low.negative, if low.isZero then 0 else 1, unit⟩ := by
  unfold beside
  dsimp only
  split
  · rename_i far
    obtain ⟨some, far⟩ := Bool.and_eq_true_iff.mp far
    refine .inr ⟨_, by simpa using some, by omega, ?_, by simpa using far, rfl⟩
    rw [adjusted, precision]
    omega
  · exact .inl rfl

theorem besideExponent (le : low.exponent ≤ high.exponent) : (low.beside high).exponent ≤ high.exponent := by
  obtain same | ⟨unit, _, under, _, _, is⟩ := besideCases low high
  · rw [same]
    exact le
  · rw [is]
    exact under.le

theorem totalValue (total e : Int) (sign : Bool) :
    value ⟨if total = 0 then sign else decide (total < 0), total.natAbs, e⟩ = total * 10 ^ e := by
  unfold value size
  dsimp only
  rcases lt_trichotomy total 0 with below | rfl | above
  · rw [if_neg below.ne, decide_eq_true below, if_pos rfl, Nat.cast_natAbs, abs_of_neg below]
    push_cast
    ring
  · simp
  · rw [if_neg above.ne', decide_eq_false (by omega), if_neg (by simp), Nat.cast_natAbs, abs_of_pos above]

theorem joinValue (le : low.exponent ≤ high.exponent) :
    (join high low).value = high.value + (low.beside high).value := by
  rw [join, totalValue]
  push_cast
  rw [add_mul, countValue (besideExponent le), countValue le_rfl]

theorem besideValue (worth : low.Worth c) (below : high.size < 10 ^ (26 : Int)) :
    (low.beside high).value = low.value := by
  obtain same | ⟨unit, some, _, under, far, is⟩ := besideCases low high
  · rw [same]
  · have top := adjustedBelow some below
    cases none : low.isZero with
    | true =>
      have zero : low.value = 0 := by rw [value, sizeZero none, neg_zero, ite_self]
      rw [is, none, zero]
      simp [value, size]
    | false =>
      have := worthAdjusted worth none
      omega

theorem besideWorth (worth : low.Worth c) (high : Finite) :
    ∃ d, (low.beside high).Worth d ∧ (0 ≤ c → 0 ≤ d) := by
  obtain same | ⟨unit, some, _, _, far, is⟩ := besideCases low high
  · rw [same]
    exact ⟨c, worth, fun above => above⟩
  · cases none : low.isZero with
    | true =>
      refine ⟨0, ?_, fun _ => le_rfl⟩
      rw [is, none, Worth]
      simp [value, size]
    | false =>
      have place := worthAdjusted worth none
      obtain ⟨d, worth', sign⟩ := worthCoarse ⟨low.negative, 1, unit⟩ (by dsimp only; omega)
      have plus (above : 0 ≤ c) : low.negative = false := worthPositive worth none above
      rw [is, none]
      exact ⟨d, worth', fun above => sign (plus above)⟩

theorem roundDivExact (k places : Nat) : roundDiv (k * 10 ^ places) places = k := by
  have unit : 0 < 10 ^ places := Nat.pow_pos (by decide)
  have below : k * 10 ^ places / 10 ^ places = k := Nat.mul_div_cancel k unit
  have none : k * 10 ^ places % 10 ^ places = 0 := Nat.mul_mod_left ..
  unfold roundDiv
  split
  · rename_i few
    by_contra some
    have one : 1 ≤ k := by omega
    have less := (digitCountLe (by omega)).mp few.le
    have := Nat.mul_le_mul_right (10 ^ places) one
    omega
  · simp only [below, none, Nat.mul_zero, unit, if_true]

theorem coefficientWhole (worth : n.Worth c) (fine : n.exponent ≤ unit) (coarse : unit ≤ -2) :
    n.coefficient = c.natAbs * 10 ^ (-2 - unit).toNat * 10 ^ (unit - n.exponent).toNat := by
  have size := worthSize worth
  have power : (0 : ℚ) < 10 ^ n.exponent := by positivity
  have cents : (1 : ℚ) / 100 = ((10 ^ (-2 - unit).toNat : Nat) : ℚ) * (((10 ^ (unit - n.exponent).toNat : Nat) : ℚ) * 10 ^ n.exponent) := by
    rw [powTen fine, powTen coarse]
    norm_num
  have all : (n.coefficient : ℚ) * 10 ^ n.exponent =
      ((c.natAbs * 10 ^ (-2 - unit).toNat * 10 ^ (unit - n.exponent).toNat : Nat) : ℚ) * 10 ^ n.exponent := by
    rw [Finite.size, div_eq_mul_one_div, cents] at size
    rw [size, Nat.cast_mul, Nat.cast_mul]
    ring
  exact_mod_cast mul_right_cancel₀ power.ne' all

theorem keptExact (worth : n.Worth c) (some : n.isZero = false) (fine : n.exponent ≤ unit)
    (coarse : unit ≤ -2) (room : n.adjusted + 1 - precision ≤ unit) :
    roundDiv n.coefficient (unit - n.exponent).toNat < 10 ^ precision ∧
      value ⟨n.negative, roundDiv n.coefficient (unit - n.exponent).toNat, unit⟩ = n.value := by
  have whole := coefficientWhole worth fine coarse
  have kept : roundDiv n.coefficient (unit - n.exponent).toNat = c.natAbs * 10 ^ (-2 - unit).toNat := by
    rw [whole, roundDivExact]
  have size : ((c.natAbs * 10 ^ (-2 - unit).toNat : Nat) : ℚ) * 10 ^ unit = n.size := by
    rw [Nat.cast_mul, mul_assoc, powTen coarse, worthSize worth, div_eq_mul_one_div]
    norm_num
  rw [kept]
  constructor
  · have power : (0 : ℚ) < 10 ^ unit := by positivity
    have less : ((c.natAbs * 10 ^ (-2 - unit).toNat : Nat) : ℚ) * 10 ^ unit <
        ((10 ^ precision : Nat) : ℚ) * 10 ^ unit :=
      calc
        _ = n.size := size
        _ < 10 ^ (n.adjusted + 1) := (sizeBounds some).2
        _ ≤ 10 ^ ((precision : Int) + unit) := zpow_le_zpow_right₀ (by norm_num) (by omega)
        _ = _ := by rw [zpow_add₀ (by norm_num), zpow_natCast, Nat.cast_pow, Nat.cast_ofNat]
    exact_mod_cast lt_of_mul_lt_mul_right less power.le
  · rw [value, value, ← size]
    rfl

theorem roundedExact (worth : n.Worth c) (below : n.size < 10 ^ (26 : Int)) :
    ∃ m, n.rounded? = some m ∧ m.value = n.value := by
  unfold rounded?
  cases none : n.isZero with
  | true =>
    refine ⟨_, if_pos rfl, ?_⟩
    rw [value, value, sizeZero none, sizeZero (by exact none)]
  | false =>
    have top := adjustedBelow none below
    have digits : n.exponent + digitCount n.coefficient - precision = n.adjusted + 1 - precision := by
      rw [adjusted]
      omega
    rw [if_neg (by simp), digits]
    generalize place : max (n.adjusted + 1 - precision) leastExponent = unit
    -- The leading digit stands below 10 ^ 26, so 28 digits reach down to hundredths.
    have coarse : unit ≤ -2 := by
      rw [← place, precision, leastExponent]
      omega
    have room : n.adjusted + 1 - precision ≤ unit := place ▸ le_max_left _ _
    rw [if_neg (by rw [topExponent, precision]; omega)]
    split
    · rename_i fine
      obtain ⟨few, same⟩ := keptExact worth none fine.le coarse room
      exact ⟨_, if_pos few, same⟩
    · exact ⟨n, rfl, rfl⟩

theorem roundedWorth (worth : n.Worth c) (rounded : n.rounded? = some m) :
    ∃ d, m.Worth d ∧ (0 ≤ c → 0 ≤ d) := by
  unfold rounded? at rounded
  cases none : n.isZero with
  | true =>
    rw [none, if_pos rfl] at rounded
    cases rounded
    refine ⟨0, ?_, fun _ => le_rfl⟩
    rw [Worth, value, sizeZero (by exact none)]
    norm_num
  | false =>
    have digits : n.exponent + digitCount n.coefficient - precision = n.adjusted + 1 - precision := by
      rw [adjusted]
      omega
    rw [none, if_neg (by simp), digits] at rounded
    generalize place : max (n.adjusted + 1 - precision) leastExponent = unit at rounded
    have room : n.adjusted + 1 - precision ≤ unit := place ▸ le_max_left _ _
    have coarser (k : Nat) {e : Int} (coarse : -2 ≤ e) :
        ∃ d, Worth ⟨n.negative, k, e⟩ d ∧ (0 ≤ c → 0 ≤ d) := by
      obtain ⟨d, worth', sign⟩ := worthCoarse ⟨n.negative, k, e⟩ coarse
      have plus (above : 0 ≤ c) : n.negative = false := worthPositive worth none above
      exact ⟨d, worth', fun above => sign (plus above)⟩
    dsimp only at rounded
    split at rounded
    · cases rounded
    split at rounded
    · rename_i fine
      by_cases coarse : unit ≤ -2
      · obtain ⟨few, same⟩ := keptExact worth none fine.le coarse room
        rw [if_pos few] at rounded
        cases rounded
        exact ⟨c, same.trans worth, fun above => above⟩
      · split at rounded
        · cases rounded
          exact coarser _ (by omega)
        · split at rounded <;> cases rounded
          exact coarser _ (by omega)
    · cases rounded
      exact ⟨c, worth, fun above => above⟩

theorem besideBelow (worth : low.Worth x) (worth' : high.Worth y) (le : low.exponent ≤ high.exponent) :
    ∃ z, (join high low).Worth z ∧ (0 ≤ x → 0 ≤ y → 0 ≤ z) := by
  obtain ⟨d, beside, sign⟩ := besideWorth worth high
  refine ⟨y + d, ?_, fun low high => add_nonneg high (sign low)⟩
  rw [Worth, joinValue le, worth', beside]
  push_cast
  ring

theorem sumWorth (worth : a.Worth x) (worth' : b.Worth y) :
    ∃ z, (sum a b).Worth z ∧ (0 ≤ x → 0 ≤ y → 0 ≤ z) := by
  unfold sum
  split
  · exact besideBelow worth worth' (by omega)
  · obtain ⟨z, made, sign⟩ := besideBelow worth' worth (by omega)
    exact ⟨z, made, fun first second => sign second first⟩

theorem sumValue (worth : a.Worth x) (worth' : b.Worth y) (ha : a.size < 10 ^ (26 : Int))
    (hb : b.size < 10 ^ (26 : Int)) : (sum a b).value = a.value + b.value := by
  unfold sum
  split
  · rw [joinValue (by omega), besideValue worth hb, add_comm]
  · rw [joinValue (by omega), besideValue worth' ha]

theorem precisionValue : ((10 ^ precision : Nat) : ℚ) = 10 ^ 26 * 100 := by
  rw [precision]
  norm_num

theorem hundredthsBelow {cents : Nat} : (cents : ℚ) / 100 < 10 ^ 26 ↔ cents < 10 ^ precision := by
  rw [div_lt_iff₀ (by norm_num), ← precisionValue, Nat.cast_lt]

theorem worthBelow (worth : n.Worth c) (below : c.natAbs < 10 ^ precision) : n.size < 10 ^ (26 : Int) := by
  rw [worthSize worth]
  exact_mod_cast hundredthsBelow.mpr below

theorem centsWorth (worth : n.Worth c) (below : c.natAbs < 10 ^ precision) : n.cents? = some c.natAbs := by
  have size := worthSize worth
  unfold cents?
  cases none : n.isZero with
  | true =>
    rw [sizeZero none] at size
    have zero : (c.natAbs : ℚ) = 0 := by linarith
    simp [Nat.cast_eq_zero.mp zero]
  | false =>
    have top := adjustedBelow none (worthBelow worth below)
    have digits : ¬(precision : Int) < digitCount n.coefficient + (n.exponent + 2) := by
      unfold adjusted at top
      rw [precision]
      omega
    simp only [Bool.false_eq_true, if_false, if_neg digits]
    split
    · rename_i coarse
      have whole := magnitudeSize (show -2 ≤ n.exponent by omega)
      have same : (n.magnitude (-2) : ℚ) = c.natAbs := by
        have unit : (10 : ℚ) ^ (-2 : Int) = 1 / 100 := by norm_num
        rw [size, unit] at whole
        linarith
      have exact := Nat.cast_injective same
      rw [magnitude, none, if_neg (by simp), Int.sub_neg] at exact
      exact congrArg some exact
    · rename_i fine
      have whole := @coefficientWhole n c (-2) worth (by omega) le_rfl
      have places : (-(n.exponent + 2)).toNat = (-2 - n.exponent).toNat := by omega
      have kept : roundDiv n.coefficient (-(n.exponent + 2)).toNat = c.natAbs := by
        rw [whole, places, roundDivExact]
        simp
      simp only [kept, if_pos below]

end Finite

def Worth (d : Decimal) (cents : Int) : Prop :=
  ∃ n, d = .finite n ∧ n.Worth cents

variable {a b : Decimal} {x y : Int}

theorem zeroWorth : zero.Worth 0 :=
  ⟨.zero, rfl, by simp [Finite.Worth, Finite.value, Finite.size, Finite.zero]⟩

theorem addFinite (n m : Finite) : add (.finite n) (.finite m) =
    match n.add? m with
    | some sum => .ok (.finite sum)
    | none => .error .overflow := rfl

theorem addExact (ha : a.Worth x) (hb : b.Worth y) (below : x.natAbs < 10 ^ precision)
    (below' : y.natAbs < 10 ^ precision) (within : (x + y).natAbs < 10 ^ precision) :
    ∃ sum, a.add b = .ok sum ∧ sum.Worth (x + y) := by
  obtain ⟨n, rfl, worth⟩ := ha
  obtain ⟨m, rfl, worth'⟩ := hb
  have total : (n.sum m).Worth (x + y) := by
    rw [Finite.Worth, Finite.sumValue worth worth' (Finite.worthBelow worth below)
      (Finite.worthBelow worth' below'), worth, worth']
    push_cast
    ring
  obtain ⟨sum, rounded, same⟩ := Finite.roundedExact total (Finite.worthBelow total within)
  refine ⟨.finite sum, ?_, sum, rfl, same.trans total⟩
  rw [addFinite, Finite.add?, rounded]

theorem negateWorth (ha : a.Worth x) : a.negate.Worth (-x) := by
  obtain ⟨n, rfl, worth⟩ := ha
  refine ⟨n.negate, rfl, ?_⟩
  rw [Finite.Worth, Finite.negateValue, worth]
  push_cast
  ring

theorem subExact (ha : a.Worth x) (hb : b.Worth y) (below : x.natAbs < 10 ^ precision)
    (below' : y.natAbs < 10 ^ precision) (within : (x - y).natAbs < 10 ^ precision) :
    ∃ left, a.sub b = .ok left ∧ left.Worth (x - y) :=
  addExact ha (negateWorth hb) below (by rwa [Int.natAbs_neg]) within

theorem addWorth {sum : Decimal} (ha : a.Worth x) (hb : b.Worth y) (added : a.add b = .ok sum) :
    ∃ z, sum.Worth z ∧ (0 ≤ x → 0 ≤ y → 0 ≤ z) := by
  obtain ⟨n, rfl, worth⟩ := ha
  obtain ⟨m, rfl, worth'⟩ := hb
  obtain ⟨z, total, sign⟩ := Finite.sumWorth worth worth'
  rw [addFinite, Finite.add?] at added
  split at added
  · rename_i s rounded
    cases added
    obtain ⟨d, left, sign'⟩ := Finite.roundedWorth total rounded
    exact ⟨d, ⟨s, rfl, left⟩, fun first second => sign' (sign first second)⟩
  · cases added

theorem orderWorth (ha : a.Worth x) (hb : b.Worth y) : a.order b = .ok (compare x y) := by
  obtain ⟨n, rfl, worth⟩ := ha
  obtain ⟨m, rfl, worth'⟩ := hb
  have same : n.order m = compare x y := by
    rw [Finite.orderValue, worth, worth']
    rcases lt_trichotomy x y with less | rfl | more
    · rw [compare_lt_iff_lt.mpr less, compare_lt_iff_lt]
      exact div_lt_div_of_pos_right (by exact_mod_cast less) (by norm_num)
    · rw [compare_eq_iff_eq.mpr rfl, compare_eq_iff_eq.mpr rfl]
    · rw [compare_gt_iff_gt.mpr more, compare_gt_iff_gt]
      exact div_lt_div_of_pos_right (by exact_mod_cast more) (by norm_num)
  exact congrArg _ same

end BoxOffice.Decimal
