import Mathlib
import BoxOffice.Decimal.Basic

/-! The numbers that decimals stand for. The order of decimals is the order of these numbers, and a sum is
theirs as long as nothing of it is rounded away. -/
namespace BoxOffice.Decimal.Finite
variable {n : Finite} {unit : Int}

def size (n : Finite) : ℚ :=
  n.coefficient * 10 ^ n.exponent

def value (n : Finite) : ℚ :=
  if n.negative then -n.size else n.size

theorem powTen {low high : Int} (le : low ≤ high) :
    ((10 ^ (high - low).toNat : Nat) : ℚ) * 10 ^ low = 10 ^ high := by
  have up : ((high - low).toNat : Int) = high - low := Int.toNat_of_nonneg (by omega)
  rw [Nat.cast_pow, Nat.cast_ofNat, ← zpow_natCast, up, ← zpow_add₀ (by norm_num), Int.sub_add_cancel]

theorem sizeNonneg (n : Finite) : 0 ≤ n.size := by
  unfold size
  positivity

theorem absValue (n : Finite) : |n.value| = n.size := by
  unfold value
  split
  · rw [abs_neg, abs_of_nonneg (sizeNonneg n)]
  · rw [abs_of_nonneg (sizeNonneg n)]

theorem negateValue (n : Finite) : n.negate.value = -n.value := by
  unfold value negate
  cases n.negative <;> simp [size]

theorem sizeZero (none : n.isZero = true) : n.size = 0 := by
  simp [size, beq_iff_eq.mp none]

theorem magnitudeSize (le : unit ≤ n.exponent) : (n.magnitude unit : ℚ) * 10 ^ unit = n.size := by
  unfold magnitude
  split
  · rename_i none
    simp [sizeZero none]
  · rw [Nat.cast_mul, mul_assoc, powTen le, size]

theorem countValue (le : unit ≤ n.exponent) : (n.count unit : ℚ) * 10 ^ unit = n.value := by
  have size := magnitudeSize le
  unfold count value
  split
  · rw [← size]
    push_cast
    ring
  · exact size

theorem leadingDigit {k : Nat} (some : 0 < k) : 10 ^ (digitCount k - 1) ≤ k ∧ k < 10 ^ digitCount k := by
  have positive := digitCountPos k
  refine ⟨?_, (digitCountLe positive).mp le_rfl⟩
  rcases Nat.eq_zero_or_pos (digitCount k - 1) with single | many
  · rw [single]
    exact some
  · by_contra small
    have := (digitCountLe many).mpr (Nat.lt_of_not_le small)
    omega

theorem sizeBounds (some : n.isZero = false) :
    (10 : ℚ) ^ n.adjusted ≤ n.size ∧ n.size < 10 ^ (n.adjusted + 1) := by
  have positive : 0 < n.coefficient := Nat.pos_of_ne_zero (by simpa [isZero] using some)
  obtain ⟨low, high⟩ := leadingDigit positive
  have digits := digitCountPos n.coefficient
  have power : (0 : ℚ) < 10 ^ n.exponent := by positivity
  have lead : (10 : ℚ) ^ n.adjusted = ((10 ^ (digitCount n.coefficient - 1) : Nat) : ℚ) * 10 ^ n.exponent := by
    rw [Nat.cast_pow, Nat.cast_ofNat, ← zpow_natCast, ← zpow_add₀ (by norm_num), adjusted]
    congr 1
    omega
  have next : (10 : ℚ) ^ (n.adjusted + 1) = ((10 ^ digitCount n.coefficient : Nat) : ℚ) * 10 ^ n.exponent := by
    rw [Nat.cast_pow, Nat.cast_ofNat, ← zpow_natCast, ← zpow_add₀ (by norm_num), adjusted]
    congr 1
    omega
  rw [lead, next, size]
  constructor
  · exact mul_le_mul_of_nonneg_right (by exact_mod_cast low) power.le
  · exact mul_lt_mul_of_pos_right (by exact_mod_cast high) power

theorem sizePositive (some : n.isZero = false) : 0 < n.size :=
  lt_of_lt_of_le (by positivity) (sizeBounds some).1

theorem adjustedBelow {e : Int} (some : n.isZero = false) (below : n.size < 10 ^ e) : n.adjusted < e :=
  (zpow_lt_zpow_iff_right₀ (by norm_num)).mp ((sizeBounds some).1.trans_lt below)

theorem adjustedFrom {e : Int} (some : n.isZero = false) (above : (10 : ℚ) ^ e ≤ n.size) : e ≤ n.adjusted :=
  Int.lt_add_one_iff.mp
    ((zpow_lt_zpow_iff_right₀ (by norm_num)).mp (above.trans_lt (sizeBounds some).2))

theorem compareScaled {k : ℚ} (positive : 0 < k) (x y : Nat) : compare (x * k : ℚ) (y * k) = compare x y := by
  rcases lt_trichotomy x y with less | rfl | more
  · rw [compare_lt_iff_lt.mpr less, compare_lt_iff_lt]
    exact mul_lt_mul_of_pos_right (by exact_mod_cast less) positive
  · rw [compare_eq_iff_eq.mpr rfl, compare_eq_iff_eq.mpr rfl]
  · rw [compare_gt_iff_gt.mpr more, compare_gt_iff_gt]
    exact mul_lt_mul_of_pos_right (by exact_mod_cast more) positive

theorem sizeBelow {a b : Finite} (ha : a.isZero = false) (hb : b.isZero = false)
    (less : a.adjusted < b.adjusted) : a.size < b.size :=
  calc
    a.size < 10 ^ (a.adjusted + 1) := (sizeBounds ha).2
    _ ≤ 10 ^ b.adjusted := zpow_le_zpow_right₀ (by norm_num) less
    _ ≤ b.size := (sizeBounds hb).1

theorem compareSizeValue {a b : Finite} (ha : a.isZero = false) (hb : b.isZero = false) :
    a.compareSize b = compare a.size b.size := by
  unfold compareSize
  rcases lt_trichotomy a.adjusted b.adjusted with less | same | more
  · rw [compare_lt_iff_lt.mpr less, compare_lt_iff_lt.mpr (sizeBelow ha hb less)]
    rfl
  · rw [compare_eq_iff_eq.mpr same, ← magnitudeSize (min_le_left a.exponent b.exponent),
      ← magnitudeSize (min_le_right a.exponent b.exponent), compareScaled (by positivity)]
    rfl
  · rw [compare_gt_iff_gt.mpr more, compare_gt_iff_gt.mpr (sizeBelow hb ha more)]
    rfl

theorem compareNeg (x y : ℚ) : compare (-x) (-y) = compare y x := by
  rcases lt_trichotomy y x with less | rfl | more
  · rw [compare_lt_iff_lt.mpr less, compare_lt_iff_lt.mpr (neg_lt_neg less)]
  · rw [compare_eq_iff_eq.mpr rfl, compare_eq_iff_eq.mpr rfl]
  · rw [compare_gt_iff_gt.mpr more, compare_gt_iff_gt.mpr (neg_lt_neg more)]

inductive Sign (n : Finite) : Prop
  | zero (none : n.isZero = true) (signum : n.signum = 0) (value : n.value = 0)
  | below (some : n.isZero = false) (negative : n.negative = true) (signum : n.signum = -1)
      (value : n.value = -n.size)
  | above (some : n.isZero = false) (negative : n.negative = false) (signum : n.signum = 1)
      (value : n.value = n.size)

theorem signed (n : Finite) : n.Sign := by
  cases none : n.isZero with
  | true =>
    refine .zero none (by simp [signum, none]) ?_
    unfold value
    rw [sizeZero none, neg_zero, ite_self]
  | false =>
    cases negative : n.negative with
    | true => exact .below none negative (by simp [signum, none, negative]) (by simp [value, negative])
    | false => exact .above none negative (by simp [signum, none, negative]) (by simp [value, negative])

theorem nonnegPlus (nonneg : 0 ≤ n.value) (some : n.isZero = false) : n.negative = false := by
  cases signed n with
  | zero none => simp [none] at some
  | below _ _ _ is => linarith [sizePositive some]
  | above _ plus => exact plus

theorem orderValue (a b : Finite) : a.order b = compare a.value b.value := by
  unfold order
  cases signed a with
  | zero none sign is =>
    rw [sign, is, if_pos none]
    cases signed b with
    | zero none' sign' is' =>
      rw [sign', is']
      rfl
    | below some' _ sign' is' =>
      rw [sign', is', compare_gt_iff_gt.mpr (neg_neg_of_pos (sizePositive some'))]
      rfl
    | above some' _ sign' is' =>
      rw [sign', is', compare_lt_iff_lt.mpr (sizePositive some')]
      rfl
  | below some negative sign is =>
    have positive := sizePositive some
    rw [sign, is, if_neg (by simp [some]), if_pos negative]
    cases signed b with
    | zero none' sign' is' =>
      rw [sign', is', compare_lt_iff_lt.mpr (neg_neg_of_pos positive)]
      rfl
    | below some' _ sign' is' =>
      rw [sign', is', compareNeg, compareSizeValue some' some]
      rfl
    | above some' _ sign' is' =>
      have less : -a.size < b.size := by linarith [sizePositive some']
      rw [sign', is', compare_lt_iff_lt.mpr less]
      rfl
  | above some negative sign is =>
    have positive := sizePositive some
    rw [sign, is, if_neg (by simp [some]), if_neg (by simp [negative])]
    cases signed b with
    | zero none' sign' is' =>
      rw [sign', is', compare_gt_iff_gt.mpr positive]
      rfl
    | below some' _ sign' is' =>
      have more : -b.size < a.size := by linarith [sizePositive some']
      rw [sign', is', compare_gt_iff_gt.mpr more]
      rfl
    | above some' _ sign' is' =>
      rw [sign', is', compareSizeValue some some']
      rfl

end BoxOffice.Decimal.Finite
