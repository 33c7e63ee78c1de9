import BoxOffice.Proofs.Decimal.Sum

/-! The sign of a sum. However much of it is rounded away, a sum of decimals that is not negative does not
become so: what stands for a summand that is out of sight is far less than the other one. -/
namespace BoxOffice.Decimal
namespace Finite
variable {n m low high a b : Finite}

theorem plusNonneg (plus : n.negative = false) : 0 ≤ n.value := by
  rw [value, plus]
  exact sizeNonneg n

theorem sizeBelowUnit {unit : Int} (far : n.adjusted < unit) : n.size ≤ 10 ^ unit := by
  cases none : n.isZero with
  | true =>
    rw [sizeZero none]
    positivity
  | false => exact (sizeBounds none).2.le.trans (zpow_le_zpow_right₀ (by norm_num) far)

theorem joinNonneg (le : low.exponent ≤ high.exponent) (nonneg : 0 ≤ high.value + low.value) :
    0 ≤ (join high low).value := by
  rw [joinValue le]
  obtain same | ⟨unit, some, _, under, far, is⟩ := besideCases low high
  · rwa [same]
  · have small := sizeBelowUnit far
    have large : (10 : ℚ) ^ unit < high.size :=
      (zpow_lt_zpow_right₀ (by norm_num) (by omega)).trans_le (sizeBounds some).1
    have plus : high.value = high.size := by
      cases signed high with
      | zero none => simp [none] at some
      | below _ _ _ is =>
        have := (le_abs_self low.value).trans_eq (absValue low)
        linarith
      | above _ _ _ is => exact is
    have unseen : (low.beside high).size ≤ 10 ^ unit := by
      rw [is, size]
      split <;> simp
      positivity
    have := neg_abs_le (low.beside high).value
    rw [absValue] at this
    linarith

theorem sumNonneg (nonneg : 0 ≤ a.value + b.value) : 0 ≤ (sum a b).value := by
  unfold sum
  split
  · rw [add_comm] at nonneg
    exact joinNonneg (by omega) nonneg
  · exact joinNonneg (by omega) nonneg

theorem roundedNonneg (nonneg : 0 ≤ n.value) (rounded : n.rounded? = some m) : 0 ≤ m.value := by
  unfold rounded? at rounded
  cases none : n.isZero with
  | true =>
    rw [none, if_pos rfl] at rounded
    cases rounded
    rw [value, sizeZero (by exact none)]
    simp
  | false =>
    have plus := nonnegPlus nonneg none
    rw [none, if_neg (by simp)] at rounded
    dsimp only at rounded
    -- Every number that may come of it has the sign that there was.
    split at rounded
    · cases rounded
    split at rounded
    · split at rounded
      · cases rounded
        exact plusNonneg plus
      · split at rounded <;> cases rounded
        exact plusNonneg plus
    · cases rounded
      exact nonneg

end Finite

theorem addNonneg {n m : Finite} {sum : Decimal} (nonneg : 0 ≤ n.value + m.value)
    (added : add (.finite n) (.finite m) = .ok sum) : ∃ k, sum = .finite k ∧ 0 ≤ k.value := by
  rw [addFinite, Finite.add?] at added
  split at added
  · rename_i k rounded
    cases added
    exact ⟨k, rfl, Finite.roundedNonneg (Finite.sumNonneg nonneg) rounded⟩
  · cases added

end BoxOffice.Decimal
