import BoxOffice.Money
import BoxOffice.Proofs.Decimal.Sum
import BoxOffice.Proofs.Funds

/-! What the balances of a book are worth in hundredths, before and after a transfer. Where all of one
currency stays below 10 ^ 26, a transfer is exact, and what has moved can be moved back. -/
namespace BoxOffice

theorem Decimal.Finite.ofCentsSize (negative : Bool) (cents : Nat) : (ofCents negative cents).size = cents / 100 := by
  rw [size, ofCents]
  norm_num
  ring

theorem Money.worth (m : Money) : m.toDecimal.Worth m.cents := by
  have sound := m.sound
  unfold fault? at sound
  rw [m.notNegative, if_neg (by simp), m.centsOfMoney] at sound
  dsimp only at sound
  split at sound
  · rename_i same
    rw [Decimal.Finite.orderValue, compare_eq_iff_eq] at same
    refine ⟨m.amount, rfl, same.trans ?_⟩
    have sign := m.centsNotNegative
    cases Decimal.Finite.signed (.ofCents m.amount.negative m.cents) with
    | zero none _ value =>
      have nothing : m.cents = 0 := beq_iff_eq.mp none
      rw [value, nothing]
      norm_num
    | below some negative =>
      rw [Decimal.Finite.isNegative, negative, some] at sign
      cases sign
    | above _ _ _ value =>
      rw [value, Decimal.Finite.ofCentsSize]
      norm_num
  · cases sound

namespace Funds
variable {funds after : Funds} {cents : Label → Label → Nat} {currency giver taker : Label}
  {amount : Decimal} {sum : Nat}

def Worth (funds : Funds) (cents : Label → Label → Nat) : Prop :=
  ∀ currency account, (funds.balance currency account).Worth (cents currency account)

/- The hundredths after some have moved from one account to another, which may be the same. -/
def moved (cents : Label → Label → Nat) (currency giver taker : Label) (sum : Nat) (of account : Label) : Nat :=
  if of = currency then
    cents of account - (if account = giver then sum else 0) + if account = taker then sum else 0
  else cents of account

def Fits (cents : Label → Label → Nat) (currency giver taker : Label) : Prop :=
  ∑ account ∈ {giver, taker}, cents currency account < 10 ^ Decimal.precision

theorem balanceSet (funds : Funds) (currency account : Label) (amount : Decimal) (of other : Label) :
    (funds.set currency account amount).balance of other =
      if of = currency ∧ other = account then amount else funds.balance of other := by
  unfold balance set
  split
  · rename_i same
    obtain ⟨rfl, rfl⟩ := same
    rw [Table.getPutSame]
    rfl
  · rename_i apart
    rw [Table.getPutOther _ (by simpa using apart)]

theorem fitsEach (fits : Fits cents currency giver taker) :
    cents currency giver < 10 ^ Decimal.precision ∧ cents currency taker < 10 ^ Decimal.precision ∧
      (giver ≠ taker → cents currency giver + cents currency taker < 10 ^ Decimal.precision) := by
  unfold Fits at fits
  by_cases same : giver = taker
  · subst same
    rw [Finset.pair_eq_singleton, Finset.sum_singleton] at fits
    exact ⟨fits, fits, fun apart => absurd rfl apart⟩
  · rw [Finset.sum_pair same] at fits
    exact ⟨by omega, by omega, fun _ => fits⟩

theorem coversValue {n held : Decimal.Finite} (is : funds.balance currency giver = .finite held) :
    funds.covers currency giver (.finite n) = .ok (decide (0 < n.value ∧ n.value ≤ held.value)) := by
  have zero : Decimal.Finite.zero.value = 0 := by
    norm_num [Decimal.Finite.value, Decimal.Finite.size, Decimal.Finite.zero]
  have first : (Decimal.finite n).order .zero = .ok (compare n.value 0) := by
    rw [← zero, ← Decimal.Finite.orderValue]
    rfl
  have second : (Decimal.finite held).order (.finite n) = .ok (compare held.value n.value) := by
    rw [← Decimal.Finite.orderValue]
    rfl
  unfold covers
  rw [first, is, second]
  rcases lt_or_ge 0 n.value with positive | none
  · rw [compare_gt_iff_gt.mpr positive]
    rcases lt_trichotomy held.value n.value with short | same | more
    · rw [compare_lt_iff_lt.mpr short, decide_eq_false fun both => absurd both.2 short.not_ge]
      rfl
    · rw [compare_eq_iff_eq.mpr same, decide_eq_true ⟨positive, same.ge⟩]
      rfl
    · rw [compare_gt_iff_gt.mpr more, decide_eq_true ⟨positive, more.le⟩]
      rfl
  · have never : compare n.value 0 ≠ .gt := fun more => absurd (compare_gt_iff_gt.mp more) none.not_gt
    rw [decide_eq_false fun both => absurd both.1 none.not_gt]
    cases compared : compare n.value 0 with
    | gt => exact absurd compared never
    | lt => rfl
    | eq => rfl

theorem coversWorth (worth : funds.Worth cents) (charged : amount.Worth sum) :
    funds.covers currency giver amount = .ok (decide (0 < sum ∧ sum ≤ cents currency giver)) := by
  obtain ⟨held, is, value⟩ := worth currency giver
  obtain ⟨n, rfl, value'⟩ := charged
  have same : (0 < n.value ∧ n.value ≤ held.value) ↔ (0 < sum ∧ sum ≤ cents currency giver) := by
    rw [value, value', div_pos_iff_of_pos_right (by norm_num), div_le_div_iff_of_pos_right (by norm_num)]
    norm_cast
  rw [coversValue is, decide_eq_decide.mpr same]

theorem transferShort (worth : funds.Worth cents) (charged : amount.Worth sum)
    (short : ¬(0 < sum ∧ sum ≤ cents currency giver)) (taker : Option Label) :
    funds.transfer currency giver taker amount = (.ok false, funds) := by
  rw [transfer, coversWorth worth charged, decide_eq_false short]

theorem transferExact (worth : funds.Worth cents) (charged : amount.Worth sum)
    (fits : Fits cents currency giver taker) (covered : 0 < sum ∧ sum ≤ cents currency giver) :
    ∃ after, funds.transfer currency giver (some taker) amount = (.ok true, after) ∧
      after.Worth (moved cents currency giver taker sum) := by
  obtain ⟨fitsGiver, fitsTaker, together⟩ := fitsEach fits
  obtain ⟨left, taken, leftWorth⟩ := Decimal.subExact (worth currency giver) charged (by omega) (by omega)
    (by omega)
  -- The taker may be the giver, who is then paid out of what is left.
  have before : ((funds.set currency giver left).balance currency taker).Worth
      ((cents currency taker - if taker = giver then sum else 0 : Nat) : Int) := by
    rw [balanceSet]
    by_cases same : taker = giver
    · rw [if_pos ⟨rfl, same⟩, if_pos same, same, Int.ofNat_sub covered.2]
      exact leftWorth
    · rw [if_neg (by simp [same]), if_neg same, Nat.sub_zero]
      exact worth currency taker
  obtain ⟨total, added, totalWorth⟩ := Decimal.addExact before charged (by omega) (by omega) (by
    by_cases same : taker = giver
    · subst same
      simp only [if_true]
      omega
    · have := together (Ne.symm same)
      simp only [if_neg same]
      omega)
  refine ⟨(funds.set currency giver left).set currency taker total, ?_, fun of account => ?_⟩
  · simp only [transfer, coversWorth worth charged, decide_eq_true covered, move, taken, deposit, added]
  · unfold moved
    rw [balanceSet, balanceSet]
    by_cases here : of = currency
    · subst here
      by_cases last : account = taker
      · subst last
        rw [if_pos ⟨rfl, rfl⟩, if_pos rfl, if_pos rfl, Nat.cast_add]
        exact totalWorth
      · rw [if_neg (by simp [last]), if_pos rfl, if_neg last, Nat.add_zero]
        by_cases first : account = giver
        · subst first
          rw [if_pos ⟨rfl, rfl⟩, if_pos rfl, Int.ofNat_sub covered.2]
          exact leftWorth
        · rw [if_neg (by simp [first]), if_neg first, Nat.sub_zero]
          exact worth of account
    · rw [if_neg (by simp [here]), if_neg (by simp [here]), if_neg here]
      exact worth of account

theorem movedBack (enough : sum ≤ cents currency giver) :
    moved (moved cents currency giver taker sum) currency taker giver sum = cents := by
  funext of account
  unfold moved
  by_cases here : of = currency
  · subst here
    simp only [if_true]
    split_ifs <;> subst_vars <;> omega
  · rw [if_neg here, if_neg here]

theorem movedFits (fits : Fits cents currency giver taker) (enough : sum ≤ cents currency giver) :
    Fits (moved cents currency giver taker sum) currency taker giver := by
  unfold Fits at fits ⊢
  by_cases same : giver = taker
  · subst same
    rw [Finset.pair_eq_singleton, Finset.sum_singleton] at fits ⊢
    simp only [moved, if_true]
    omega
  · rw [Finset.sum_pair same] at fits
    rw [Finset.sum_pair (Ne.symm same)]
    simp only [moved, if_true, if_neg same, if_neg (Ne.symm same)]
    omega

theorem transferTold (worth : funds.Worth cents) (charged : amount.Worth sum)
    (fits : Fits cents currency giver taker) {outcome : Except Failure Bool}
    (told : funds.transfer currency giver (some taker) amount = (outcome, after)) :
    outcome = .ok false ∨ outcome = .ok true ∧ (0 < sum ∧ sum ≤ cents currency giver) ∧
      after.Worth (moved cents currency giver taker sum) := by
  by_cases covered : 0 < sum ∧ sum ≤ cents currency giver
  · obtain ⟨made, exact', worth'⟩ := transferExact worth charged fits covered
    cases exact'.symm.trans told
    exact .inr ⟨rfl, covered, worth'⟩
  · cases (transferShort worth charged covered (some taker)).symm.trans told
    exact .inl rfl

theorem transferBack (worth : funds.Worth cents) (charged : amount.Worth sum)
    (fits : Fits cents currency giver taker)
    (went : funds.transfer currency giver (some taker) amount = (.ok true, after)) :
    ∃ back, after.transfer currency taker (some giver) amount = (.ok true, back) ∧ back.Worth cents := by
  obtain no | ⟨_, ⟨positive, enough⟩, worth'⟩ := transferTold worth charged fits went
  · cases no
  · have there : sum ≤ moved cents currency giver taker sum currency taker := by
      simp only [moved, if_true]
      omega
    obtain ⟨back, exact', again⟩ := transferExact worth' charged (movedFits fits enough) ⟨positive, there⟩
    rw [movedBack enough] at again
    exact ⟨back, exact', again⟩

end Funds
end BoxOffice
