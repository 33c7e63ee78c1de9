import BoxOffice.Proofs.Decimal.Sign
import BoxOffice.Proofs.Solvency

/-! What becomes of money in a book. Money comes in by deposits only: as long as less than 10 ^ 26 of a currency
has been paid in, its balances add up to all of that, and a transfer moves an amount that is there or nothing.
Beyond, where sums are rounded, no balance falls below zero all the same. -/
namespace BoxOffice

/- The number that a decimal is; one that is not finite counts for nothing. -/
def Decimal.value : Decimal → ℚ
  | .finite n => n.value
  | .infinite _ | .nan .. => 0

theorem Decimal.Worth.value {d : Decimal} {c : Int} (worth : d.Worth c) : d.value = c / 100 := by
  obtain ⟨n, rfl, value⟩ := worth
  exact value

namespace Funds

inductive Entry
  | deposit (currency account : Label) (amount : Decimal)
  | transfer (currency source target : Label) (amount : Decimal)
  deriving DecidableEq, Repr

def enter (funds : Funds) : Entry → Funds
  | .deposit currency account amount =>
    match funds.deposit currency account amount with
    | .ok after => after
    | .error _ => funds
  | .transfer currency source target amount => (funds.transfer currency source (some target) amount).2

def enterAll (funds : Funds) (entries : List Entry) : Funds :=
  entries.foldl enter funds

namespace Entry

def pays (of : Label) : Entry → ℚ
  | .deposit currency _ amount => if of = currency then amount.value else 0
  | .transfer .. => 0

def Finite : Entry → Prop
  | .deposit _ _ amount => ∃ n, amount = .finite n ∧ 0 ≤ n.value
  | .transfer _ _ _ amount => ∃ n, amount = .finite n

def Whole : Entry → Prop
  | .deposit _ _ amount => ∃ cents : Nat, amount.Worth cents
  | .transfer _ _ _ amount => ∃ cents : Int, amount.Worth cents

end Entry

def accounts (funds : Funds) (currency : Label) : Finset Label :=
  ((funds.balances.entries.filter fun entry => entry.1.1 = currency).map fun entry => entry.1.2).toFinset

variable {funds after : Funds} {currency source target : Label} {amount : Decimal} {entries : List Entry}
  {paid : Label → ℚ} {cents : Label → Label → Nat} {sum : Nat}

/-- The book holds what has been paid in: whole hundredths on each account, and together all that was paid. An
amount moves if it is positive and there, from the source to the target and nowhere else, and if not the book
stays as it is. -/
structure Conserves (funds : Funds) (paid : Label → ℚ) : Prop where
  whole : ∀ currency account, ∃ cents : Nat, (funds.balance currency account).Worth cents
  total : ∀ currency,
    ∑ account ∈ funds.accounts currency, (funds.balance currency account).value = paid currency
  refuses : ∀ currency source target amount, (∃ cents : Int, amount.Worth cents) →
    ¬(0 < amount.value ∧ amount.value ≤ (funds.balance currency source).value) →
    funds.transfer currency source (some target) amount = (.ok false, funds)
  moves : ∀ currency source target amount, (∃ cents : Int, amount.Worth cents) →
    0 < amount.value ∧ amount.value ≤ (funds.balance currency source).value →
    ∃ after, funds.transfer currency source (some target) amount = (.ok true, after) ∧
      (∀ account, (after.balance currency account).value = (funds.balance currency account).value -
        (if account = source then amount.value else 0) + if account = target then amount.value else 0) ∧
      ∀ of account, ¬(of = currency ∧ (account = source ∨ account = target)) →
        after.balance of account = funds.balance of account

def Nonneg (funds : Funds) : Prop :=
  ∀ currency account, ∃ n, funds.balance currency account = .finite n ∧ 0 ≤ n.value

theorem emptyNonneg : empty.Nonneg :=
  fun _ _ => ⟨.zero, rfl, by simp [Decimal.Finite.value, Decimal.Finite.size, Decimal.Finite.zero]⟩

theorem setNonneg (nonneg : funds.Nonneg) {n : Decimal.Finite} (plus : 0 ≤ n.value) (currency account : Label) :
    (funds.set currency account (.finite n)).Nonneg := by
  intro of other
  rw [balanceSet]
  split
  · exact ⟨n, rfl, plus⟩
  · exact nonneg of other

theorem depositNonneg (nonneg : funds.Nonneg) {n : Decimal.Finite} (plus : 0 ≤ n.value) {account : Label}
    (paid : funds.deposit currency account (.finite n) = .ok after) : after.Nonneg := by
  obtain ⟨held, is, least⟩ := nonneg currency account
  unfold deposit at paid
  rw [is] at paid
  split at paid
  · rename_i sum added
    cases paid
    obtain ⟨k, rfl, least'⟩ := Decimal.addNonneg (add_nonneg least plus) added
    exact setNonneg nonneg least' currency account
  · cases paid

theorem moveNonneg (nonneg : funds.Nonneg) {n : Decimal.Finite}
    (covered : funds.covers currency source (.finite n) = .ok true) (target : Option Label) :
    (funds.move currency source target (.finite n)).2.Nonneg := by
  obtain ⟨held, is, _⟩ := nonneg currency source
  rw [coversValue is, Except.ok.injEq, decide_eq_true_eq] at covered
  obtain ⟨positive, enough⟩ := covered
  unfold move
  rw [is]
  cases taken : (Decimal.finite held).sub (.finite n) with
  | error fault => exact nonneg
  | ok left =>
    have rest : 0 ≤ held.value + n.negate.value := by
      rw [Decimal.Finite.negateValue]
      linarith
    obtain ⟨k, rfl, least⟩ := Decimal.addNonneg rest taken
    have first := setNonneg nonneg least currency source
    cases target with
    | none => exact first
    | some target =>
      dsimp only
      split
      · exact first
      · rename_i paid
        exact depositNonneg first positive.le paid

theorem enterNonneg (nonneg : funds.Nonneg) {entry : Entry} (finite : entry.Finite) :
    (funds.enter entry).Nonneg := by
  cases entry with
  | deposit currency account amount =>
    obtain ⟨n, rfl, plus⟩ := finite
    unfold enter
    dsimp only
    split
    · rename_i after paid
      exact depositNonneg nonneg plus paid
    · exact nonneg
  | transfer currency source target amount =>
    obtain ⟨n, rfl⟩ := finite
    unfold enter transfer
    dsimp only
    split
    · exact nonneg
    · exact nonneg
    · rename_i covered
      have moved := moveNonneg nonneg covered (some target)
      split <;> simp_all

theorem enterAllNonneg (nonneg : funds.Nonneg) (finite : ∀ entry ∈ entries, entry.Finite) :
    (funds.enterAll entries).Nonneg := by
  induction entries generalizing funds with
  | nil => exact nonneg
  | cons entry rest ih =>
    exact ih (enterNonneg nonneg (finite entry (by simp))) fun later mem => finite later (by simp [mem])

def Tallies (cents : Label → Nat) (total : ℚ) : Prop :=
  ∃ holders : Finset Label, ∀ accounts, holders ⊆ accounts →
    ((∑ account ∈ accounts, cents account : Nat) : ℚ) / 100 = total

structure Kept (funds : Funds) (cents : Label → Label → Nat) (paid : Label → ℚ) : Prop where
  worth : funds.Worth cents
  tallies : ∀ currency, Tallies (cents currency) (paid currency)

theorem emptyKept : empty.Kept (fun _ _ => 0) fun _ => 0 :=
  ⟨fun _ _ => Decimal.zeroWorth, fun _ => ⟨∅, fun _ _ => by simp⟩⟩

theorem Tallies.within {hundredths : Label → Nat} {total : ℚ} (tallies : Tallies hundredths total)
    (accounts : Finset Label) : ((∑ account ∈ accounts, hundredths account : Nat) : ℚ) / 100 ≤ total := by
  obtain ⟨holders, all⟩ := tallies
  rw [← all (accounts ∪ holders) Finset.subset_union_right]
  refine div_le_div_of_nonneg_right ?_ (by norm_num)
  exact Nat.cast_le.mpr (Finset.sum_le_sum_of_subset Finset.subset_union_left)

theorem depositKept (kept : funds.Kept cents paid) {account : Label} (charged : amount.Worth sum)
    (below : paid currency + amount.value < 10 ^ 26) :
    ∃ after, funds.deposit currency account amount = .ok after ∧
      after.Kept (paidIn cents currency account sum)
        fun of => paid of + if of = currency then amount.value else 0 := by
  have value : amount.value = (sum : ℚ) / 100 := charged.value
  have room : cents currency account + sum < 10 ^ Decimal.precision := by
    have one := (kept.tallies currency).within {account}
    rw [Finset.sum_singleton] at one
    rw [← Decimal.Finite.hundredthsBelow, Nat.cast_add, add_div, ← value]
    linarith
  obtain ⟨after, done, worth⟩ := depositExact kept.worth charged room
  refine ⟨after, done, worth, fun of => ?_⟩
  obtain ⟨holders, all⟩ := kept.tallies of
  refine ⟨insert account holders, fun accounts wider => ?_⟩
  have there : account ∈ accounts := wider (Finset.mem_insert_self ..)
  rw [paidInAll, Nat.cast_add, add_div, all accounts ((Finset.subset_insert ..).trans wider)]
  by_cases of = currency <;> simp_all

theorem movedTallies (kept : funds.Kept cents paid) (enough : sum ≤ cents currency source) (of : Label) :
    Tallies (moved cents currency source target sum of) (paid of) := by
  obtain ⟨holders, all⟩ := kept.tallies of
  refine ⟨insert source (insert target holders), fun accounts wider => ?_⟩
  have gives : source ∈ accounts := wider (by simp)
  have takes : target ∈ accounts := wider (by simp)
  rw [movedAll enough gives takes]
  exact all accounts fun account mem => wider (by simp [mem])

theorem transferKept (kept : funds.Kept cents paid) (below : paid currency < 10 ^ 26) {c : Int}
    (charged : amount.Worth c) (source target : Label) :
    (¬(0 < amount.value ∧ amount.value ≤ (funds.balance currency source).value) ∧
      funds.transfer currency source (some target) amount = (.ok false, funds)) ∨
    ∃ sum : Nat, amount.Worth sum ∧ sum ≤ cents currency source ∧
      (0 < amount.value ∧ amount.value ≤ (funds.balance currency source).value) ∧
      ∃ after, funds.transfer currency source (some target) amount = (.ok true, after) ∧
        after.Kept (moved cents currency source target sum) paid := by
  have same : (0 < amount.value ∧ amount.value ≤ (funds.balance currency source).value) ↔
      0 < c ∧ c ≤ cents currency source := by
    rw [charged.value, (kept.worth currency source).value, div_pos_iff_of_pos_right (by norm_num),
      div_le_div_iff_of_pos_right (by norm_num)]
    norm_cast
  by_cases covered : 0 < c ∧ c ≤ cents currency source
  · obtain ⟨sum, rfl⟩ := Int.eq_ofNat_of_zero_le covered.1.le
    have fits : Fits cents currency source target :=
      Decimal.Finite.hundredthsBelow.mp (((kept.tallies currency).within {source, target}).trans_lt below)
    have covered' : 0 < sum ∧ sum ≤ cents currency source := by omega
    obtain ⟨after, done, worth⟩ := transferExact kept.worth charged fits covered'
    exact .inr ⟨sum, charged, covered'.2, same.mpr covered, after, done, worth, movedTallies kept covered'.2⟩
  · refine .inl ⟨fun both => covered (same.mp both), ?_⟩
    obtain ⟨held, is, _⟩ := kept.worth currency source
    obtain ⟨n, rfl, _⟩ := charged
    have short : ¬(0 < n.value ∧ n.value ≤ held.value) := by
      rw [is] at same
      exact fun both => covered (same.mp both)
    rw [transfer, coversValue is, decide_eq_false short]

theorem enterKept (kept : funds.Kept cents paid) {entry : Entry} (whole : entry.Whole)
    (below : ∀ of, paid of + entry.pays of < 10 ^ 26) :
    ∃ cents, (funds.enter entry).Kept cents fun of => paid of + entry.pays of := by
  cases entry with
  | deposit currency account amount =>
    obtain ⟨sum, charged⟩ := whole
    have here := below currency
    simp only [Entry.pays, if_true] at here
    obtain ⟨after, done, kept⟩ := depositKept kept charged here
    rw [enter, done]
    exact ⟨_, kept⟩
  | transfer currency source target amount =>
    obtain ⟨c, charged⟩ := whole
    have here := below currency
    simp only [Entry.pays, add_zero] at here ⊢
    obtain ⟨_, refused⟩ | ⟨sum, _, _, _, after, done, kept⟩ := transferKept kept here charged source target
    · rw [enter, refused]
      exact ⟨cents, kept⟩
    · rw [enter, done]
      exact ⟨_, kept⟩

theorem paysNonneg {entry : Entry} (whole : entry.Whole) (of : Label) : 0 ≤ entry.pays of := by
  cases entry with
  | deposit currency account amount =>
    obtain ⟨sum, charged⟩ := whole
    unfold Entry.pays
    dsimp only
    split
    · rw [charged.value]
      positivity
    · exact le_rfl
  | transfer => exact le_rfl

theorem paidNonneg (whole : ∀ entry ∈ entries, entry.Whole) (of : Label) :
    0 ≤ (entries.map (Entry.pays of)).sum := by
  refine List.sum_nonneg fun pays mem => ?_
  obtain ⟨entry, among, rfl⟩ := List.mem_map.mp mem
  exact paysNonneg (whole entry among) of

theorem enterAllKept (kept : funds.Kept cents paid) (whole : ∀ entry ∈ entries, entry.Whole)
    (below : ∀ of, paid of + (entries.map (Entry.pays of)).sum < 10 ^ 26) :
    ∃ cents, (funds.enterAll entries).Kept cents fun of => paid of + (entries.map (Entry.pays of)).sum := by
  -- What is paid in by then is no more than in the end, so it stays in range.
  induction entries generalizing funds cents paid with
  | nil => exact ⟨cents, by simpa [enterAll] using kept⟩
  | cons entry rest ih =>
    have later : ∀ entry ∈ rest, entry.Whole := fun later mem => whole later (by simp [mem])
    simp only [List.map_cons, List.sum_cons, ← add_assoc] at below ⊢
    have first (of : Label) : paid of + entry.pays of < 10 ^ 26 := by
      have := paidNonneg later of
      linarith [below of]
    obtain ⟨cents, kept⟩ := enterKept kept (whole entry (by simp)) first
    exact ih kept later below

theorem balanceOutside {account : Label} (outside : account ∉ funds.accounts currency) :
    funds.balance currency account = .zero := by
  have absent : funds.balances.get? (currency, account) = none := by
    rw [← Option.not_isSome_iff_eq_none]
    intro there
    obtain ⟨amount, found⟩ := Option.isSome_iff_exists.mp there
    refine outside ?_
    simp only [accounts, List.mem_toFinset, List.mem_map, List.mem_filter]
    exact ⟨_, ⟨Table.memOfGet found, by simp⟩, rfl⟩
  rw [balance, absent]
  rfl

theorem keptConserves (kept : funds.Kept cents paid) (below : ∀ of, paid of < 10 ^ 26) :
    funds.Conserves paid := by
  constructor
  case whole => exact fun currency account => ⟨_, kept.worth currency account⟩
  case total =>
    intro currency
    obtain ⟨holders, all⟩ := kept.tallies currency
    have none : ∀ account ∈ funds.accounts currency ∪ holders, account ∉ funds.accounts currency →
        (funds.balance currency account).value = 0 := by
      intro account _ outside
      rw [balanceOutside outside, Decimal.zeroWorth.value]
      norm_num
    rw [Finset.sum_subset Finset.subset_union_left none, ← all _ Finset.subset_union_right, Nat.cast_sum,
      Finset.sum_div]
    exact Finset.sum_congr rfl fun account _ => (kept.worth currency account).value
  case refuses =>
    intro currency source target amount ⟨c, charged⟩ short
    obtain ⟨_, refused⟩ | ⟨_, _, _, covered, _⟩ := transferKept kept (below currency) charged source target
    · exact refused
    · exact absurd covered short
  case moves =>
    intro currency source target amount ⟨c, charged⟩ covered
    obtain ⟨short, _⟩ | ⟨sum, charged, enough, _, after, done, kept'⟩ :=
      transferKept kept (below currency) charged source target
    · exact absurd covered short
    · refine ⟨after, done, fun account => ?_, fun of account apart => ?_⟩
      · have there : (if account = source then sum else 0) ≤ cents currency account := by
          split_ifs with giving
          · exact giving ▸ enough
          · exact Nat.zero_le _
        rw [(kept'.worth currency account).value, (kept.worth currency account).value, charged.value, moved,
          if_pos rfl, Int.cast_natCast, Nat.cast_add, Nat.cast_sub there]
        split_ifs <;> push_cast <;> ring
      · obtain ⟨_, left, sum, is, _, _, _, rfl⟩ := transferMoved done
        cases is
        rw [balanceSet, balanceSet, if_neg (by tauto), if_neg (by tauto)]

end Funds

/-- Whatever is paid into an empty book and moved in it, no balance is ever negative, even where sums are
rounded. If all amounts are in whole hundredths and less than 10 ^ 26 is paid in of each currency, the book
conserves what has been paid in. -/
theorem fundsConserved (entries : List Funds.Entry) (finite : ∀ entry ∈ entries, entry.Finite) :
    (∀ currency account, ∃ n,
      (Funds.empty.enterAll entries).balance currency account = .finite n ∧ 0 ≤ n.value) ∧
    ((∀ entry ∈ entries, entry.Whole) → (∀ of, (entries.map (Funds.Entry.pays of)).sum < 10 ^ 26) →
      (Funds.empty.enterAll entries).Conserves fun of => (entries.map (Funds.Entry.pays of)).sum) := by
  refine ⟨Funds.enterAllNonneg Funds.emptyNonneg finite, fun whole below => ?_⟩
  obtain ⟨cents, kept⟩ := Funds.enterAllKept Funds.emptyKept whole (by simpa using below)
  simp only [zero_add] at kept
  exact Funds.keptConserves kept below

/- Ann and ben share ten euros; what ben has not got and what is less than nothing does not move. Where a tiny
amount leaves a huge balance, rounding leaves the balance as it was. -/
theorem fundsConservedGala :
    let euros : Label := .named "EUR"
    let ann : Label := .named "ann"
    let ben : Label := .named "ben"
    let entries : List Funds.Entry :=
      [.deposit euros ann (.finite ⟨false, 1000, -2⟩), .transfer euros ann ben (.finite ⟨false, 35, -1⟩),
      .transfer euros ben ben (.finite ⟨false, 1, 0⟩), .transfer euros ben ann (.finite ⟨false, 2, 1⟩),
      .transfer euros ann ben (.finite ⟨true, 1, 0⟩)]
    let huge : List Funds.Entry :=
      [.deposit euros ann (.finite ⟨false, 1, 30⟩), .transfer euros ann ben (.finite ⟨false, 1, -30⟩)]
    (∀ entry ∈ entries, entry.Whole) ∧ (∀ of, (entries.map (Funds.Entry.pays of)).sum < 10 ^ 26) ∧
      (∑ account ∈ (Funds.empty.enterAll entries).accounts euros,
        ((Funds.empty.enterAll entries).balance euros account).value = 10) ∧
      (Funds.empty.enterAll entries).balance euros ben = .finite ⟨false, 35, -1⟩ ∧
      (Funds.empty.enterAll huge).balance euros ann = .finite ⟨false, 10 ^ 27, 3⟩ ∧
      ∃ n, (Funds.empty.enterAll huge).balance euros ann = .finite n ∧ 0 ≤ n.value := by
  intro euros ann ben entries huge
  have whole : ∀ entry ∈ entries, entry.Whole := by
    simp only [entries, List.forall_mem_cons, Funds.Entry.Whole, Decimal.Worth, Decimal.Finite.Worth,
      Decimal.finite.injEq, exists_eq_left']
    refine ⟨⟨1000, ?_⟩, ⟨350, ?_⟩, ⟨100, ?_⟩, ⟨2000, ?_⟩, ⟨-100, ?_⟩, by simp⟩ <;>
      norm_num [Decimal.Finite.value, Decimal.Finite.size]
  have finite : ∀ entry ∈ entries, entry.Finite := by
    simp [entries, Funds.Entry.Finite, Decimal.Finite.value, Decimal.Finite.size]
  have finite' : ∀ entry ∈ huge, entry.Finite := by
    simp [huge, Funds.Entry.Finite, Decimal.Finite.value, Decimal.Finite.size]
  have paid (of : Label) : (entries.map (Funds.Entry.pays of)).sum = if of = euros then 10 else 0 := by
    norm_num [entries, Funds.Entry.pays, Decimal.value, Decimal.Finite.value, Decimal.Finite.size]
  have below (of : Label) : (entries.map (Funds.Entry.pays of)).sum < 10 ^ 26 := by
    rw [paid]
    split <;> norm_num
  obtain ⟨_, conserves⟩ := fundsConserved entries finite
  obtain ⟨nonneg, _⟩ := fundsConserved huge finite'
  refine ⟨whole, below, ?_, by decide +kernel, by decide +kernel, nonneg euros ann⟩
  rw [(conserves whole below).total euros, paid, if_pos rfl]

end BoxOffice
