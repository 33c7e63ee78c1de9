import BoxOffice.Proofs.Desk.Spares
import BoxOffice.Funds

/-! What a transfer does to a book of funds. -/
namespace BoxOffice.Funds
variable {funds after : Funds} {currency source : Label} {target : Option Label} {amount : Decimal}

theorem depositFailure {account : Label} {failure : Failure}
    (failed : funds.deposit currency account amount = .error failure) : failure ≠ .receiverFailed := by
  unfold deposit at failed
  split at failed
  · cases failed
  · cases failed
    exact arithmeticFailure _

theorem moveFailure {failure : Failure}
    (failed : funds.move currency source target amount = (.error failure, after)) :
    failure ≠ .receiverFailed := by
  unfold move at failed
  split at failed
  · cases failed
    exact arithmeticFailure _
  · cases failed
    simp
  · dsimp only at failed
    split at failed
    · rename_i broken
      cases failed
      exact depositFailure broken
    · cases failed

theorem transferFailure {failure : Failure}
    (failed : funds.transfer currency source target amount = (.error failure, after)) :
    failure ≠ .receiverFailed := by
  unfold transfer at failed
  split at failed
  · cases failed
    exact arithmeticFailure _
  · cases failed
  · split at failed
    · rename_i broken
      cases failed
      exact moveFailure broken
    · cases failed

theorem transferRefused (refused : funds.transfer currency source target amount = (.ok false, after)) :
    after = funds := by
  unfold transfer at refused
  split at refused
  · cases refused
  · cases refused
    rfl
  · split at refused <;> cases refused

theorem transferMoved (moved : funds.transfer currency source target amount = (.ok true, after)) :
    ∃ account left sum, target = some account ∧ funds.covers currency source amount = .ok true ∧
      (funds.balance currency source).sub amount = .ok left ∧
      ((funds.set currency source left).balance currency account).add amount = .ok sum ∧
      after = (funds.set currency source left).set currency account sum := by
  unfold transfer at moved
  split at moved
  · cases moved
  · cases moved
  · rename_i covered
    unfold move at moved
    split at moved
    · cases moved
    · rename_i failed
      split at failed
      · cases failed
      · cases failed
      · rename_i left account taken
        dsimp only [deposit] at failed
        split at failed
        · cases failed
        · rename_i given
          split at given
          · rename_i sum added
            cases given
            cases failed
            cases moved
            exact ⟨account, left, sum, rfl, covered, taken, added, rfl⟩
          · cases given

end BoxOffice.Funds
