import BoxOffice.Failure
import BoxOffice.Label
import BoxOffice.Store.Table

/-! A book of balances by currency and account. Money moves only from an account that holds it. -/
namespace BoxOffice

structure Funds where
  balances : Table (Label × Label) Decimal
  deriving DecidableEq, Repr

namespace Funds

def empty : Funds := ⟨.empty⟩

def balance (funds : Funds) (currency account : Label) : Decimal :=
  (funds.balances.get? (currency, account)).getD .zero

def set (funds : Funds) (currency account : Label) (amount : Decimal) : Funds :=
  ⟨funds.balances.put (currency, account) amount⟩

def deposit (funds : Funds) (currency account : Label) (amount : Decimal) :
    Except Failure Funds :=
  match (funds.balance currency account).add amount with
  | .ok sum => .ok (funds.set currency account sum)
  | .error fault => .error (.ofArithmetic fault)

def covers (funds : Funds) (currency source : Label) (amount : Decimal) :
    Except Decimal.Fault Bool := do
  if (← amount.order .zero) == .gt then
    return (← (funds.balance currency source).order amount) != .lt
  return false

/- Takes the amount from the source and then adds it to the target. What is left over and the sum
are rounded. The book keeps the first entry when the second fails, which it does where the sum has
no result or the target is no account. -/
def move (funds : Funds) (currency source : Label) (target : Option Label) (amount : Decimal) :
    Except Failure Unit × Funds :=
  match (funds.balance currency source).sub amount, target with
  | .error fault, _ => (.error (.ofArithmetic fault), funds)
  | .ok left, none => (.error .notALabel, funds.set currency source left)
  | .ok left, some target =>
    let funds := funds.set currency source left
    match funds.deposit currency target amount with
    | .error failure => (.error failure, funds)
    | .ok funds => (.ok (), funds)

def transfer (funds : Funds) (currency source : Label) (target : Option Label) (amount : Decimal) :
    Except Failure Bool × Funds :=
  match funds.covers currency source amount with
  | .error fault => (.error (.ofArithmetic fault), funds)
  | .ok false => (.ok false, funds)
  | .ok true =>
    match funds.move currency source target amount with
    | (.error failure, funds) => (.error failure, funds)
    | (.ok (), funds) => (.ok true, funds)

end Funds
end BoxOffice
