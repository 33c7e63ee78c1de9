import BoxOffice.Desk.State
import BoxOffice.Part.Making

/-! Opening a desk from its settings: the store, the verifier and the book of funds are the parts
that they name. A part in the wrong place is kept there, and fails what is asked of it. -/
namespace BoxOffice

inductive StoreKind
  | memory
  | relational
  | unfit
  deriving DecidableEq, Repr

structure Opening where
  store : StoreKind
  verifier : Option Verifier
  keepsFunds : Bool
  deriving DecidableEq, Repr

namespace Opening

def storeOf : Part → StoreKind
  | .memoryStore => .memory
  | .relationalStore => .relational
  | _ => .unfit

/- A blank part counts as none, and then everyone with a name is let in. -/
def verifierOf : Part → Verifier
  | .trustedHost | .other _ true => .trustedHost
  | .approvedList => .approved []
  | _ => .unfit

def ofSettings (settings : Settings) (outside : List Part.Module := []) : Except Failure Opening := do
  let store ← Part.inPlace outside settings "STORE"
  let verifier ← Part.inPlace outside settings "IDENTITY_VERIFIER"
  let funds ← Part.inPlace outside settings "FUNDS_TRANSFER"
  return ⟨storeOf store, some (verifierOf verifier), funds = .fundsBook⟩

end Opening
end BoxOffice
