import BoxOffice.Checked

/-! Who may act: everyone whom the host has let in, or the labels on a list. In the place of a
verifier may also stand something that verifies nobody. -/
namespace BoxOffice

inductive Verifier
  | trustedHost
  | approved (labels : List Label)
  | unfit
  deriving DecidableEq, Repr

namespace Verifier

def verify (verifier : Verifier) (caller : Raw) : Except Failure Bool :=
  match verifier with
  | trustedHost => .ok !caller.isBlank
  | approved labels => do return labels.contains (← Checked.label caller)
  | unfit => .error .notOffered

def approve (verifier : Verifier) (identity : Raw) : Except Failure Verifier :=
  match verifier with
  | approved labels => do return approved (labels.insert (← Checked.label identity))
  | _ => .error .notOffered

def revoke (verifier : Verifier) (identity : Raw) : Except Failure Verifier :=
  match verifier with
  | approved labels => do
    let identity ← Checked.label identity
    return approved (labels.filter fun label => label != identity)
  | _ => .error .notOffered

end Verifier
end BoxOffice
