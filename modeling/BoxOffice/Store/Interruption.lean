import BoxOffice.Failure

/-! A call on its way through inner methods, each of which may be disturbed from outside. A
disturbance strikes once, before the work of its method or after it, and the call ends there. -/
namespace BoxOffice

abbrev Waiting := String → Option Bool

/- How a call has ended on its way: the disturbed methods that it had entered, the outermost in
front, the failure of its own that came out, if one did, and the store then. -/
structure Interruption (σ : Type) where
  methods : List String
  failure : Option Failure
  store : σ

abbrev Passage (σ : Type) := Except (Interruption σ)

namespace Passage
variable {σ : Type}

def fail (failure : Failure) (s : σ) : Passage σ σ :=
  .error ⟨[], some failure, s⟩

/- The way through a method. A disturbance is spent as soon as its method is entered, also if one
further in ends the call before. -/
def through (waiting : Waiting) (method : String) (work : σ → Passage σ σ) (s : σ) : Passage σ σ :=
  match waiting method with
  | none => work s
  | some false => .error ⟨[method], none, s⟩
  | some true =>
    match work s with
    | .ok s => .error ⟨[method], none, s⟩
    | .error inner => .error { inner with methods := method :: inner.methods }

theorem throughUndisturbed {waiting : Waiting} {method : String} (quiet : waiting method = none)
    (work : σ → Passage σ σ) (s : σ) : through waiting method work s = work s := by
  simp [through, quiet]

def interruption? : Passage σ σ → Option (Interruption σ)
  | .ok _ => none
  | .error interruption => some interruption

end Passage
end BoxOffice
