import BoxOffice.Proofs.Desk.Decision

/-! Requests that a desk accepts, one after the other, and what is known of an action that is accepted when
its ruling is known. -/
namespace BoxOffice

inductive Desk.Accepts {σ : Type} [RecordStore σ] : Desk σ → List Operation → Desk σ → Prop
  | none {desk : Desk σ} : Accepts desk [] desk
  | more {desk next after : Desk σ} {request : Operation} {requests : List Operation} {answer : Answer}
      (answered : request.run.perform desk = (.ok answer, next)) (later : Accepts next requests after) :
      Accepts desk (request :: requests) after

namespace Desk.Accepts
variable {σ : Type} [RecordStore σ] {desk after : Desk σ} {request : Operation} {requests : List Operation}

theorem cons : desk.Accepts (request :: requests) after ↔
    ∃ answer next, request.run.perform desk = (.ok answer, next) ∧ next.Accepts requests after := by
  constructor
  · rintro (_ | ⟨answered, later⟩)
    exact ⟨_, _, answered, later⟩
  · rintro ⟨answer, next, answered, later⟩
    exact .more answered later

theorem one : desk.Accepts [request] after ↔ ∃ answer, request.run.perform desk = (.ok answer, after) := by
  rw [cons]
  constructor
  · rintro ⟨answer, next, answered, _ | _⟩
    exact ⟨answer, answered⟩
  · rintro ⟨answer, answered⟩
    exact ⟨answer, after, answered, .none⟩

theorem ran (ok : (request.run.perform desk).1.isOk = true) :
    desk.Accepts [request] (request.run.perform desk).2 := by
  refine one.mpr ?_
  generalize request.run.perform desk = ended at ok ⊢
  obtain ⟨_ | answer, after⟩ := ended
  · cases ok
  · exact ⟨answer, rfl⟩

end Desk.Accepts

namespace Action.Rules
variable {α : Type} {a : Action Journal α} {desk after : Desk Journal} {ruling : Except Failure (Ruled α)} {value : α}
  {edits : List Edit}

theorem accepted (rules : a.Rules desk ruling) (ran : a.perform desk = (.ok value, after)) :
    ∃ edits, ruling = .ok (value, edits) ∧ ∃ log notices, after = { desk.edited edits with log, notices } := by
  obtain ⟨log, notices, ends⟩ := rules desk.log desk.notices
  rw [show a.perform { desk with log := desk.log, notices := desk.notices } = a.perform desk from rfl, ran] at ends
  cases ruling with
  | error failure => cases ends
  | ok made =>
    cases ends
    exact ⟨made.2, rfl, log, notices, rfl⟩

theorem accepts (rules : a.Rules desk (.ok (value, edits))) :
    ∃ log notices, a.perform desk = (.ok value, { desk.edited edits with log, notices }) :=
  rules desk.log desk.notices

end Action.Rules

theorem Desk.attendsOk {α : Type} {desk : Desk Journal} {caller given : Raw}
    {ruling : EventId → Except Failure (Ruled α)} {made : Ruled α} (ok : desk.attends caller given ruling = .ok made) :
    ∃ id, desk.admits caller (.event .callerNotVerified) = .ok () ∧ EventId.named given = .ok id ∧
      ruling id = .ok made := by
  obtain ⟨_, admitted, ok⟩ := bindOk ok
  obtain ⟨id, named, ok⟩ := bindOk ok
  exact ⟨id, admitted, named, ok⟩

end BoxOffice
