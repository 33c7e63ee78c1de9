import BoxOffice.Proofs.Desk.Runs

/-! What lasts in a run, and lists that grow with its requests. What stands on such a list after the run can
be told from what was asked and what was answered, in the order of the run. -/
namespace BoxOffice

namespace Step
variable {step : Step} {steps : List Step} {desk : Desk Journal} {holds : View → Prop}

theorem takeKeeps (ordinary : step.Ordinary) (reached : desk.store.Reached) (tame : desk.Tame)
    (now : holds desk.view)
    (later : ∀ {request edits funds told answer}, desk.Effect request edits funds told answer →
      holds (edits.foldl View.edit desk.view)) : holds (step.take desk).2.view := by
  obtain ⟨request, rfl⟩ | rests := ordinaryRests ordinary
  · exact (request.ends (reached.ready tame)).keeps now later
  · have store : (step.take desk).2.store = desk.store := (rests desk tame).1
    rw [Desk.view, store]
    exact now

theorem takeAllKeeps (ordinary : ∀ step ∈ steps, step.Ordinary) (reached : desk.store.Reached)
    (tame : desk.Tame) (now : holds desk.view)
    (later : ∀ {desk : Desk Journal} {request edits funds told answer}, desk.store.Reached →
      holds desk.view → desk.Effect request edits funds told answer →
      holds (edits.foldl View.edit desk.view)) : holds (takeAll steps desk).2.view := by
  induction steps generalizing desk with
  | nil => exact now
  | cons step rest ih =>
    have first := ordinary step List.mem_cons_self
    obtain ⟨reached', tame'⟩ := takeReached first reached tame
    have here := takeKeeps first reached tame now fun effect => later reached now effect
    exact ih (fun step mem => ordinary step (List.mem_cons_of_mem _ mem)) reached' tame' here

theorem takeEffective (ordinary : step.Ordinary) (reached : desk.store.Reached) (tame : desk.Tame) :
    (step.take desk).2.view = desk.view ∨ ∃ request edits funds told answer, step = .operation request ∧
      desk.Effect request edits funds told answer ∧
      (step.take desk).2.view = edits.foldl View.edit desk.view ∧
      ((step.take desk).1.outcome = .ok answer ∨ (step.take desk).1.outcome = .error .receiverFailed) := by
  obtain ⟨request, rfl⟩ | rests := ordinaryRests ordinary
  · obtain same | ⟨edits, funds, told, answer, effect, changed, answered⟩ :=
      (request.ends (reached.ready tame)).effective
    · exact .inl same
    · exact .inr ⟨request, edits, funds, told, answer, rfl, effect, changed, answered⟩
  · have store : (step.take desk).2.store = desk.store := (rests desk tame).1
    rw [Desk.view, store]
    exact .inl rfl

end Step

def Step.brought {β : Type} (brings : Operation → Option β) (taken : Step × Step.Record) : Option β :=
  match taken.1, taken.2.outcome with
  | .operation request, .ok _ | .operation request, .error .receiverFailed => brings request
  | _, _ => none

structure Grows {β : Type} (brings : Operation → Option β) (list : View → List β) : Prop where
  found : ∀ {desk : Desk Journal} {request answer}, desk.Finds request answer → brings request = none
  grown : ∀ {desk : Desk Journal} {request edits funds told answer}, desk.store.Reached →
    desk.Effect request edits funds told answer →
    list (edits.foldl View.edit desk.view) = list desk.view ++ (brings request).toList

namespace Grows
variable {β : Type} {brings : Operation → Option β} {list : View → List β} {desk after : Desk Journal}
  {request : Operation} {outcome : Except Failure Answer} {step : Step} {steps : List Step}

theorem ends (grows : Grows brings list) (reached : desk.store.Reached)
    (ends : desk.Ends request outcome after) {record : Step.Record} (recorded : record.outcome = outcome) :
    list after.view = list desk.view ++ (Step.brought brings (.operation request, record)).toList := by
  subst recorded
  obtain ⟨outcome, notices, log⟩ := record
  cases ends with
  | @refused failure _ other book took =>
    have none : Step.brought brings (.operation request, ⟨.error failure, notices, log⟩) = none := by
      unfold Step.brought
      split <;> rename_i failed
      · cases failed
      · cases failed
        exact absurd rfl other
      · rfl
    rw [none, took.view, Option.toList_none, List.append_nil]
  | @found answer _ finds took =>
    have none : Step.brought brings (.operation request, ⟨.ok answer, notices, log⟩) = none :=
      grows.found finds
    rw [none, took.view, Option.toList_none, List.append_nil]
  | done effect took =>
    rw [Step.brought, took.view]
    exact grows.grown reached effect
  | unheard effect some early took =>
    rw [Step.brought, took.view]
    exact grows.grown reached effect

theorem take (grows : Grows brings list) (ordinary : step.Ordinary) (reached : desk.store.Reached)
    (tame : desk.Tame) : list (step.take desk).2.view =
      list desk.view ++ (Step.brought brings (step, (step.take desk).1)).toList := by
  by_cases asks : ∃ request, step = .operation request
  · obtain ⟨request, rfl⟩ := asks
    exact grows.ends reached (request.ends (reached.ready tame)) rfl
  · obtain ⟨store, _⟩ := (Step.ordinaryRests ordinary).resolve_left asks desk tame
    have none : Step.brought brings (step, (step.take desk).1) = none := by
      unfold Step.brought
      split <;> first | rfl | exact absurd ⟨_, ‹_›⟩ asks
    rw [none, Option.toList_none, List.append_nil]
    exact congrArg (fun s : Journal => list s.tables.view) store

theorem takeAll (grows : Grows brings list) (ordinary : ∀ step ∈ steps, step.Ordinary)
    (reached : desk.store.Reached) (tame : desk.Tame) : list (Step.takeAll steps desk).2.view =
      list desk.view ++ (steps.zip (Step.takeAll steps desk).1).filterMap (Step.brought brings) := by
  induction steps generalizing desk with
  | nil => exact (List.append_nil _).symm
  | cons step rest ih =>
    have first := ordinary step List.mem_cons_self
    obtain ⟨reached', tame'⟩ := Step.takeReached first reached tame
    have later := ih (fun step mem => ordinary step (List.mem_cons_of_mem _ mem)) reached' tame'
    have here := grows.take first reached tame
    simp only [Step.takeAll, List.zip_cons_cons, List.filterMap_cons]
    rw [later, here, List.append_assoc]
    cases Step.brought brings (step, (step.take desk).1) <;> rfl

end Grows
end BoxOffice
