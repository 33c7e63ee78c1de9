import BoxOffice.Proofs.Desk.Growth

/-! What observers have heard by some point of a run, beside what is recorded there. Where a receiver fails, it
is only the last notice of a cancellation that nobody hears. -/
namespace BoxOffice

/- What is said of the records and of all that has been told, whatever takes effect. The notice that an event is
cancelled comes after the one of its new status, and adds nothing. -/
structure Story (holds : View → List Notice → Prop) : Prop where
  told : ∀ {desk : Desk Journal} {request edits funds told answer}, desk.store.Reached →
    holds desk.view desk.notices → desk.Effect request edits funds told answer →
    holds (edits.foldl View.edit desk.view) (desk.notices ++ told)
  untold : ∀ view told id, holds view (told ++ [.eventCancelled id]) → holds view told

namespace Desk
variable {desk after : Desk Journal} {request : Operation} {holds : View → List Notice → Prop}

theorem Effect.heard {edits : List Edit} {funds : Funds} {told heard : List Notice} {answer : Answer}
    (effect : desk.Effect request edits funds told answer) (some : heard ≠ []) (early : heard <+: told) :
    heard = told ∨ ∃ id, told = heard ++ [.eventCancelled id] := by
  obtain ⟨rest, whole⟩ := early
  cases heard with
  | nil => exact absurd rfl some
  | cons first more =>
    cases effect with
    | escrowSet => cases whole
    | cancelled =>
      cases more with
      | nil =>
        cases whole
        exact .inr ⟨_, rfl⟩
      | cons second more => exact .inl (by simp_all)
    | _ => exact .inl (by simp_all)

theorem Ends.story {outcome : Except Failure Answer} (ends : desk.Ends request outcome after)
    (story : Story holds) (reached : desk.store.Reached) (now : holds desk.view desk.notices) :
    holds after.view after.notices := by
  cases ends with
  | refused other book took =>
    rw [took.view, took.notices, List.append_nil]
    exact now
  | found finds took =>
    rw [took.view, took.notices, List.append_nil]
    exact now
  | done effect took =>
    rw [took.view, took.notices]
    exact story.told reached now effect
  | unheard effect some early took =>
    rw [took.view, took.notices]
    obtain rfl | ⟨id, rfl⟩ := effect.heard some early
    · exact story.told reached now effect
    · refine story.untold _ _ id ?_
      rw [List.append_assoc]
      exact story.told reached now effect

end Desk

namespace Story
variable {holds : View → List Notice → Prop} {step : Step} {steps : List Step} {desk : Desk Journal}

theorem take (story : Story holds) (ordinary : step.Ordinary) (reached : desk.store.Reached)
    (tame : desk.Tame) (now : holds desk.view desk.notices) :
    holds (step.take desk).2.view (step.take desk).2.notices := by
  obtain ⟨request, rfl⟩ | rests := Step.ordinaryRests ordinary
  · exact (request.ends (reached.ready tame)).story story reached now
  · obtain ⟨store, notices, _⟩ := rests desk tame
    have view : (step.take desk).2.view = desk.view := congrArg (fun s : Journal => s.tables.view) store
    have heard : (step.take desk).2.notices = desk.notices := notices
    rw [view, heard]
    exact now

theorem takeAll (story : Story holds) (ordinary : ∀ step ∈ steps, step.Ordinary)
    (reached : desk.store.Reached) (tame : desk.Tame) (now : holds desk.view desk.notices) :
    holds (Step.takeAll steps desk).2.view (Step.takeAll steps desk).2.notices := by
  induction steps generalizing desk with
  | nil => exact now
  | cons step rest ih =>
    have first := ordinary step List.mem_cons_self
    obtain ⟨reached', tame'⟩ := Step.takeReached first reached tame
    exact ih (fun step mem => ordinary step (List.mem_cons_of_mem _ mem)) reached' tame'
      (story.take first reached tame now)

end Story

structure Echoes {β : Type} (carries : Notice → Option β) (list : View → List β) : Prop where
  quiet : ∀ id, carries (.eventCancelled id) = none
  told : ∀ {desk : Desk Journal} {request edits funds told answer}, desk.store.Reached →
    desk.Effect request edits funds told answer →
    list (edits.foldl View.edit desk.view) = list desk.view ++ told.filterMap carries

theorem Echoes.story {β : Type} {carries : Notice → Option β} {list : View → List β}
    (echoes : Echoes carries list) : Story fun view told => told.filterMap carries = list view where
  told reached now effect := by
    rw [List.filterMap_append, now]
    exact (echoes.told reached effect).symm
  untold _ _ _ now := by
    rw [List.filterMap_append, List.filterMap_cons, echoes.quiet, List.filterMap_nil, List.append_nil] at now
    exact now

theorem Echoes.takeAll {β : Type} {carries : Notice → Option β} {list : View → List β}
    (echoes : Echoes carries list) {steps : List Step} {desk : Desk Journal}
    (ordinary : ∀ step ∈ steps, step.Ordinary) (empty : desk.store = .empty) (tame : desk.Tame)
    (untold : desk.notices = []) (first : list Tables.empty.view = []) :
    (Step.takeAll steps desk).2.notices.filterMap carries = list (Step.takeAll steps desk).2.view := by
  have now : desk.notices.filterMap carries = list desk.view := by
    rw [untold, Desk.view, empty]
    exact first.symm
  exact echoes.story.takeAll ordinary (empty ▸ .empty) tame now

end BoxOffice
