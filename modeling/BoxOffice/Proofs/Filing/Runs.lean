import BoxOffice.Proofs.Filing.Requests

/-! The events under which a run files its records: those that its steps name. -/
namespace BoxOffice

open BoxOffice.Action

section
variable {σ : Type} {filed : σ → List EventId} {may : EventId → Prop}

theorem Survey.runFiles {α : Type} {look : Int → Action σ (Option α)}
    (each : ∀ n, Files filed may (look n) fun _ => True) (most : Nat) (id : Int) :
    Files filed may (Survey.run look most id) fun _ => True := by
  induction most generalizing id with
  | zero => exact filesPure trivial
  | succ most ih =>
    unfold Survey.run
    refine filesBind (each id) fun found _ => ?_
    split
    · exact filesPure trivial
    · exact filesBind (ih _) fun _ _ => filesPure trivial

theorem filesRead {α : Type} (value : Except Failure α) :
    Files filed may (MonadExcept.ofExcept value : Action σ α) fun _ => True := by
  cases value with
  | error failure => exact filesThrow
  | ok a => exact filesPure trivial

variable [RecordStore σ] (filing : RecordStore.Filing filed)
include filing

theorem Survey.takeFiles (extent : Nat) (ids owners : List Raw) :
    Files filed may (Survey.take Action.call extent ids owners : Action σ Survey) fun _ => True := by
  unfold Survey.take
  refine filesBind (Survey.runFiles (fun _ => filesOwn filing nofun) _ _) fun tickets _ => ?_
  refine filesBind (Survey.runFiles (fun _ => filesOwn filing nofun) _ _) fun payments _ => ?_
  refine filesBind (filesMapM (fun given => ?_) ids) fun byEvent _ => ?_
  · refine filesBind (filesRead _) fun id _ => ?_
    refine filesBind (filesOwn filing nofun) fun _ _ => filesBind (filesOwn filing nofun) fun _ _ => ?_
    exact filesBind (filesOwn filing nofun) fun _ _ => filesBind (filesOwn filing nofun) fun _ _ =>
      filesPure trivial
  · refine filesBind (filesOwn filing nofun) fun events _ => ?_
    refine filesBind (filesFoldlM (fun table given => ?_) owners _) fun byOwner _ => ?_
    · exact filesBind (filesOwn filing nofun) fun _ _ => filesBind (filesRead _) fun _ _ => filesPure trivial
    · exact filesBind (filesOwn filing nofun) fun escrow _ => filesPure trivial

end

def Step.Names (id : EventId) : Step → Prop
  | operation request => request.event? = some (.text id.text)
  | seed (.ok event) => event.id = id
  | _ => False

namespace Step
variable {σ : Type} {filed : σ → List EventId} {may : EventId → Prop}

theorem ownVerifierFiles : Files filed may Action.ownVerifier fun _ => True := by
  refine filesBind filesGet fun desk _ => ?_
  split
  · exact filesPure trivial
  · exact filesThrow

theorem replaceVerifierFiles (change : Verifier → Except Failure Verifier) :
    Files filed may (replaceVerifier change) fun _ => True :=
  filesBind ownVerifierFiles fun _ _ => filesBind (filesValue _) fun _ _ =>
    filesBind (filesModify fun _ => rfl) fun _ _ => filesPure trivial

theorem balanceOfFiles (currency account : Raw) : Files filed may (balanceOf currency account) fun _ => True :=
  filesBind Escrow.bookFiles fun _ _ => filesBind (filesValue _) fun _ _ => filesBind (filesValue _) fun _ _ =>
    filesPure trivial

variable [RecordStore σ]

theorem requireNameFiles (name : String) : Files filed may (requireName name : Action σ Unit) fun _ => True := by
  unfold requireName
  exact filesIte filesThrow (filesPure trivial)

theorem runFiles (filing : RecordStore.Filing filed) (step : Step) (own : ∀ id, step.Names id → may id) :
    Files filed may (step.run : Action σ Answer) fun _ => True := by
  cases step with
  | operation request => exact Operation.runFiles filing request own
  | approve identity => exact replaceVerifierFiles _
  | revoke identity => exact replaceVerifierFiles _
  | verify identity =>
    exact filesBind ownVerifierFiles fun _ _ => filesBind (filesValue _) fun _ _ => filesPure trivial
  | deposit currency account amount =>
    exact filesBind Escrow.bookFiles fun _ _ => filesBind (filesValue _) fun _ _ => filesBind (filesValue _)
      fun _ _ => filesBind (filesValue _) fun _ _ => filesBind (filesValue _) fun _ _ =>
      filesBind (filesModify fun _ => rfl) fun _ _ => filesPure trivial
  | balance currency account => exact filesBind (balanceOfFiles _ _) fun _ _ => filesPure trivial
  | transfer currency source target amount =>
    exact filesBind Escrow.bookFiles fun _ _ => filesBind (filesValue _) fun _ _ =>
      filesBind (Escrow.transferFiles _ _ _ _) fun _ _ => filesPure trivial
  | advance seconds micros =>
    exact filesBind (filesValue _) fun _ _ => filesBind filesGet fun _ _ => filesBind (filesValue _)
      fun _ _ => filesBind (filesModify fun _ => rfl) fun _ _ => filesPure trivial
  | configure settings => exact filesBind (filesModify fun _ => rfl) fun _ _ => filesPure trivial
  | seed event =>
    refine filesBind (requireNameFiles _) fun _ _ => filesBind (filesExcept fun made is => is) fun made is => ?_
    subst is
    have puts : Files filed may (Action.call (.addEvent made) : Action σ Unit) fun _ => True :=
      filesOwn filing fun id same => own id (Option.some.inj same)
    exact filesBind puts fun _ _ => filesPure trivial
  | breakStore fault =>
    exact filesBind (requireNameFiles _) fun _ _ => filesBind (filesModify fun _ => rfl) fun _ _ =>
      filesPure trivial
  | breakReceiver name => exact filesBind (filesModify fun _ => rfl) fun _ _ => filesPure trivial
  | survey ids owners accounts =>
    refine filesBind filesGet fun desk _ => filesBind (Survey.takeFiles filing _ _ _) fun _ _ =>
      filesBind (filesMapM (fun given => ?_) accounts) fun _ _ => filesPure trivial
    exact filesBind (filesValue _) fun _ _ => filesBind (balanceOfFiles _ _) fun _ _ => filesPure trivial
  | unreadable failure => exact filesThrow

theorem takeFiled (filing : RecordStore.Filing filed) (step : Step) (desk : Desk σ) {id : EventId}
    (mem : id ∈ filed (step.take desk).2.store) : id ∈ filed desk.store ∨ step.Names id := by
  have files : Files filed (fun id => id ∈ filed desk.store ∨ step.Names id) (step.run : Action σ Answer) fun _ => True :=
    runFiles filing step fun _ names => .inr names
  have ends := files desk fun _ mem => .inl mem
  unfold Leads at ends
  rw [take] at mem
  generalize step.run.perform desk = ran at ends mem
  obtain ⟨failure | answer, after⟩ := ran
  · exact ends id mem
  · exact ends.1 id mem

theorem takeAllFiled (filing : RecordStore.Filing filed) (steps : List Step) (desk : Desk σ) {id : EventId}
    (mem : id ∈ filed (takeAll steps desk).2.store) : id ∈ filed desk.store ∨ ∃ step ∈ steps, step.Names id := by
  induction steps generalizing desk with
  | nil => exact .inl mem
  | cons step rest ih =>
    rcases ih _ mem with first | ⟨later, inside, names⟩
    · exact (takeFiled filing step desk first).imp_right fun names => ⟨step, List.mem_cons_self, names⟩
    · exact .inr ⟨later, List.mem_cons_of_mem _ inside, names⟩

end Step
end BoxOffice
