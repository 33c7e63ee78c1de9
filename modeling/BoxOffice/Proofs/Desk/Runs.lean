import BoxOffice.Proofs.Desk.Operation

/-! Runs of steps. Apart from records that the host puts into the store by itself, a run reaches only
stores that requests reach. -/
namespace BoxOffice

namespace Action
variable {α β : Type}

def Rests (a : Action Journal α) : Prop :=
  ∀ desk : Desk Journal, desk.Tame → (a.perform desk).2.store = desk.store ∧
    (a.perform desk).2.notices = desk.notices ∧ (a.perform desk).2.checksEvents = desk.checksEvents ∧
    (a.perform desk).2.Tame

theorem restsPure (value : α) : Rests (pure value) := fun _ tame => ⟨rfl, rfl, rfl, tame⟩

theorem restsThrow (failure : Failure) : Rests (throw failure : Action Journal α) :=
  fun _ tame => ⟨rfl, rfl, rfl, tame⟩

theorem restsExcept (value : Except Failure α) : Rests (liftM value) := fun _ tame => ⟨rfl, rfl, rfl, tame⟩

theorem restsGet : Rests (get : Action Journal (Desk Journal)) := fun _ tame => ⟨rfl, rfl, rfl, tame⟩

theorem restsModify {change : Desk Journal → Desk Journal} (store : ∀ desk, (change desk).store = desk.store)
    (notices : ∀ desk, (change desk).notices = desk.notices)
    (checks : ∀ desk, (change desk).checksEvents = desk.checksEvents)
    (faults : ∀ desk, (change desk).storeFaults = desk.storeFaults) : Rests (modify change) := by
  intro desk tame
  rw [performModify]
  refine ⟨store desk, notices desk, checks desk, fun fault mem => tame fault ?_⟩
  rw [← faults desk]
  exact mem

theorem restsBind {first : Action Journal α} {next : α → Action Journal β} (rests : Rests first)
    (later : ∀ a, Rests (next a)) : Rests (first >>= next) := by
  intro desk tame
  have here := rests desk tame
  rw [performBind]
  generalize first.perform desk = ran at here ⊢
  rcases ran with ⟨failure | a, after⟩
  · exact here
  · obtain ⟨store, notices, checks, tame⟩ := here
    obtain ⟨store', notices', checks', tame⟩ := later a after tame
    exact ⟨store'.trans store, notices'.trans notices, checks'.trans checks, tame⟩

theorem restsIte {c : Prop} [Decidable c] {yes no : Action Journal α} (first : Rests yes)
    (second : Rests no) : Rests (if c then yes else no) := by
  split
  · exact first
  · exact second

theorem restsMapM {f : α → Action Journal β} (each : ∀ a, Rests (f a)) (items : List α) :
    Rests (items.mapM f) := by
  induction items with
  | nil => exact restsPure []
  | cons item rest ih =>
    rw [List.mapM_cons]
    exact restsBind (each item) fun _ => restsBind ih fun _ => restsPure _

theorem restsFoldlM {f : β → α → Action Journal β} (each : ∀ b a, Rests (f b a)) (items : List α) (b : β) :
    Rests (items.foldlM f b) := by
  induction items generalizing b with
  | nil => exact restsPure b
  | cons item rest ih =>
    rw [List.foldlM_cons]
    exact restsBind (each b item) ih

theorem restsCall {c : StoreCall} (reads : ∀ t : Tables, (t.plan c).2 = []) : Rests (call c) := by
  intro desk tame
  have leads := leadsCall c tame
  unfold Leads at leads
  generalize (call c).perform desk = ran at leads ⊢
  rcases ran with ⟨failure | answer, after⟩
  · obtain ⟨_, kept, n, edits⟩ := leads
    rw [reads, List.take_nil] at edits
    exact ⟨edits, kept.notices, kept.checksEvents, kept.tame tame⟩
  · obtain ⟨kept, _, edits⟩ := leads
    rw [reads] at edits
    exact ⟨edits, kept.notices, kept.checksEvents, kept.tame tame⟩

theorem restsLog (level : LogLevel) (source : LogSource) (text : String) :
    Rests (log level source text) := fun _ tame => ⟨rfl, rfl, rfl, tame⟩

theorem restsOfExcept (value : Except Failure α) : Rests (MonadExcept.ofExcept value) := by
  cases value with
  | error failure => exact restsThrow failure
  | ok a => exact restsPure a

end Action

open BoxOffice.Action

theorem Survey.runRests {α : Type} {look : Int → Action Journal (Option α)} (each : ∀ n, Rests (look n))
    (most : Nat) (id : Int) : Rests (Survey.run look most id) := by
  induction most generalizing id with
  | zero => exact restsPure []
  | succ most ih =>
    unfold Survey.run
    refine restsBind (each id) fun found => ?_
    split
    · exact restsPure []
    · exact restsBind (ih _) fun _ => restsPure _

theorem Survey.takeRests (extent : Nat) (ids owners : List Raw) :
    Rests (Survey.take Action.call extent ids owners : Action Journal Survey) := by
  unfold Survey.take
  refine restsBind (Survey.runRests (fun _ => restsCall fun _ => rfl) _ _) fun tickets => ?_
  refine restsBind (Survey.runRests (fun _ => restsCall fun _ => rfl) _ _) fun payments => ?_
  refine restsBind (restsMapM (fun given => ?_) ids) fun byEvent => ?_
  · refine restsBind (restsOfExcept _) fun id => ?_
    refine restsBind (restsCall fun _ => rfl) fun _ => restsBind (restsCall fun _ => rfl) fun _ => ?_
    exact restsBind (restsCall fun _ => rfl) fun _ => restsBind (restsCall fun _ => rfl) fun _ =>
      restsPure _
  · refine restsBind (restsCall fun _ => rfl) fun events => ?_
    refine restsBind (restsFoldlM (fun table given => ?_) owners _) fun byOwner => ?_
    · exact restsBind (restsCall fun _ => rfl) fun _ => restsBind (restsOfExcept _) fun _ => restsPure _
    · exact restsBind (restsCall fun _ => rfl) fun escrow => restsPure _

namespace Step

/- A step of a run that starts from an empty store: the host puts no record there by itself, and leaves
the entry of what takes an edit back alone. -/
def Ordinary : Step → Prop
  | seed _ => False
  | breakStore fault => fault.method ≠ entryMethod
  | _ => True

theorem bookRests : Rests (Action.book : Action Journal Funds) :=
  restsBind restsGet fun _ => restsIte (restsPure _) (restsThrow _)

theorem ownVerifierRests : Rests (Action.ownVerifier : Action Journal Verifier) := by
  refine restsBind restsGet fun desk => ?_
  split
  · exact restsPure _
  · exact restsThrow _

theorem replaceVerifierRests (change : Verifier → Except Failure Verifier) :
    Rests (replaceVerifier change : Action Journal Answer) :=
  restsBind ownVerifierRests fun _ => restsBind (restsExcept _) fun _ =>
    restsBind (restsModify (fun _ => rfl) (fun _ => rfl) (fun _ => rfl) fun _ => rfl) fun _ => restsPure _

theorem balanceOfRests (currency account : Raw) : Rests (balanceOf currency account : Action Journal Decimal) :=
  restsBind bookRests fun _ => restsBind (restsExcept _) fun _ => restsBind (restsExcept _) fun _ =>
    restsPure _

theorem transferRests (currency source target : Raw) (amount : Decimal) :
    Rests (Escrow.transfer currency source target amount : Action Journal Bool) := by
  refine restsBind bookRests fun before => restsBind (restsExcept _) fun held =>
    restsBind (restsExcept _) fun giver =>
    restsBind (restsModify (fun _ => rfl) (fun _ => rfl) (fun _ => rfl) fun _ => rfl) fun _ => ?_
  split
  · exact restsThrow _
  · exact restsIte (restsBind (restsLog _ _ _) fun _ => restsPure _) (restsPure _)

theorem requireNameRests (name : String) : Rests (requireName name : Action Journal Unit) := by
  unfold requireName
  exact restsIte (restsThrow _) (restsPure _)

theorem ordinaryRests {step : Step} (ordinary : step.Ordinary) :
    (∃ request, step = .operation request) ∨ Rests (step.run : Action Journal Answer) := by
  cases step with
  | operation request => exact .inl ⟨request, rfl⟩
  | approve identity => exact .inr (replaceVerifierRests _)
  | revoke identity => exact .inr (replaceVerifierRests _)
  | verify identity =>
    exact .inr (restsBind ownVerifierRests fun _ => restsBind (restsExcept _) fun _ => restsPure _)
  | deposit currency account amount =>
    exact .inr (restsBind bookRests fun _ => restsBind (restsExcept _) fun _ => restsBind (restsExcept _)
      fun _ => restsBind (restsExcept _) fun _ => restsBind (restsExcept _) fun _ =>
      restsBind (restsModify (fun _ => rfl) (fun _ => rfl) (fun _ => rfl) fun _ => rfl) fun _ => restsPure _)
  | balance currency account => exact .inr (restsBind (balanceOfRests _ _) fun _ => restsPure _)
  | transfer currency source target amount =>
    exact .inr (restsBind bookRests fun _ => restsBind (restsExcept _) fun _ =>
      restsBind (transferRests _ _ _ _) fun _ => restsPure _)
  | advance seconds micros =>
    exact .inr (restsBind (restsExcept _) fun _ => restsBind restsGet fun _ => restsBind (restsExcept _)
      fun _ => restsBind (restsModify (fun _ => rfl) (fun _ => rfl) (fun _ => rfl) fun _ => rfl)
      fun _ => restsPure _)
  | configure settings =>
    exact .inr (restsBind (restsModify (fun _ => rfl) (fun _ => rfl) (fun _ => rfl) fun _ => rfl)
      fun _ => restsPure _)
  | seed event => exact ordinary.elim
  | breakStore fault =>
    refine .inr (restsBind (requireNameRests _) fun _ => restsBind ?_ fun _ => restsPure _)
    refine fun desk tame => ⟨rfl, rfl, rfl, fun other mem => ?_⟩
    rcases List.mem_cons.mp mem with rfl | old
    · exact ordinary
    · exact tame other old
  | breakReceiver name =>
    exact .inr (restsBind (restsModify (fun _ => rfl) (fun _ => rfl) (fun _ => rfl) fun _ => rfl)
      fun _ => restsPure _)
  | survey ids owners accounts =>
    refine .inr (restsBind restsGet fun desk => restsBind (Survey.takeRests _ _ _) fun _ =>
      restsBind (restsMapM (fun given => ?_) accounts) fun _ => restsPure _)
    exact restsBind (restsExcept _) fun _ => restsBind (balanceOfRests _ _) fun _ => restsPure _
  | unreadable failure => exact .inr (restsThrow _)

end Step

namespace Step
variable {step : Step} {steps : List Step} {desk : Desk Journal}

theorem takeReached (ordinary : step.Ordinary) (reached : desk.store.Reached) (tame : desk.Tame) :
    (step.take desk).2.store.Reached ∧ (step.take desk).2.Tame := by
  obtain ⟨request, rfl⟩ | rests := ordinaryRests ordinary
  · have ready := (request.ends (reached.ready tame)).ready (reached.ready tame)
    exact ⟨.operation request reached tame, ready.tame⟩
  · obtain ⟨store, _, _, tame⟩ := rests desk tame
    exact ⟨store.symm ▸ reached, tame⟩

theorem takeChecks (ordinary : step.Ordinary) (reached : desk.store.Reached) (tame : desk.Tame) :
    (step.take desk).2.checksEvents = desk.checksEvents := by
  obtain ⟨request, rfl⟩ | rests := ordinaryRests ordinary
  · exact (request.ends (reached.ready tame)).around.checksEvents
  · obtain ⟨_, _, checks, _⟩ := rests desk tame
    exact checks

theorem takeAllReached (ordinary : ∀ step ∈ steps, step.Ordinary) (reached : desk.store.Reached)
    (tame : desk.Tame) : (takeAll steps desk).2.store.Reached ∧ (takeAll steps desk).2.Tame := by
  induction steps generalizing desk with
  | nil => exact ⟨reached, tame⟩
  | cons step rest ih =>
    obtain ⟨reached, tame⟩ := takeReached (ordinary step List.mem_cons_self) reached tame
    exact ih (fun step mem => ordinary step (List.mem_cons_of_mem _ mem)) reached tame

end Step
end BoxOffice
