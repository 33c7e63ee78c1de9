import BoxOffice.Proofs.Desk.Rules

/-! Which failures calls and blocks can bring into a request, whatever disturbances wait: those of disturbances
and those of the calls themselves. -/
namespace BoxOffice

def Failure.Disturbs (failure : Failure) : Prop :=
  failure = .writeFailed ∨ failure = .notOffered ∨ failure = .misplaced

theorem Failure.Disturbs.plain {failure : Failure} (disturbs : failure.Disturbs) (refusal : EventRefusal) :
    failure ≠ .event refusal := by
  rcases disturbs with rfl | rfl | rfl <;> nofun

theorem Journal.passFailure {waiting : Waiting} {c : StoreCall} {s : Journal} {ended : Interruption Journal}
    {failure : Failure} (quiet : waiting entryMethod = none) (passed : pass waiting c s = .error ended)
    (own : ended.failure = some failure) : failure.Disturbs ∨ (s.tables.plan c).1 = .error failure := by
  have worked {ended : Interruption Journal} (passed : passWork waiting c s = .error ended)
      (own : ended.failure = some failure) : failure.Disturbs ∨ (s.tables.plan c).1 = .error failure := by
    unfold passWork at passed
    split at passed
    · cases passed
      exact .inl (.inr (.inr (Option.some.inj own).symm))
    split at passed
    · cases passed
      exact .inl (.inr (.inl (Option.some.inj own).symm))
    cases edits : (s.tables.plan c).2.foldlM (passEdit waiting) s with
    | error early =>
      simp only [edits, bind, Except.bind] at passed
      cases passed
      rw [(passEditsError quiet edits).2] at own
      cases own
    | ok after =>
      simp only [edits, bind, Except.bind] at passed
      split at passed
      · rename_i method planned unlabelled failed
        obtain ⟨_, none⟩ | ⟨worked, _⟩ | ⟨inner, worked, _, same⟩ := Passage.throughError passed
        · rw [none] at own
          cases own
        · cases worked
        · cases worked
          rw [← same] at own
          cases own
          exact .inr failed
      · cases passed
  unfold pass at passed
  split at passed
  · obtain ⟨_, none⟩ | ⟨_, none⟩ | ⟨inner, through, _, same⟩ := Passage.throughError passed
    · rw [none] at own
      cases own
    · rw [none] at own
      cases own
    · exact worked through (same.trans own)
  · exact worked passed own

namespace Action

section
variable {σ α : Type} {desk : Desk σ} {fails fails' : Failure → Desk σ → Prop} {holds holds' : α → Desk σ → Prop}

theorem leadsBoth {a : Action σ α} (first : a.Leads desk fails holds) (second : a.Leads desk fails' holds') :
    a.Leads desk (fun failure after => fails failure after ∧ fails' failure after)
      fun value after => holds value after ∧ holds' value after := by
  unfold Leads at first second ⊢
  split at first <;> rename_i ends <;> rw [ends] at second <;> exact ⟨first, second⟩

theorem struckDisturbs {method : String} {after : Bool} {failure : Failure}
    (struck : struck? desk method = some (after, failure)) : failure.Disturbs := by
  unfold struck? at struck
  split at struck
  · cases struck
  · split at struck <;> cases struck
    · exact .inr (.inl rfl)
    · exact .inl rfl

theorem disturbedEnds {method : String} {work : Action σ α}
    (disturbs : ∀ failure after, Failure.Disturbs failure → fails failure after)
    (worked : ∀ start, desk.Still start → work.Leads start fails holds) :
    (disturbed method work).Leads desk fails holds := by
  unfold disturbed
  refine bindGet ?_
  split
  · exact worked desk (.refl desk)
  · rename_i after failure struck
    refine bindModify ?_
    cases after with
    | false => exact leadsThrow (disturbs failure _ (struckDisturbs struck))
    | true =>
      exact leadsBind (worked _ (stillForget desk method)) fun _ last _ =>
        leadsThrow (disturbs failure last (struckDisturbs struck))

theorem authenticateEnds (caller : Raw) (refusal : Failure) (desk : Desk σ) :
    (authenticate caller refusal).Leads desk
      (fun failure _ => failure = refusal ∨ failure = .notALabel ∨ failure = .notOffered)
      fun _ after => after = desk := by
  unfold authenticate
  refine bindGet (bindExcept (fun failure failed => ?_) fun known _ => ?_)
  · cases verifier : desk.verifier.getD .trustedHost with
    | trustedHost =>
      rw [verifier] at failed
      cases failed
    | approved labels =>
      rw [verifier] at failed
      cases labelled : Checked.label caller with
      | error other =>
        rw [Verifier.verify, labelled] at failed
        cases failed
        exact .inr (.inl (labelFailure labelled))
      | ok label =>
        rw [Verifier.verify, labelled] at failed
        cases failed
    | unfit =>
      rw [verifier] at failed
      cases failed
      exact .inr (.inr rfl)
  · cases known with
    | true => exact leadsPure rfl
    | false => exact leadsThrow (.inl rfl)

theorem eventIdEnds (given : Raw) (refusal : Failure) (desk : Desk σ) :
    (eventId given refusal).Leads desk (fun failure _ => failure = refusal) fun _ after => after = desk := by
  unfold eventId
  repeat' split
  all_goals first | exact leadsPure rfl | exact leadsThrow rfl

end

section
variable {α : Type} {desk : Desk Journal} {fails : Failure → Prop}

theorem callEnds (c : StoreCall) (tame : desk.Tame) : (call c).Leads desk
    (fun failure _ => failure.Disturbs ∨ (desk.store.tables.plan c).1 = .error failure)
    (CallHolds c desk) := by
  refine leadsMono (leadsBoth (?_ : (call c).Leads desk
    (fun failure _ => failure.Disturbs ∨ (desk.store.tables.plan c).1 = .error failure) fun _ _ => True)
    (leadsCall c tame)) (fun _ _ h => h.1) fun _ _ h => h.2
  have plain (start : Desk Journal) (same : start.store = desk.store) : (undisturbed c).Leads start
      (fun failure _ => failure.Disturbs ∨ (desk.store.tables.plan c).1 = .error failure)
      fun _ _ => True := by
    unfold Leads undisturbed
    rw [performStep, same]
    simp only [RecordStore.call, Journal.call]
    cases (desk.store.tables.plan c).1 with
    | error failure => exact .inr rfl
    | ok value => trivial
  unfold call
  refine disturbedEnds (fun _ _ => .inl) fun start still => bindGet ?_
  split
  · exact plain start still.store
  unfold interruptible
  refine bindGet ?_
  split
  · exact plain start still.store
  rename_i ended interrupted
  refine bindModify (bindForgetAll fun last _ => leadsThrow ?_)
  cases own : ended.failure with
  | some failure =>
    have passed : Journal.pass (waiting start) c start.store = .error ended := by
      simp only [RecordStore.interrupted] at interrupted
      unfold Passage.interruption? at interrupted
      split at interrupted <;> cases interrupted
      assumption
    rw [still.store] at passed
    exact Journal.passFailure (waitingTame (still.tame tame)) passed own
  | none =>
    cases found : (ended.methods.getLast?.bind (struck? start)).map Prod.snd with
    | none => exact .inl (.inl rfl)
    | some failure =>
      obtain ⟨⟨after, _⟩, struck, rfl⟩ := Option.map_eq_some_iff.mp found
      obtain ⟨method, _, struck⟩ := Option.bind_eq_some_iff.mp struck
      exact .inl (struckDisturbs struck)

theorem callNever {c : StoreCall} {refusal : EventRefusal} (tame : desk.Tame)
    (plain : (desk.store.tables.plan c).1 ≠ .error (.event refusal)) :
    (call c).Leads desk (fun failure _ => failure ≠ .event refusal) (CallHolds c desk) := by
  refine leadsMono (callEnds c tame) ?_ fun _ _ h => h
  rintro failure after (disturbs | failed)
  · exact disturbs.plain refusal
  · rintro rfl
    exact plain failed

theorem atomicallyEnds {body : Action Journal α} (tame : desk.Tame)
    (disturbs : ∀ failure, Failure.Disturbs failure → fails failure)
    (inside : ∀ first : Desk Journal, first.Tame → first.view = desk.view → desk.Around first →
      body.Leads first (fun failure _ => fails failure) fun _ _ => True) :
    (atomically body).Leads desk (fun failure _ => fails failure) fun _ _ => True := by
  have opened : (opening : Action Journal Unit).Leads desk (fun failure _ => fails failure)
      fun _ after => desk.Still after := by
    unfold opening
    have entered : (disturbed blockMethod (pure () : Action Journal Unit)).Leads desk
        (fun failure _ => fails failure) fun _ after => desk.Still after :=
      disturbedEnds (fun failure _ => disturbs failure) fun _ still => leadsPure still
    refine leadsBind entered fun _ after still => bindGet ?_
    split
    · rename_i failure barred
      simp only [RecordStore.barrier, Journal.barrier] at barred
      split at barred <;> cases barred
      exact leadsThrow (disturbs _ (.inr (.inr rfl)))
    · exact leadsPure still
  refine leadsBind opened fun _ after still => ?_
  have ends := inside { after with store := RecordStore.enter after.store } (still.tame tame) still.view
    (still.toAround.trans (keptStore after _).toAround)
  unfold Leads block
  rw [performStep]
  unfold Leads at ends
  generalize body.perform { after with store := RecordStore.enter after.store } = ran at ends ⊢
  rcases ran with ⟨failure | a, last⟩
  · exact ends
  · trivial

end

end Action
end BoxOffice
