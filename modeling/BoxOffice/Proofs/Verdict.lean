import BoxOffice.Proofs.Event

/-! Rules that are checked in order. The first that is broken decides under which code a request is refused; a
check obeys its rules if it lets through what keeps them all, and reports the first that is broken. -/
namespace BoxOffice

structure Rule where
  holds : Prop
  code : Code

namespace Rule

inductive FirstBroken : List Rule → Code → Prop
  | here (rule : Rule) {rest : List Rule} (broken : ¬rule.holds) : FirstBroken (rule :: rest) rule.code
  | later {rule : Rule} {rest : List Rule} {code : Code} (kept : rule.holds) (further : FirstBroken rest code) :
      FirstBroken (rule :: rest) code

variable {rule : Rule} {rules : List Rule} {code other : Code}

theorem FirstBroken.notKept (broken : FirstBroken rules code) : ¬∀ rule ∈ rules, rule.holds := by
  induction broken with
  | here _ broken => exact fun kept => broken (kept _ List.mem_cons_self)
  | later _ _ ih => exact fun kept => ih fun rule mem => kept rule (List.mem_cons_of_mem _ mem)

theorem FirstBroken.unique (broken : FirstBroken rules code) (again : FirstBroken rules other) : code = other := by
  induction broken with
  | here _ broken =>
    cases again with
    | here _ _ => rfl
    | later kept _ => exact absurd kept broken
  | later kept _ ih =>
    cases again with
    | here _ broken => exact absurd kept broken
    | later _ further => exact ih further

theorem FirstBroken.before (broken : FirstBroken rules code) (more : List Rule) : FirstBroken (rules ++ more) code := by
  induction broken with
  | here _ broken => exact .here _ broken
  | later kept _ ih => exact .later kept ih

theorem FirstBroken.after {more : List Rule} (kept : ∀ rule ∈ rules, rule.holds) (broken : FirstBroken more code) :
    FirstBroken (rules ++ more) code := by
  induction rules with
  | nil => exact broken
  | cons rule rest ih =>
    obtain ⟨first, kept⟩ := List.forall_mem_cons.mp kept
    exact .later first (ih kept)

theorem FirstBroken.join {p q : Prop} (broken : FirstBroken (⟨p, code⟩ :: ⟨q, code⟩ :: rules) other) :
    FirstBroken (⟨p ∧ q, code⟩ :: rules) other := by
  cases broken with
  | here _ broken => exact .here ⟨p ∧ q, code⟩ (mt And.left broken)
  | later kept further =>
    cases further with
    | here _ broken => exact .here ⟨p ∧ q, code⟩ (mt And.right broken)
    | later kept' further => exact .later ⟨kept, kept'⟩ further

end Rule

/- A check that lets a value through where all rules are kept, and else refuses it for the first that is broken. -/
def Obeys {α : Type} (value : Except Failure α) (rules : List Rule) : Prop :=
  ((∀ rule ∈ rules, rule.holds) ∧ ∃ a, value = .ok a) ∨
    ∃ refusal : EventRefusal, Rule.FirstBroken rules refusal.code ∧ value = .error (.event refusal)

namespace Obeys
variable {α β : Type} {value : Except Failure α} {next : α → Except Failure β} {p q : Prop} {code : Code}
  {rules : List Rule}

theorem none (a : α) : Obeys (.ok a) [] :=
  .inl ⟨nofun, a, rfl⟩

theorem kept (holds : p) (a : α) : Obeys (.ok a) [⟨p, code⟩] :=
  .inl ⟨List.forall_mem_singleton.mpr holds, a, rfl⟩

theorem broken {refusal : EventRefusal} (fails : ¬p) (is : refusal.code = code) :
    Obeys (.error (.event refusal) : Except Failure α) [⟨p, code⟩] :=
  .inr ⟨refusal, is ▸ .here ⟨p, refusal.code⟩ fails, rfl⟩

theorem okIff (obeys : Obeys value rules) : (∀ rule ∈ rules, rule.holds) ↔ ∃ a, value = .ok a := by
  obtain ⟨kept, a, is⟩ | ⟨refusal, broken, is⟩ := obeys
  · exact ⟨fun _ => ⟨a, is⟩, fun _ => kept⟩
  · refine ⟨fun kept => absurd kept broken.notKept, ?_⟩
    rintro ⟨a, ok⟩
    cases is.symm.trans ok

theorem refusedIff (obeys : Obeys value rules) :
    Rule.FirstBroken rules code ↔ ∃ refusal : EventRefusal, value = .error (.event refusal) ∧ refusal.code = code := by
  obtain ⟨kept, a, is⟩ | ⟨refusal, broken, is⟩ := obeys
  · refine ⟨fun broken => absurd kept broken.notKept, ?_⟩
    rintro ⟨refusal, fails, _⟩
    cases is.symm.trans fails
  · constructor
    · exact fun again => ⟨refusal, is, broken.unique again⟩
    · rintro ⟨other, fails, rfl⟩
      cases is.symm.trans fails
      exact broken

theorem bind {more : List Rule} (first : Obeys value rules) (later : ∀ a, value = .ok a → Obeys (next a) more) :
    Obeys (value >>= next) (rules ++ more) := by
  obtain ⟨holds, a, is⟩ | ⟨refusal, fails, is⟩ := first
  · rw [is, show (.ok a : Except Failure α) >>= next = next a from rfl]
    obtain ⟨kept, ends⟩ | ⟨refusal, further, ends⟩ := later a is
    · refine .inl ⟨fun rule mem => ?_, ends⟩
      exact (List.mem_append.mp mem).elim (holds rule) (kept rule)
    · exact .inr ⟨refusal, .after holds further, ends⟩
  · refine .inr ⟨refusal, fails.before more, ?_⟩
    rw [is]
    rfl

theorem guard {c : Prop} [Decidable c] (refusal : EventRefusal) {next : Unit → Except Failure β}
    (later : ¬c → Obeys (next ()) rules) :
    Obeys (if c then (throw (.event refusal) : Except Failure Unit) >>= next else next ())
      (⟨¬c, refusal.code⟩ :: rules) := by
  by_cases fails : c
  · rw [if_pos fails]
    exact .inr ⟨refusal, .here ⟨¬c, refusal.code⟩ (not_not_intro fails), rfl⟩
  · rw [if_neg fails]
    obtain ⟨kept, ends⟩ | ⟨refusal', further, ends⟩ := later fails
    · exact .inl ⟨List.forall_mem_cons.mpr ⟨fails, kept⟩, ends⟩
    · exact .inr ⟨refusal', .later fails further, ends⟩

theorem join (obeys : Obeys value (⟨p, code⟩ :: ⟨q, code⟩ :: rules)) : Obeys value (⟨p ∧ q, code⟩ :: rules) := by
  obtain ⟨kept, ends⟩ | ⟨refusal, broken, ends⟩ := obeys
  · obtain ⟨holds, kept⟩ := List.forall_mem_cons.mp kept
    obtain ⟨holds', kept⟩ := List.forall_mem_cons.mp kept
    exact .inl ⟨List.forall_mem_cons.mpr ⟨⟨holds, holds'⟩, kept⟩, ends⟩
  · exact .inr ⟨refusal, broken.join, ends⟩

theorem mapM {holds : α → Prop} {check : α → Except Failure β} (each : ∀ item, Obeys (check item) [⟨holds item, code⟩])
    (items : List α) : Obeys (items.mapM check) [⟨∀ item ∈ items, holds item, code⟩] := by
  -- By induction on the items; those before the first that fails have passed.
  induction items with
  | nil => exact kept nofun []
  | cons item rest ih =>
    rw [List.mapM_cons]
    have both : Obeys (check item >>= fun b => rest.mapM check >>= fun bs => (pure (b :: bs) : Except Failure (List β)))
        [⟨holds item, code⟩, ⟨∀ item ∈ rest, holds item, code⟩] :=
      bind (each item) fun b _ => bind ih fun bs _ => none (b :: bs)
    have all : (holds item ∧ ∀ item ∈ rest, holds item) = ∀ other ∈ item :: rest, holds other :=
      propext List.forall_mem_cons.symm
    rw [← all]
    exact join both

theorem restate (obeys : Obeys value (⟨p, code⟩ :: rules)) (same : p ↔ q) : Obeys value (⟨q, code⟩ :: rules) :=
  propext same ▸ obeys

end Obeys

end BoxOffice
