import BoxOffice.Desk.State

/-! What an action at a desk leads to: a condition on each failure with the desk after it, and one on
each answer. A rule for each way in which actions are put together. -/
namespace BoxOffice

structure Desk.Around {σ : Type} (before after : Desk σ) : Prop where
  verifier : after.verifier = before.verifier
  clock : after.clock = before.clock
  settings : after.settings = before.settings
  escrowAccount : after.escrowAccount = before.escrowAccount
  checksEvents : after.checksEvents = before.checksEvents
  keepsFunds : after.keepsFunds = before.keepsFunds
  faults : after.storeFaults ⊆ before.storeFaults
  receivers : after.brokenReceivers ⊆ before.brokenReceivers

def Desk.Calm {σ : Type} (before after : Desk σ) : Prop :=
  ∃ lines, after.log = before.log ++ lines ∧ ∀ line ∈ lines, line.level ≠ .error

structure Desk.Kept {σ : Type} (before after : Desk σ) : Prop extends before.Around after where
  funds : after.funds = before.funds
  brokenReceivers : after.brokenReceivers = before.brokenReceivers
  notices : after.notices = before.notices
  calm : before.Calm after

structure Desk.Still {σ : Type} (before after : Desk σ) : Prop extends before.Kept after where
  store : after.store = before.store

namespace Desk
variable {σ : Type} {first second third : Desk σ}

theorem Around.refl (desk : Desk σ) : desk.Around desk :=
  ⟨rfl, rfl, rfl, rfl, rfl, rfl, fun _ mem => mem, fun _ mem => mem⟩

theorem Around.trans (early : first.Around second) (late : second.Around third) :
    first.Around third where
  verifier := late.verifier.trans early.verifier
  clock := late.clock.trans early.clock
  settings := late.settings.trans early.settings
  escrowAccount := late.escrowAccount.trans early.escrowAccount
  checksEvents := late.checksEvents.trans early.checksEvents
  keepsFunds := late.keepsFunds.trans early.keepsFunds
  faults := fun _ mem => early.faults (late.faults mem)
  receivers := fun _ mem => early.receivers (late.receivers mem)

theorem Calm.same (log : second.log = first.log) : first.Calm second :=
  ⟨[], by simp [log], nofun⟩

theorem Calm.trans (early : first.Calm second) (late : second.Calm third) : first.Calm third := by
  obtain ⟨lines, written, calm⟩ := early
  obtain ⟨more, written', calm'⟩ := late
  refine ⟨lines ++ more, by rw [written', written, List.append_assoc], fun line mem => ?_⟩
  rcases List.mem_append.mp mem with mem | mem
  · exact calm line mem
  · exact calm' line mem

theorem Kept.refl (desk : Desk σ) : desk.Kept desk :=
  ⟨.refl desk, rfl, rfl, rfl, .same rfl⟩

theorem Kept.trans (early : first.Kept second) (late : second.Kept third) : first.Kept third where
  toAround := early.toAround.trans late.toAround
  funds := late.funds.trans early.funds
  brokenReceivers := late.brokenReceivers.trans early.brokenReceivers
  notices := late.notices.trans early.notices
  calm := early.calm.trans late.calm

theorem Still.refl (desk : Desk σ) : desk.Still desk :=
  ⟨.refl desk, rfl⟩

theorem Still.trans (early : first.Still second) (late : second.Still third) : first.Still third :=
  ⟨early.toKept.trans late.toKept, late.store.trans early.store⟩

theorem stillLog (desk : Desk σ) {level : LogLevel} (source : LogSource) (text : String)
    (calm : level ≠ .error) : desk.Still { desk with log := desk.log ++ [⟨level, source, text⟩] } :=
  ⟨⟨⟨rfl, rfl, rfl, rfl, rfl, rfl, fun _ mem => mem, fun _ mem => mem⟩, rfl, rfl, rfl, _, rfl,
    by simpa using calm⟩, rfl⟩

def Covers (desk : Desk σ) (fails : Failure → Desk σ → Prop) : Prop :=
  ∀ failure after, failure ≠ .receiverFailed → desk.Still after → fails failure after

theorem Covers.still {fails : Failure → Desk σ → Prop} (covers : first.Covers fails)
    (still : first.Still second) : second.Covers fails :=
  fun failure after other late => covers failure after other (still.trans late)

end Desk

namespace Action
variable {σ α β : Type}

def Leads (a : Action σ α) (desk : Desk σ) (fails : Failure → Desk σ → Prop)
    (holds : α → Desk σ → Prop) : Prop :=
  match a.perform desk with
  | (.error failure, after) => fails failure after
  | (.ok value, after) => holds value after

variable {desk : Desk σ} {fails fails' : Failure → Desk σ → Prop} {holds holds' : α → Desk σ → Prop}

theorem leadsMono {a : Action σ α} (leads : a.Leads desk fails holds)
    (failing : ∀ failure after, fails failure after → fails' failure after)
    (holding : ∀ value after, holds value after → holds' value after) :
    a.Leads desk fails' holds' := by
  unfold Leads at leads ⊢
  split <;> rename_i ends <;> rw [ends] at leads
  · exact failing _ _ leads
  · exact holding _ _ leads

theorem leadsPure {value : α} (here : holds value desk) :
    (pure value : Action σ α).Leads desk fails holds := here

theorem leadsThrow {failure : Failure} (here : fails failure desk) :
    (throw failure : Action σ α).Leads desk fails holds := here

theorem leadsBind {a : Action σ α} {next : α → Action σ β} {middle : α → Desk σ → Prop}
    {holds : β → Desk σ → Prop} (first : a.Leads desk fails middle)
    (later : ∀ value after, middle value after → (next value).Leads after fails holds) :
    (a >>= next).Leads desk fails holds := by
  unfold Leads at first ⊢
  rw [performBind]
  split at first <;> rename_i ends <;> rw [ends]
  · exact first
  · exact later _ _ first

theorem bindGet {next : Desk σ → Action σ β} {holds : β → Desk σ → Prop}
    (later : (next desk).Leads desk fails holds) : (get >>= next).Leads desk fails holds := by
  unfold Leads at later ⊢
  rw [performBind, performGet]
  exact later

theorem bindModify {change : Desk σ → Desk σ} {next : Unit → Action σ β} {holds : β → Desk σ → Prop}
    (later : (next ()).Leads (change desk) fails holds) :
    (modify change >>= next).Leads desk fails holds := by
  unfold Leads at later ⊢
  rw [performBind, performModify]
  exact later

theorem bindExcept {value : Except Failure α} {next : α → Action σ β} {holds : β → Desk σ → Prop}
    (failing : ∀ failure, value = .error failure → fails failure desk)
    (later : ∀ a, value = .ok a → (next a).Leads desk fails holds) :
    ((liftM value : Action σ α) >>= next).Leads desk fails holds := by
  unfold Leads at later ⊢
  rw [performBind, performExcept]
  cases value with
  | error failure => exact failing failure rfl
  | ok a => exact later a rfl

theorem leadsCatch {body : Action σ α} {handler : Failure → Action σ α}
    (first : body.Leads desk fails' holds)
    (caught : ∀ failure after, fails' failure after → (handler failure).Leads after fails holds) :
    (tryCatch body handler).Leads desk fails holds := by
  unfold Leads at first ⊢
  rw [performCatch]
  split at first <;> rename_i ends <;> rw [ends]
  · exact caught _ _ first
  · exact first

theorem bindNow {next : Option Moment → Action σ β} {holds : β → Desk σ → Prop}
    (later : (next desk.clock).Leads desk fails holds) : (now >>= next).Leads desk fails holds := by
  unfold Leads at later ⊢
  rw [performBind]
  exact later

theorem bindSettings {next : Settings → Action σ β} {holds : β → Desk σ → Prop}
    (later : (next desk.settings).Leads desk fails holds) :
    (settings >>= next).Leads desk fails holds := by
  unfold Leads at later ⊢
  rw [performBind]
  exact later

theorem leadsGuard {c : Prop} [Decidable c] {failure : Failure} {next : Unit → Action σ α}
    (failing : c → fails failure desk) (later : ¬c → (next ()).Leads desk fails holds) :
    (if c then (throw failure : Action σ Unit) >>= next else next ()).Leads desk fails holds := by
  split
  · exact leadsBind (leadsThrow (failing (by assumption))) fun _ _ (h : False) => h.elim
  · exact later (by assumption)

theorem bindLog {level : LogLevel} {source : LogSource} {text : String} {next : Unit → Action σ β}
    {holds : β → Desk σ → Prop} (calm : level ≠ .error)
    (later : ∀ after, desk.Still after → (next ()).Leads after fails holds) :
    (log level source text >>= next).Leads desk fails holds :=
  bindModify (later _ (desk.stillLog source text calm))

end Action
end BoxOffice
