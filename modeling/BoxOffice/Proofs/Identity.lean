import BoxOffice.Proofs.Desk.Ruling
import BoxOffice.Proofs.Entitlement
import BoxOffice.Proofs.Filing.Relational
import BoxOffice.Proofs.Filing.Runs

/-! Which event ids enter the records. An id is 1 to 32 letters, digits and underscores, and one line break is
let through behind them; any other value is refused before anything is done, and no record is ever filed under
an id that nobody gave. -/
namespace BoxOffice

namespace EventId

structure WellFormed (text : String) : Prop where
  some : 1 ≤ text.length
  short : text.length ≤ 32
  plain : ∀ c ∈ text.toList, ('A' ≤ c ∧ c ≤ 'Z') ∨ ('a' ≤ c ∧ c ≤ 'z') ∨ ('0' ≤ c ∧ c ≤ '9') ∨ c = '_'

def Admitted (text : String) : Prop :=
  WellFormed text ∨ ∃ stem, WellFormed stem ∧ text = stem ++ "\n"

def Broken (text : String) : Prop :=
  text.toList.getLast? = some '\n'
deriving Decidable

theorem idCharIff (c : Char) : isIdChar c = true ↔
    ('A' ≤ c ∧ c ≤ 'Z') ∨ ('a' ≤ c ∧ c ≤ 'z') ∨ ('0' ≤ c ∧ c ≤ '9') ∨ c = '_' := by
  simp only [isIdChar, Char.isAlphanum, Char.isAlpha, Char.isUpper, Char.isLower, Char.isDigit, Bool.or_eq_true,
    Bool.and_eq_true, decide_eq_true_eq, beq_iff_eq, or_assoc]
  rfl

theorem wellFormedIff (text : String) : WellFormed text ↔
    1 ≤ text.toList.length ∧ text.toList.length ≤ 32 ∧ text.toList.all isIdChar = true := by
  simp only [List.all_eq_true, idCharIff, String.length_toList]
  constructor
  · rintro ⟨any, short, plain⟩
    exact ⟨any, short, plain⟩
  · rintro ⟨any, short, plain⟩
    exact ⟨any, short, plain⟩

theorem wellFormedWhole {text : String} (formed : WellFormed text) : ¬Broken text := by
  intro last
  have plain := ((wellFormedIff text).mp formed).2.2
  have broken := List.all_eq_true.mp plain _ (List.mem_of_getLast? last)
  exact absurd broken (by decide)

theorem wellFormedBody {text : String} (formed : WellFormed text) : body text.toList = text.toList :=
  if_neg (wellFormedWhole formed)

theorem acceptsIff (text : List Char) : accepts text = true ↔ WellFormed (String.ofList (body text)) := by
  rw [wellFormedIff, String.toList_ofList]
  simp [accepts, and_assoc]

theorem admittedIff (text : String) : (ofText? text).isSome = true ↔ Admitted text := by
  have read : (ofText? text).isSome = true ↔ accepts text.toList = true := by
    unfold ofText?
    split <;> simp_all
  rw [read, acceptsIff]
  constructor
  · intro formed
    by_cases last : text.toList.getLast? = some '\n'
    · refine .inr ⟨_, formed, ?_⟩
      have whole := List.dropLast_append_getLast? '\n' last
      rw [← String.toList_inj, String.toList_append, String.toList_ofList, body, if_pos last]
      exact whole.symm
    · rw [body, if_neg last, String.ofList_toList] at formed
      exact .inl formed
  · rintro (formed | ⟨stem, formed, rfl⟩)
    · rwa [wellFormedBody formed, String.ofList_toList]
    · have stripped : body (stem ++ "\n").toList = stem.toList := by
        simp [body]
      rwa [stripped, String.ofList_toList]

theorem formedIff (text : String) : WellFormed text ↔ Admitted text ∧ ¬Broken text := by
  constructor
  · intro formed
    exact ⟨.inl formed, wellFormedWhole formed⟩
  · rintro ⟨formed | ⟨stem, _, rfl⟩, whole⟩
    · exact formed
    · exact absurd (by simp [Broken]) whole

theorem admittedText (id : EventId) : Admitted id.text := by
  rw [← admittedIff, ofTextSelf]
  rfl

end EventId

def Operation.identifies? : Operation → Option (Raw × Failure)
  | createEvent _ event _ _ _ _ _ | updateEventDetails _ event _ | addTicketTier _ event _
  | updateTier _ event _ _ | updateEventStatus _ event _ | cancelEvent _ event | getEvent event
  | getEventStatus event | registerForEvent _ event _ | isRegistered event _ | getAttendees event =>
    some (event, .event .malformedId)
  | payForTicket _ event _ | getEventRevenue event | getEventPayments event => some (event, .payment .malformedId)
  | mintTicket _ event _ | getEventTickets event => some (event, .ticket .malformedId)
  | _ => none

namespace Action
variable {σ α β : Type} {desk : Desk σ}

theorem performLetIn {caller : Raw} (verified : desk.Verified caller) (refusal : Failure)
    (next : Unit → Action σ β) : (authenticate caller refusal >>= next).perform desk = (next ()).perform desk := by
  rw [performBind, performAuthenticate, Desk.admits, verified]
  rfl

theorem performMalformed {given : Raw} (other : ∀ text, given = .text text → ¬EventId.Admitted text)
    (refusal : Failure) : (eventId given refusal).perform desk = (.error refusal, desk) := by
  cases given with
  | text text =>
    have none : EventId.ofText? text = none := by
      have unread := (EventId.admittedIff text).not.mpr (other text rfl)
      simpa using unread
    simp only [eventId, none]
    rfl
  | nothing | truth _ | whole _ | fraction _ | list _ | record _ => rfl

end Action

open BoxOffice.Action

theorem Operation.malformedRefused {σ : Type} [RecordStore σ] {desk : Desk σ} {request : Operation} {given : Raw}
    {refusal : Failure} (asks : request.identifies? = some (given, refusal))
    (other : ∀ text, given = .text text → ¬EventId.Admitted text)
    (verified : ∀ caller, request.caller = some caller → desk.Verified caller) :
    request.run.perform desk = (.error refusal, desk) ∧ refusal.code? = some .invalidInput := by
  cases request with
  | createEvent | updateEventDetails | addTicketTier | updateTier | updateEventStatus | cancelEvent
  | registerForEvent | payForTicket | mintTicket =>
    cases asks
    refine ⟨performFails ((performLetIn (verified _ rfl) _ _).trans (performFails ?_ _)) _, rfl⟩
    exact performMalformed other _
  | getEvent | getEventStatus | getEventRevenue | getEventPayments | getEventTickets =>
    cases asks
    exact ⟨performFails (performFails (performMalformed other _) _) _, rfl⟩
  | isRegistered | getAttendees =>
    cases asks
    exact ⟨performFails (performFails (performFails (performMalformed other _) _) _) _, rfl⟩
  | _ => cases asks

/- Ids as a run may leave them in the records: every one was given by a step and is let through, and all are well
formed unless a step gives one with a line break at its end. -/
structure Step.Supplies (steps : List Step) (ids : List EventId) : Prop where
  given : ∀ id ∈ ids, ∃ step ∈ steps, step.Names id
  admitted : ∀ id ∈ ids, EventId.Admitted id.text
  formed : (∀ step ∈ steps, ∀ id, step.Names id → ¬EventId.Broken id.text) →
    ∀ id ∈ ids, EventId.WellFormed id.text

theorem Step.suppliesGiven {steps : List Step} {ids : List EventId}
    (given : ∀ id ∈ ids, ∃ step ∈ steps, step.Names id) : Step.Supplies steps ids := by
  refine ⟨given, fun id _ => id.admittedText, fun whole id mem => ?_⟩
  obtain ⟨step, inside, names⟩ := given id mem
  exact (EventId.formedIff id.text).mpr ⟨id.admittedText, whole step inside id names⟩

/-- Exactly the well-formed texts are read as event ids, and these with one line break behind them; so a text that
does not end in a line break is read exactly if it is well formed. A request that gives anything else for an id
is refused as soon as its caller is let in, and leaves the desk as it was. And whatever a run does, at a store in
memory or in tables, every event, registration, payment and ticket is in the end filed under an id of this kind
that one of the steps has given, and under a well-formed one unless a step gives one that ends in a line break. -/
theorem onlyAdmittedIdsEnter (text : String) (steps : List Step) :
    ((EventId.ofText? text).isSome = true ↔ EventId.Admitted text) ∧
    (EventId.WellFormed text ↔ EventId.Admitted text ∧ ¬EventId.Broken text) ∧
    (∀ {σ : Type} [RecordStore σ] (desk : Desk σ) (request : Operation) (given : Raw) (refusal : Failure),
      request.identifies? = some (given, refusal) → (∀ text, given = .text text → ¬EventId.Admitted text) →
      (∀ caller, request.caller = some caller → desk.Verified caller) →
      request.run.perform desk = (.error refusal, desk) ∧ refusal.code? = some .invalidInput) ∧
    (∀ desk : Desk Journal, desk.store = .empty →
      Step.Supplies steps (Step.takeAll steps desk).2.store.tables.filed) ∧
    ∀ {τ : Type} [TotalColumn τ] (desk : Desk (Relational τ)), desk.store = .empty →
      Step.Supplies steps (Step.takeAll steps desk).2.store.rows.filed := by
  refine ⟨EventId.admittedIff text, EventId.formedIff text,
    fun desk request given refusal => Operation.malformedRefused, ?_, ?_⟩
  · intro desk empty
    refine Step.suppliesGiven fun id mem => ?_
    have filed := Step.takeAllFiled Journal.filing steps desk (Journal.memFiled.mpr (.inl mem))
    rw [empty] at filed
    exact filed.resolve_left nofun
  · intro τ _ desk empty
    refine Step.suppliesGiven fun id mem => ?_
    have filed := Step.takeAllFiled Relational.filing steps desk (Relational.memFiled.mpr (.inl mem))
    rw [empty] at filed
    exact filed.resolve_left nofun

theorem onlyAdmittedIdsEnterGala :
    let create (id : String) : Operation :=
      .createEvent (.text "host") (.text id) (.text "Gala") .nothing (.text "Hall")
        (some ⟨3 * Moment.microsPerDay, some 0⟩) [⟨.text "Stalls", .whole 5, .whole 2⟩]
    let steps : List Step :=
      [.operation (create "gala"), .operation (create "gala!"),
      .operation (.mintTicket (.text "host") (.text "ball_2") (.text "ann"))]
    let desk : Desk Journal :=
      .opened .empty none (some ⟨Moment.microsPerDay, some 0⟩) .standard (.text "escrow") false true
    EventId.WellFormed "gala" ∧ ¬EventId.Admitted "gala!" ∧ desk.Verified (.text "host") ∧
      (create "gala!").run.perform desk = (.error (.event .malformedId), desk) ∧
      (Step.takeAll steps desk).2.store.tables.filed = [⟨"gala", rfl⟩, ⟨"ball_2", rfl⟩] ∧
      ∀ id ∈ (Step.takeAll steps desk).2.store.tables.filed, EventId.WellFormed id.text := by
  intro create steps desk
  obtain ⟨read, formed, _, entered, _⟩ := onlyAdmittedIdsEnter "gala" steps
  obtain ⟨unread, _, refused, _⟩ := onlyAdmittedIdsEnter "gala!" steps
  have good : EventId.WellFormed "gala" := formed.mpr ⟨read.mp (by decide), by decide⟩
  have bad : ¬EventId.Admitted "gala!" := fun admitted => absurd (unread.mpr admitted) (by decide)
  have verified : desk.Verified (.text "host") := rfl
  have refuses := refused desk (create "gala!") (.text "gala!") _ rfl (fun _ is => Raw.text.inj is ▸ bad)
    fun _ is => Option.some.inj is ▸ verified
  have filed : (Step.takeAll steps desk).2.store.tables.filed = [⟨"gala", rfl⟩, ⟨"ball_2", rfl⟩] := by decide +kernel
  have whole : ∀ step ∈ steps, ∀ id, step.Names id → ¬EventId.Broken id.text := by
    have named {id : EventId} {text : String} (given : some (Raw.text text) = some (.text id.text)) : text = id.text :=
      Raw.text.inj (Option.some.inj given)
    simp only [steps, List.forall_mem_cons]
    exact ⟨fun id names => named names ▸ by decide, fun id names => named names ▸ by decide,
      fun id names => named names ▸ by decide, List.forall_mem_nil _⟩
  exact ⟨good, bad, verified, refuses.1, filed, (entered desk rfl).formed whole⟩

/- An event is entered under an id that ends in a line break, in memory and in tables. -/
theorem lineBreakEnters :
    let steps : List Step :=
      [.operation (.createEvent (.text "host") (.text "gala\n") (.text "Gala") .nothing (.text "Hall")
        (some ⟨3 * Moment.microsPerDay, some 0⟩) [⟨.text "Stalls", .whole 5, .whole 2⟩])]
    let inMemory : Desk Journal :=
      .opened .empty none (some ⟨Moment.microsPerDay, some 0⟩) .standard (.text "escrow") false true
    let inTables : Desk (Relational Decimal.Finite) :=
      .opened .empty none (some ⟨Moment.microsPerDay, some 0⟩) .standard (.text "escrow") false true
    (¬∀ id ∈ (Step.takeAll steps inMemory).2.store.tables.filed, EventId.WellFormed id.text) ∧
      ¬∀ id ∈ (Step.takeAll steps inTables).2.store.rows.filed, EventId.WellFormed id.text := by
  intro steps inMemory inTables
  have broken : ¬EventId.WellFormed "gala\n" := by
    intro formed
    have plain := formed.plain '\n' (by decide)
    exact absurd plain (by decide)
  have first : (Step.takeAll steps inMemory).2.store.tables.filed = [⟨"gala\n", rfl⟩] := by decide +kernel
  have second : (Step.takeAll steps inTables).2.store.rows.filed = [⟨"gala\n", rfl⟩] := by decide +kernel
  rw [first, second]
  exact ⟨fun all => broken (all _ List.mem_cons_self), fun all => broken (all _ List.mem_cons_self)⟩

end BoxOffice
