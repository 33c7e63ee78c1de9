import BoxOffice.Proofs.Attendance
import BoxOffice.Proofs.Desk.Decision

/-! Places of an open event are given to those who ask first. What comes of any asks, one after the other, is
what an allocator says that knows the tiers, who has a place and who has been granted one. -/
namespace BoxOffice

structure Ask where
  attendee : Raw
  tier : Int

namespace Ask

def step (id : EventId) (ask : Ask) : Step :=
  .operation (.registerForEvent ask.attendee (.text id.text) (.whole ask.tier))

def granted : List Ask → List (Except Failure Answer) → List Ask
  | ask :: asks, .ok _ :: outcomes => ask :: granted asks outcomes
  | _ :: asks, .error _ :: outcomes => granted asks outcomes
  | _, _ => []

@[simp]
theorem grantedNone (outcomes : List (Except Failure Answer)) : granted [] outcomes = [] := by
  cases outcomes <;> rfl

@[simp]
theorem grantedOk (ask : Ask) (answer : Answer) : granted [ask] [.ok answer] = [ask] := rfl

@[simp]
theorem grantedError (ask : Ask) (failure : Failure) : granted [ask] [.error failure] = [] := rfl

theorem grantedCons (ask : Ask) (asks : List Ask) (outcome : Except Failure Answer)
    (outcomes : List (Except Failure Answer)) :
    granted (ask :: asks) (outcome :: outcomes) = granted [ask] [outcome] ++ granted asks outcomes := by
  cases outcome <;> rfl

end Ask

namespace Tier

def left (tier : Tier) : Nat :=
  match tier.remaining with
  | .ok (.whole n) => n.toNat
  | _ => 0

def wanted (tier : Tier) (ask : Ask) : Bool :=
  tier.id.same (.whole ask.tier)

def filled (granted : List Ask) (tier : Tier) : Tier :=
  match tier.sold with
  | .whole sold => { tier with sold := .whole (sold + granted.countP tier.wanted) }
  | _ => tier

structure Counted (tier : Tier) (id : Int) (places taken : Nat) : Prop where
  id : tier.id = .whole id
  capacity : tier.capacity = .whole places
  sold : tier.sold = .whole taken
  enough : taken ≤ places

variable {tier : Tier} {id : Int} {places taken : Nat}

theorem Counted.remains (counted : tier.Counted id places taken) :
    tier.remaining = .ok (.whole (places - taken : Nat)) := by
  rw [remaining, counted.capacity, counted.sold, Int.natCast_sub counted.enough]
  rfl

theorem Counted.leaves (counted : tier.Counted id places taken) : tier.left = places - taken := by
  rw [left, counted.remains]
  rfl

theorem Counted.fills (counted : tier.Counted id places taken) (granted : List Ask) :
    tier.filled granted = { tier with sold := .whole (taken + granted.countP tier.wanted) } := by
  simp only [filled, counted.sold]

section
variable (counted : tier.Counted id places taken)
include counted

theorem Counted.isFull (granted : List Ask) :
    (tier.filled granted).isSoldOut = .ok (decide (tier.left ≤ granted.countP tier.wanted)) := by
  have capacity : (tier.filled granted).capacity = .whole places := by
    rw [counted.fills]
    exact counted.capacity
  have sold : (tier.filled granted).sold = .whole (taken + granted.countP tier.wanted) := by
    rw [counted.fills]
  rw [isSoldOutWhole capacity sold, counted.leaves]
  refine congrArg Except.ok (decide_eq_decide.mpr ?_)
  omega

theorem Counted.sells {granted : List Ask} {ask : Ask} (wanted : tier.wanted ask = true) :
    (tier.filled granted).sell = .ok (tier.filled (granted ++ [ask])) := by
  have more : (granted ++ [ask]).countP tier.wanted = granted.countP tier.wanted + 1 := by
    rw [List.countP_append, List.countP_singleton, if_pos wanted]
  rw [counted.fills, counted.fills, sellWhole rfl, more, Int.natCast_add, ← Int.add_assoc]
  rfl

theorem Counted.unsold {granted : List Ask} {ask : Ask} (other : tier.wanted ask = false) :
    tier.filled (granted ++ [ask]) = tier.filled granted := by
  rw [counted.fills, counted.fills, List.countP_append, List.countP_singleton, other]
  rfl

end

theorem filledId (granted : List Ask) (tier : Tier) : (tier.filled granted).id = tier.id := by
  unfold filled
  split <;> rfl

end Tier

namespace Event

def filled (granted : List Ask) (event : Event) : Event :=
  { event with tiers := event.tiers.map (Tier.filled granted) }

/- The answer to an ask when others have been granted: the first refusal that applies, or the place. -/
def serve (event : Event) (listed : List Raw) (now : Option Moment) (granted : List Ask) (ask : Ask) :
    Except Failure Answer :=
  match event.tier? (.whole ask.tier) with
  | none => .error (.event .tierNotFound)
  | some tier =>
    if (listed ++ granted.map Ask.attendee).any (·.alike ask.attendee) then
      .error (.event .alreadyRegistered)
    else if tier.left ≤ granted.countP tier.wanted then .error (.event .tierSoldOut)
    else .ok (.registration ⟨event.id, ask.attendee, .whole ask.tier, now⟩)

def serveAll (event : Event) (listed : List Raw) (now : Option Moment) :
    List Ask → List Ask → List (Except Failure Answer)
  | _, [] => []
  | granted, ask :: asks =>
    let outcome := event.serve listed now granted ask
    outcome :: event.serveAll listed now (granted ++ Ask.granted [ask] [outcome]) asks

structure Counted (event : Event) : Prop where
  once : (event.tiers.map Tier.id).Nodup
  tiers : ∀ tier ∈ event.tiers, ∃ id places taken, tier.Counted id places taken

section
variable {event : Event} {listed : List Raw} {now : Option Moment} {tier : Tier}

theorem serveAllAt (granted asks : List Ask) (i : Nat) : (event.serveAll listed now granted asks)[i]? =
    asks[i]?.map (event.serve listed now
      (granted ++ Ask.granted (asks.take i) (event.serveAll listed now granted asks))) := by
  induction asks generalizing granted i with
  | nil => rfl
  | cons ask asks ih =>
    cases i with
    | zero =>
      rw [List.take_zero, Ask.grantedNone, List.append_nil]
      rfl
    | succ i =>
      rw [serveAll, List.getElem?_cons_succ, List.getElem?_cons_succ, List.take_succ_cons,
        Ask.grantedCons ask (asks.take i), ih, List.append_assoc]

theorem serveAllCount {granted asks : List Ask}
    (wanted : ∀ ask ∈ asks, event.tier? (.whole ask.tier) = some tier)
    (apart : asks.Pairwise fun a b => a.attendee.alike b.attendee = false)
    (new : ∀ ask ∈ asks, (listed ++ granted.map Ask.attendee).any (·.alike ask.attendee) = false) :
    (Ask.granted asks (event.serveAll listed now granted asks)).length =
      min asks.length (tier.left - granted.countP tier.wanted) := by
  induction asks generalizing granted with
  | nil => rfl
  | cons ask asks ih =>
    obtain ⟨here, wanted⟩ := List.forall_mem_cons.mp wanted
    obtain ⟨first, apart⟩ := List.pairwise_cons.mp apart
    obtain ⟨unknown, new⟩ := List.forall_mem_cons.mp new
    rw [serveAll, Ask.grantedCons ask asks, List.length_append]
    by_cases full : tier.left ≤ granted.countP tier.wanted
    · have served : event.serve listed now granted ask = .error (.event .tierSoldOut) := by
        simp only [serve, here, unknown, full, if_true, Bool.false_eq_true, if_false]
      have later := ih wanted apart new
      simp only [served, Ask.grantedError, List.append_nil, later, List.length_nil, List.length_cons]
      omega
    · have served : event.serve listed now granted ask =
          .ok (.registration ⟨event.id, ask.attendee, .whole ask.tier, now⟩) := by
        simp only [serve, here, unknown, full, Bool.false_eq_true, if_false]
      have counts : (granted ++ [ask]).countP tier.wanted = granted.countP tier.wanted + 1 := by
        have own : tier.wanted ask = true := (tierMem here).2
        rw [List.countP_append, List.countP_singleton, if_pos own]
      have later := @ih (granted ++ [ask]) wanted apart fun other mem => by
        have unlisted := new other mem
        rw [List.map_append, ← List.append_assoc, List.any_append, unlisted]
        simpa using first other mem
      rw [counts] at later
      simp only [served, Ask.grantedOk, later, List.length_cons, List.length_nil]
      omega

theorem filledTier (granted : List Ask) (named : Raw) :
    (event.filled granted).tier? named = (event.tier? named).map (Tier.filled granted) := by
  have same : (fun tier : Tier => tier.id.same named) ∘ Tier.filled granted = fun tier => tier.id.same named :=
    funext fun tier => congrArg (·.same named) (Tier.filledId granted tier)
  rw [tier?, filled, List.find?_map, same, tier?]

theorem putTierOnce {updated : Tier} {tiers : List Tier} {n : Int} (id : updated.id = .whole n)
    (whole : ∀ other ∈ tiers, ∃ m : Int, other.id = .whole m) (once : (tiers.map Tier.id).Nodup)
    (known : updated.id ∈ tiers.map Tier.id) :
    putTier updated tiers = tiers.map fun other => if other.id = updated.id then updated else other := by
  obtain ⟨before, old, rest, rfl, same, put⟩ | ⟨free, _⟩ := putTierWhole id whole
  · have apart := apartOfOnce once
    have stays (others : List Tier) (inside : ∀ other ∈ others, other ∈ before ++ rest) :
        (others.map fun other => if other.id = updated.id then updated else other) = others := by
      refine (List.map_congr_left fun other mem => if_neg ?_).trans (List.map_id others)
      exact same ▸ apart other (inside other mem)
    rw [put, List.map_append, List.map_cons, if_pos same, stays before fun _ => List.mem_append_left _,
      stays rest fun _ => List.mem_append_right _]
  · exact absurd known free

theorem filledMore (counted : event.Counted) {granted : List Ask} {ask : Ask}
    (found : event.tier? (.whole ask.tier) = some tier) :
    (event.filled granted).withTier (tier.filled (granted ++ [ask])) = event.filled (granted ++ [ask]) := by
  obtain ⟨mem, wanted⟩ := tierMem found
  obtain ⟨n, _, _, own⟩ := counted.tiers tier mem
  have ids : (event.tiers.map (Tier.filled granted)).map Tier.id = event.tiers.map Tier.id := by
    rw [List.map_map]
    exact List.map_congr_left fun other _ => Tier.filledId granted other
  have known : (tier.filled (granted ++ [ask])).id ∈ (event.tiers.map (Tier.filled granted)).map Tier.id := by
    rw [ids, Tier.filledId]
    exact List.mem_map_of_mem mem
  have whole : ∀ other ∈ event.tiers.map (Tier.filled granted), ∃ m : Int, other.id = .whole m := by
    intro other there
    obtain ⟨other, inside, rfl⟩ := List.mem_map.mp there
    obtain ⟨m, _, _, counts⟩ := counted.tiers other inside
    exact ⟨m, (Tier.filledId granted other).trans counts.id⟩
  rw [filled, withTier, putTierOnce ((Tier.filledId _ tier).trans own.id) whole (ids ▸ counted.once) known,
    filled, List.map_map]
  refine congrArg (fun tiers => { event with tiers }) (List.map_congr_left fun other there => ?_)
  rw [Function.comp_apply, Tier.filledId, Tier.filledId]
  by_cases same : other.id = tier.id
  · rw [if_pos same, List.inj_on_of_nodup_map counted.once there mem same]
  · obtain ⟨m, _, _, counts⟩ := counted.tiers other there
    rw [if_neg same]
    refine (counts.unsold (Bool.eq_false_iff.mpr fun hits => same ?_)).symm
    exact ((Raw.sameWholes counts.id rfl).mp hits).trans ((Raw.sameWholes own.id rfl).mp wanted).symm

end

end Event

namespace Dossier
variable {dossier : Dossier} {event : Event} {id : EventId} {now : Option Moment} {attendee named : Raw}

theorem registerMissing (stored : dossier.event = some event) (active : event.status = .active)
    (missing : event.tier? named = none) :
    dossier.register now id attendee named = .error (.event .tierNotFound) := by
  simp only [register, loaded, stored, active, missing, bind, Except.bind]
  rfl

theorem registerFound {tier sold : Tier} {party : Label} {full : Bool} (stored : dossier.event = some event)
    (active : event.status = .active) (found : event.tier? named = some tier)
    (checked : Checked.label attendee = .ok party) (places : tier.isSoldOut = .ok full)
    (sells : tier.sell = .ok sold) :
    dossier.register now id attendee named =
      if dossier.registered party then .error (.event .alreadyRegistered)
      else if full then .error (.event .tierSoldOut)
      else .ok ((⟨id, attendee, named, now⟩, sold),
        [.registration party ⟨id, attendee, named, now⟩, .attendee id attendee,
          .event (event.withTier sold)]) := by
  simp only [register, loaded, stored, active, found, checked, places, sells, bind, Except.bind]
  cases dossier.registered party <;> cases full <;> rfl

theorem registerServes {listed : List Raw} {granted : List Ask} {ask : Ask} {party : Label}
    (counted : event.Counted) (active : event.status = .active)
    (stored : dossier.event = some (event.filled granted)) (named : Label.ofRaw? ask.attendee = some party)
    (known : dossier.registered party = (listed ++ granted.map Ask.attendee).any (·.alike ask.attendee)) :
    (∃ failure, event.serve listed now granted ask = .error failure ∧
      dossier.register now event.id ask.attendee (.whole ask.tier) = .error failure) ∨
    ∃ sold, event.serve listed now granted ask =
        .ok (.registration ⟨event.id, ask.attendee, .whole ask.tier, now⟩) ∧
      dossier.register now event.id ask.attendee (.whole ask.tier) =
        .ok ((⟨event.id, ask.attendee, .whole ask.tier, now⟩, sold),
          [.registration party ⟨event.id, ask.attendee, .whole ask.tier, now⟩,
            .attendee event.id ask.attendee, .event (event.filled (granted ++ [ask]))]) := by
  have filled := @Event.filledTier event granted (.whole ask.tier)
  cases found : event.tier? (.whole ask.tier) with
  | none =>
    rw [found] at filled
    exact .inl ⟨_, by simp only [Event.serve, found], registerMissing stored active filled⟩
  | some tier =>
    rw [found] at filled
    obtain ⟨mem, wanted⟩ := Event.tierMem found
    obtain ⟨n, places, taken, counts⟩ := counted.tiers tier mem
    have checked : Checked.label ask.attendee = .ok party := by simp only [Checked.label, named]
    rw [registerFound stored active filled checked (counts.isFull granted) (counts.sells wanted), known,
      Event.filledMore counted found]
    simp only [Event.serve, found]
    by_cases twice : (listed ++ granted.map Ask.attendee).any (·.alike ask.attendee) = true
    · exact .inl ⟨_, if_pos twice, if_pos twice⟩
    · simp only [if_neg twice]
      by_cases full : tier.left ≤ granted.countP tier.wanted
      · exact .inl ⟨_, if_pos full, if_pos (decide_eq_true full)⟩
      · exact .inr ⟨_, if_neg full, if_neg (by simpa using full)⟩

end Dossier

theorem Event.filledNone {event : Event} (counted : event.Counted) : event.filled [] = event := by
  have same : event.tiers.map (Tier.filled []) = event.tiers := by
    refine (List.map_congr_left fun tier mem => ?_).trans (List.map_id event.tiers)
    obtain ⟨n, places, taken, counts⟩ := counted.tiers tier mem
    rw [counts.fills, List.countP_nil, Int.natCast_zero, Int.add_zero, ← counts.sold]
    rfl
  rw [filled, same]

structure Desk.Granted (start : Desk Journal) (event : Event) (granted : List Ask) (desk : Desk Journal) :
    Prop extends start.Around desk where
  reached : desk.store.Reached
  quiet : desk.Quiet
  stored : desk.view.events.get? event.id = some (event.filled granted)
  listed : desk.view.attendees event.id = start.view.attendees event.id ++ granted.map Ask.attendee

namespace Desk
variable {start desk : Desk Journal} {event : Event} {granted : List Ask} {ask : Ask}

theorem admitsVerified {caller : Raw} (verified : desk.Verified caller) (refusal : Failure) :
    desk.admits caller refusal = .ok () := by
  rw [admits, verified]
  rfl

theorem askRuling (verified : desk.Verified ask.attendee) (id : EventId) :
    (Operation.registerForEvent ask.attendee (.text id.text) (.whole ask.tier)).ruling desk ask.attendee
        (.text id.text) =
      Ruling.answer (fun made => .registration made.1)
        ((desk.view.dossier id).register desk.clock id ask.attendee (.whole ask.tier)) :=
  attendsNamed (admitsVerified verified _) (EventId.namedSelf id)

theorem Granted.serves (stands : start.Granted event granted desk) (counted : event.Counted)
    (active : event.status = .active) (verified : start.Verified ask.attendee) {party : Label}
    (named : Label.ofRaw? ask.attendee = some party) :
    ((ask.step event.id).take desk).1.outcome =
        event.serve (start.view.attendees event.id) start.clock granted ask ∧
      start.Granted event (granted ++ Ask.granted [ask] [((ask.step event.id).take desk).1.outcome])
        ((ask.step event.id).take desk).2 := by
  have here : desk.Verified ask.attendee := by
    rw [Verified, stands.verifier]
    exact verified
  have known : (desk.view.dossier event.id).registered party =
      (start.view.attendees event.id ++ granted.map Ask.attendee).any (·.alike ask.attendee) := by
    rw [← stands.listed]
    exact View.registeredListed stands.reached.inventory event.id named
  have ends := @Operation.comesToRuling desk stands.quiet stands.reached
    (.registerForEvent ask.attendee (.text event.id.text) (.whole ask.tier)) _ _ rfl
  rw [askRuling here, stands.clock] at ends
  change desk.ComesTo _ ((ask.step event.id).take desk).1.outcome ((ask.step event.id).take desk).2 at ends
  generalize (ask.step event.id).take desk = taken at ends ⊢
  have around : start.Around taken.2 := stands.toAround.trans ends.toAround
  obtain ⟨failure, serves, refuses⟩ | ⟨sold, serves, registers⟩ :=
    @Dossier.registerServes _ event start.clock _ granted ask party counted active stands.stored named known
  · rw [refuses] at ends
    have outcome : taken.1.outcome = .error failure := ends.outcome
    have view : taken.2.view = desk.view := ends.view
    rw [outcome, serves, Ask.grantedError, List.append_nil]
    exact ⟨rfl, ⟨around, ends.reached, ends.quiet, view ▸ stands.stored, view ▸ stands.listed⟩⟩
  · rw [registers] at ends
    have outcome : taken.1.outcome = .ok (.registration _) := ends.outcome
    rw [outcome, serves, Ask.grantedOk]
    refine ⟨rfl, ⟨around, ends.reached, ends.quiet, ?_, ?_⟩⟩
    · rw [ends.view]
      exact Table.getPutSame _ _ _
    · rw [ends.view]
      change Function.update desk.view.attendees event.id (desk.view.attendees event.id ++ [ask.attendee]) _ = _
      rw [Function.update_self, stands.listed, List.append_assoc, List.map_append]
      rfl

theorem Granted.servesAll {asks : List Ask} (stands : start.Granted event granted desk)
    (counted : event.Counted) (active : event.status = .active)
    (parties : ∀ ask ∈ asks, start.Verified ask.attendee ∧ (Label.ofRaw? ask.attendee).isSome) :
    let ran := Step.takeAll (asks.map (Ask.step event.id)) desk
    let outcomes := ran.1.map Step.Record.outcome
    outcomes = event.serveAll (start.view.attendees event.id) start.clock granted asks ∧
      start.Granted event (granted ++ Ask.granted asks outcomes) ran.2 := by
  induction asks generalizing granted desk with
  | nil =>
    refine ⟨rfl, ?_⟩
    rw [Ask.grantedNone, List.append_nil]
    exact stands
  | cons ask asks ih =>
    obtain ⟨⟨verified, some⟩, parties⟩ := List.forall_mem_cons.mp parties
    obtain ⟨party, named⟩ := Option.isSome_iff_exists.mp some
    obtain ⟨outcome, next⟩ := stands.serves counted active verified named
    obtain ⟨outcomes, last⟩ := ih next parties
    rw [List.append_assoc, ← Ask.grantedCons ask asks] at last
    refine ⟨?_, last⟩
    rw [Event.serveAll, ← outcome, ← outcomes]
    rfl

/-- How asks for places of an event end that are made one after the other: each is answered in view of those
that were granted before it, and what was granted is recorded. Of new attendees who all ask for one tier so
many get a place as were left. -/
structure FirstServed (start : Desk Journal) (event : Event) (asks : List Ask)
    (outcomes : List (Except Failure Answer)) (after : Desk Journal) : Prop where
  inTurn : ∀ i : Nat, outcomes[i]? = asks[i]?.map
    (event.serve (start.view.attendees event.id) start.clock (Ask.granted (asks.take i) outcomes))
  left : ∀ tier ∈ event.tiers, tier.remaining = .ok (.whole tier.left)
  stored : after.view.events.get? event.id = some (event.filled (Ask.granted asks outcomes))
  sold : ∀ tier ∈ event.tiers, ∃ sold : Int, tier.sold = .whole sold ∧
    (tier.filled (Ask.granted asks outcomes)) =
      { tier with sold := .whole (sold + (Ask.granted asks outcomes).countP tier.wanted) }
  before : ((Operation.getAttendees (.text event.id.text)).run.perform start).1 =
    .ok (.values (start.view.attendees event.id))
  listed : ((Operation.getAttendees (.text event.id.text)).run.perform after).1 =
    .ok (.values (start.view.attendees event.id ++ (Ask.granted asks outcomes).map Ask.attendee))
  most : ∀ tier : Tier, (∀ ask ∈ asks, event.tier? (.whole ask.tier) = some tier) →
    asks.Pairwise (fun a b => a.attendee.alike b.attendee = false) →
    (∀ ask ∈ asks, (start.view.attendees event.id).any (·.alike ask.attendee) = false) →
    (Ask.granted asks outcomes).length = min asks.length tier.left

end Desk

theorem Journal.Reached.counted {desk : Desk Journal} (reached : desk.store.Reached) {id : EventId}
    {event : Event} (stored : desk.view.events.get? id = some event) : event.Counted := by
  obtain ⟨ids, stocked⟩ := reached.inventory.stocks stored
  refine ⟨ids, fun tier mem => ?_⟩
  obtain ⟨n, is⟩ := (reached.regular.tiers stored tier mem).id
  obtain ⟨capacity, limit, count, enough⟩ := stocked tier mem
  obtain ⟨places, rfl⟩ := Int.eq_ofNat_of_zero_le (Int.le_trans (Int.natCast_nonneg _) enough)
  exact ⟨n, places, _, is, limit, count, Int.ofNat_le.mp enough⟩

/-- Verified attendees, each of whom goes by a label, ask for places of an open event, in any order and as often
as they like. They are served in the order in which they ask, wherever nothing disturbs the desk. -/
theorem firstComeFirstServed {start : Desk Journal} (reached : start.store.Reached) (quiet : start.Quiet)
    {event : Event} (stored : start.view.events.get? event.id = some event)
    (active : event.status = .active) {asks : List Ask}
    (parties : ∀ ask ∈ asks, start.Verified ask.attendee ∧ (Label.ofRaw? ask.attendee).isSome) :
    let ran := Step.takeAll (asks.map (Ask.step event.id)) start
    start.FirstServed event asks (ran.1.map Step.Record.outcome) ran.2 := by
  intro ran
  have counted := reached.counted stored
  have stands : start.Granted event [] start :=
    ⟨.refl start, reached, quiet, (Event.filledNone counted).symm ▸ stored, (List.append_nil _).symm⟩
  obtain ⟨served, after⟩ := stands.servesAll counted active parties
  rw [List.nil_append] at after
  exact {
    inTurn := fun i => by
      rw [served]
      exact Event.serveAllAt [] asks i
    left := fun tier mem => by
      obtain ⟨n, places, taken, counts⟩ := counted.tiers tier mem
      rw [counts.leaves, counts.remains]
    stored := after.stored
    sold := fun tier mem => by
      obtain ⟨n, places, taken, counts⟩ := counted.tiers tier mem
      exact ⟨taken, counts.sold, counts.fills _⟩
    before := Operation.performAttendees quiet.faults stored
    listed := by
      rw [← after.listed]
      exact @Operation.performAttendees ran.2 after.quiet.faults (event.filled _) after.stored
    most := fun tier wanted apart new => by
      rw [served]
      exact Event.serveAllCount wanted apart (by simpa using new) }

theorem firstComeFirstServedGala :
    let steps : List Step :=
      [.operation (.createEvent (.text "host") (.text "gala") (.text "Gala") .nothing (.text "Hall")
        (some ⟨2 * Moment.microsPerDay, some 0⟩) [⟨.text "Stalls", .whole 5, .whole 1⟩]),
      .operation (.updateEventStatus (.text "host") (.text "gala") (.text "active"))]
    let desk : Desk Journal :=
      .opened .empty none (some ⟨0, some 0⟩) .standard (.text "escrow") false true
    let start := (Step.takeAll steps desk).2
    let event : Event :=
      ⟨⟨"gala", rfl⟩, .text "host", .text "Gala", .text "", .text "Hall",
        some ⟨2 * Moment.microsPerDay, some 0⟩, some ⟨0, some 0⟩, .active,
        [⟨.whole 0, .text "Stalls", ⟨.ofInt 5, rfl⟩, .whole 1, .whole 0⟩]⟩
    let asks : List Ask := [⟨.text "ann", 0⟩, ⟨.text "ann", 0⟩, ⟨.text "bob", 0⟩, ⟨.text "bob", 2⟩]
    let ran := Step.takeAll (asks.map (Ask.step event.id)) start
    let outcomes := ran.1.map Step.Record.outcome
    start.store.Reached ∧ start.Quiet ∧ start.view.events.get? event.id = some event ∧
      (∀ ask ∈ asks, start.Verified ask.attendee ∧ (Label.ofRaw? ask.attendee).isSome) ∧
      start.FirstServed event asks outcomes ran.2 ∧
      (Ask.granted asks outcomes).map Ask.attendee = [.text "ann"] := by
  intro steps desk start event asks ran outcomes
  have ordinary : ∀ step ∈ steps, step.Ordinary := by simp [steps, Step.Ordinary]
  have tame : desk.Tame := by
    intro fault mem
    cases mem
  obtain ⟨reached, _⟩ := @Step.takeAllReached steps desk ordinary .empty tame
  have quiet : start.Quiet := ⟨by decide +kernel, by decide +kernel⟩
  have stored : start.view.events.get? event.id = some event := by decide +kernel
  have parties : ∀ ask ∈ asks, start.Verified ask.attendee ∧ (Label.ofRaw? ask.attendee).isSome := by
    unfold Desk.Verified
    decide +kernel
  have granted : (Ask.granted asks outcomes).map Ask.attendee = [.text "ann"] := by decide +kernel
  exact ⟨reached, quiet, stored, parties, firstComeFirstServed reached quiet stored rfl parties, granted⟩

end BoxOffice
