import BoxOffice.Proofs.Desk.Regular

/-! A tier in the place of another. Whatever the numbers of an event's tiers are, in whatever order they stand
and however often one occurs: what is found under a number is the first tier that has it, and that is the one
whose place a new record takes. -/
namespace BoxOffice

namespace Raw
variable {a b c : Raw} {m n : Int}

theorem keyNan : a.key = fraction .nan ↔ a = fraction .nan := by
  constructor
  · intro key
    cases a with
    | fraction value =>
      rw [Raw.key] at key
      split at key
      · cases key
      · exact key
    | nothing | truth _ | whole _ | text _ | list _ | record _ => simp [Raw.key] at key
  · rintro rfl
    rfl

theorem sameIff : a.same b = true ↔ a.key = b.key ∧ b ≠ fraction .nan := by
  rw [same, Bool.and_eq_true, alikeIffKey, bne_iff_ne]
  refine and_congr_right fun key => not_congr ?_
  rw [← keyNan, key, keyNan]

theorem sameLeft (equal : a.same b = true) (c : Raw) : a.same c = b.same c := by
  rw [Bool.eq_iff_iff, sameIff, sameIff, (sameIff.mp equal).1]

theorem sameRight (first : a.same c = true) (second : b.same c = true) : a.same b = true := by
  obtain ⟨key, number⟩ := sameIff.mp first
  refine sameIff.mpr ⟨key.trans (sameIff.mp second).1.symm, fun nan => number ?_⟩
  rw [← keyNan, ← (sameIff.mp second).1, nan, keyNan]

theorem keyOfNumber (number : a.number? = some n) : a.key = whole n := by
  cases a with
  | truth _ | whole _ =>
    cases number
    rfl
  | nothing | fraction _ | text _ | list _ | record _ => cases number

theorem sameNumbers (first : a.number? = some m) (second : b.number? = some n) :
    a.same b = decide (m = n) := by
  have number : b ≠ fraction .nan := by
    rintro rfl
    cases second
  rw [Bool.eq_iff_iff, sameIff, keyOfNumber first, keyOfNumber second, decide_eq_true_eq, whole.injEq]
  exact and_iff_left number

end Raw

namespace Event
variable {event : Event} {tier other : Tier} {tiers : List Tier} {given : Raw} {n : Int}

theorem findPutTier (tier : Tier) (tiers : List Tier) (given : Raw) :
    (putTier tier tiers).find? (·.id.same given) =
      if tier.id.same given then some tier else tiers.find? (·.id.same given) := by
  induction tiers with
  | nil => cases found : tier.id.same given <;> simp [putTier, found]
  | cons first rest ih =>
    unfold putTier
    cases taken : first.id.same tier.id with
    | true =>
      have alike := Raw.sameLeft taken given
      cases found : tier.id.same given <;> simp [alike, found]
    | false =>
      simp only [Bool.false_eq_true, if_false, List.find?_cons, ih]
      cases here : first.id.same given with
      | false => rfl
      | true =>
        -- Were both found under one value, the first would have given up its place.
        have other : tier.id.same given = false := by
          by_contra both
          rw [Bool.not_eq_false] at both
          rw [Raw.sameRight here both] at taken
          cases taken
        simp [other]

theorem putTierApart (apart : tier.id.same other.id = false) (apart' : other.id.same tier.id = false)
    (known : ∃ old ∈ tiers, old.id.same tier.id = true) (known' : ∃ old ∈ tiers, old.id.same other.id = true) :
    putTier other (putTier tier tiers) = putTier tier (putTier other tiers) := by
  induction tiers with
  | nil =>
    obtain ⟨old, mem, _⟩ := known
    cases mem
  | cons first rest ih =>
    have later {one : Tier} (known : ∃ old ∈ first :: rest, old.id.same one.id = true)
        (not : first.id.same one.id = false) : ∃ old ∈ rest, old.id.same one.id = true := by
      obtain ⟨old, mem, same⟩ := known
      rcases List.mem_cons.mp mem with rfl | mem
      · rw [not] at same
        cases same
      · exact ⟨old, mem, same⟩
    cases here : first.id.same tier.id with
    | true =>
      have not : first.id.same other.id = false := (Raw.sameLeft here _).trans apart
      simp [putTier, here, not, apart]
    | false =>
      cases there : first.id.same other.id with
      | true => simp [putTier, here, there, apart']
      | false => simp [putTier, here, there, ih (later known here) (later known' there)]

section
variable (numbers : ∀ old ∈ event.tiers, ∃ m, old.number? = some m)
include numbers

theorem numberKnown (is : tier.number? = some n) :
    (∃ old ∈ event.tiers, old.id.same tier.id = true) ↔ some n ∈ event.tiers.map Tier.number? := by
  rw [List.mem_map]
  refine exists_congr fun old => and_congr_right fun mem => ?_
  obtain ⟨m, has⟩ := numbers old mem
  rw [Raw.sameNumbers has is, decide_eq_true_eq, has, Option.some.injEq]

theorem withTierKnown (own : tier.number? = some n) (known : some n ∈ event.tiers.map Tier.number?) :
    (event.withTier tier).tiers.map Tier.number? = event.tiers.map Tier.number? ∧
      ∃ before old rest, event.tiers = before ++ old :: rest ∧ event.tier? tier.id = some old ∧
        (event.withTier tier).tiers = before ++ tier :: rest := by
  obtain ⟨before, old, rest, tiers, apart, same, put⟩ | ⟨absent, _⟩ := putTierPlace tier event.tiers
  · have found : event.tier? tier.id = some old :=
      List.find?_eq_some_iff_append.mpr ⟨same, before, rest, tiers, by simpa using apart⟩
    have put : (event.withTier tier).tiers = before ++ tier :: rest := put
    obtain ⟨m, has⟩ := numbers old (by simp [tiers])
    rw [Raw.sameNumbers has own, decide_eq_true_eq] at same
    exact ⟨by simp [put, tiers, own, has, same], before, old, rest, tiers, found, put⟩
  · obtain ⟨old, mem, same⟩ := (numberKnown numbers own).mpr known
    rw [absent old mem] at same
    cases same

theorem withTierFree (own : tier.number? = some n) (free : some n ∉ event.tiers.map Tier.number?) :
    (event.withTier tier).tiers = event.tiers ++ [tier] := by
  obtain ⟨before, old, rest, tiers, _, same, _⟩ | ⟨_, put⟩ := putTierPlace tier event.tiers
  · exact absurd ((numberKnown numbers own).mp ⟨old, by simp [tiers], same⟩) free
  · exact put

theorem withTierOnce (own : tier.number? = some n) (once : (event.tiers.map Tier.number?).Nodup) :
    ((event.withTier tier).tiers.map Tier.number?).Nodup := by
  by_cases known : some n ∈ event.tiers.map Tier.number?
  · rw [(withTierKnown numbers own known).1]
    exact once
  · rw [withTierFree numbers own known, List.map_append, List.map_singleton, own]
    refine List.nodup_append.mpr ⟨once, by simp, fun a listed b last => ?_⟩
    rw [List.mem_singleton.mp last]
    rintro rfl
    exact known listed

end

end Event

/-- What becomes of the tiers of an event when one is put among them, whatever whole numbers they have: which
tier is found under a number, which one gives up its place, that the places keep their numbers and distinct
numbers stay distinct, that tiers with places of their own come into them in either order, and that the next
id is free. The rest of the event stays. -/
theorem tierTakesItsPlace {event : Event} {tier : Tier} {n : Int} (own : tier.number? = some n)
    (numbers : ∀ old ∈ event.tiers, ∃ m, old.number? = some m) :
    let after := event.withTier tier
    (∀ given i, given.number? = some i →
      after.tier? given = if i = n then some tier else event.tier? given) ∧
    (some n ∈ event.tiers.map Tier.number? → after.tiers.map Tier.number? = event.tiers.map Tier.number? ∧
      ∃ before old rest, event.tiers = before ++ old :: rest ∧ event.tier? tier.id = some old ∧
        after.tiers = before ++ tier :: rest) ∧
    (some n ∉ event.tiers.map Tier.number? → after.tiers = event.tiers ++ [tier]) ∧
    ((event.tiers.map Tier.number?).Nodup → (after.tiers.map Tier.number?).Nodup) ∧
    (∀ other m, other.number? = some m → m ≠ n → some n ∈ event.tiers.map Tier.number? →
      some m ∈ event.tiers.map Tier.number? → after.withTier other = (event.withTier other).withTier tier) ∧
    (∃ next : Int, event.nextTierId = .ok (.whole next) ∧ (event.tiers = [] → next = 0) ∧
      (event.tiers ≠ [] → some (next - 1) ∈ event.tiers.map Tier.number?) ∧
      (∀ old ∈ event.tiers, ∀ m, old.number? = some m → m < next) ∧
      (n = next → after.tiers = event.tiers ++ [tier])) ∧
    after = { event with tiers := after.tiers } := by
  intro after
  refine ⟨fun given i is => ?_, Event.withTierKnown numbers own, Event.withTierFree numbers own,
    Event.withTierOnce numbers own, fun other m is apart here there => ?_, ?_, rfl⟩
  · have found : after.tier? given = _ := Event.findPutTier tier event.tiers given
    rw [found, Raw.sameNumbers own is]
    simp only [decide_eq_true_eq]
    exact if_congr eq_comm rfl rfl
  · have first : tier.id.same other.id = false := by
      rw [Raw.sameNumbers own is, decide_eq_false (Ne.symm apart)]
    have second : other.id.same tier.id = false := by
      rw [Raw.sameNumbers is own, decide_eq_false apart]
    have tiers := Event.putTierApart first second ((Event.numberKnown numbers own).mpr here)
      ((Event.numberKnown numbers is).mpr there)
    exact congrArg (fun tiers => { event with tiers }) tiers
  · obtain ⟨next, is, none, greatest, above⟩ := Event.nextTierIdNumber numbers
    refine ⟨next, is, none, greatest, above, ?_⟩
    rintro rfl
    refine Event.withTierFree numbers own fun mem => ?_
    obtain ⟨old, listed, has⟩ := List.mem_map.mp mem
    exact absurd (above old listed n has) (Int.lt_irrefl n)

/- The tiers 2, -1, 2 are renumbered by nobody: the first 2 makes way, and 3 comes next. -/
theorem tierTakesItsPlaceGala :
    let free : Money := ⟨⟨false, 0, 0⟩, by decide⟩
    let old (n : Int) (name : String) : Tier := .fresh (.whole n) (.text name) free 5
    let event : Event := ⟨⟨"gala", rfl⟩, .text "host", .text "Gala", .text "", .text "Hall", none, none, .upcoming,
      [old 2 "Floor", old (-1) "Pit", old 2 "Box"]⟩
    let tier := old 2 "Balcony"
    let after := event.withTier tier
    tier.number? = some 2 ∧ (∀ old ∈ event.tiers, ∃ m, old.number? = some m) ∧
      after.tiers = [tier, old (-1) "Pit", old 2 "Box"] ∧ after.tier? (.whole 2) = some tier ∧
      ∃ next : Int, event.nextTierId = .ok (.whole next) ∧ some (next - 1) ∈ event.tiers.map Tier.number? ∧
        ∀ old ∈ event.tiers, ∀ m, old.number? = some m → m < next := by
  intro free old event tier after
  have numbers : ∀ old ∈ event.tiers, ∃ m, old.number? = some m := by
    simp [event, old, Tier.fresh, Tier.number?, Raw.number?]
  have own : tier.number? = some 2 := rfl
  obtain ⟨found, _, _, _, _, ⟨next, is, _, greatest, above, _⟩, _⟩ := tierTakesItsPlace own numbers
  have there : after.tier? (.whole 2) = some tier := found (.whole 2) 2 rfl
  exact ⟨own, numbers, by decide, there, next, is, greatest (by simp [event]), above⟩

end BoxOffice
