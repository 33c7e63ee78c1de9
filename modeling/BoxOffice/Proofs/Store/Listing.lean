import Mathlib.Data.List.Basic
import Mathlib.Order.Basic
import BoxOffice.Store.Call

/-! The order of a list of events. What is put in order by a number, the greatest first, so that equals keep
their order, is settled by what has each number. -/
namespace BoxOffice

section
variable {α : Type} {key : α → Int} {x y : α} {xs ys : List α}

def Falling (key : α → Int) (xs : List α) : Prop :=
  xs.Pairwise fun a b => key b ≤ key a

def keyed (key : α → Int) (k : Int) (xs : List α) : List α :=
  xs.filter fun x => key x = k

theorem memKeyed {k : Int} : x ∈ keyed key k xs ↔ x ∈ xs ∧ key x = k := by
  simp [keyed]

theorem keyedMembers (same : ∀ k, keyed key k xs = keyed key k ys) (x : α) : x ∈ xs ↔ x ∈ ys := by
  have here : x ∈ keyed key (key x) xs ↔ x ∈ xs ∧ key x = key x := memKeyed
  rw [same, memKeyed] at here
  simpa using here.symm

theorem fallingUnique (first : Falling key xs) (second : Falling key ys)
    (same : ∀ k, keyed key k xs = keyed key k ys) : xs = ys := by
  have members := keyedMembers same
  induction xs generalizing ys with
  | nil => exact (List.eq_nil_iff_forall_not_mem.mpr fun y inside => nomatch (members y).mpr inside).symm
  | cons x xs ih =>
    cases ys with
    | nil => exact nomatch (members x).mp List.mem_cons_self
    | cons y ys =>
      obtain ⟨above, early⟩ := List.pairwise_cons.mp first
      obtain ⟨atop, late⟩ := List.pairwise_cons.mp second
      have keys : key x = key y := by
        have down : y = x ∨ key y ≤ key x :=
          (List.mem_cons.mp ((members y).mpr List.mem_cons_self)).imp_right (above y)
        have up : x = y ∨ key x ≤ key y :=
          (List.mem_cons.mp ((members x).mp List.mem_cons_self)).imp_right (atop x)
        rcases down with rfl | down
        · rfl
        · rcases up with rfl | up
          · rfl
          · omega
      have heads := same (key x)
      simp only [keyed, List.filter_cons, decide_true, if_true, ← keys, List.cons.injEq] at heads
      obtain ⟨rfl, _⟩ := heads
      have rest (k : Int) : keyed key k xs = keyed key k ys := by
        have here := same k
        simp only [keyed, List.filter_cons] at here ⊢
        split at here
        · exact (List.cons.inj here).2
        · exact here
      exact congrArg _ (ih early late rest (keyedMembers rest))

def fallingSort (key : α → Int) (xs : List α) : List α :=
  xs.mergeSort fun a b => decide (key b ≤ key a)

theorem fallingSorted (key : α → Int) (xs : List α) : Falling key (fallingSort key xs) := by
  have sorted := @List.pairwise_mergeSort _ (fun a b : α => decide (key b ≤ key a))
    (fun a b c ab bc => by simp only [decide_eq_true_eq] at ab bc ⊢; omega)
    (fun a b => by simp only [Bool.or_eq_true, decide_eq_true_eq]; omega) xs
  exact sorted.imp fun le => by simpa using le

theorem keyedSort (key : α → Int) (k : Int) (xs : List α) :
    keyed key k (fallingSort key xs) = keyed key k xs := by
  have equals : (keyed key k xs).Pairwise fun a b => decide (key b ≤ key a) = true := by
    refine List.pairwise_of_forall_mem_list fun a here b there => ?_
    rw [(memKeyed.mp here).2, (memKeyed.mp there).2]
    simp
  have inside : (keyed key k xs).Sublist (fallingSort key xs) :=
    List.sublist_mergeSort
      (fun a b c ab bc => by simp only [decide_eq_true_eq] at ab bc ⊢; omega)
      (fun a b => by simp only [Bool.or_eq_true, decide_eq_true_eq]; omega) equals List.filter_sublist
  have kept : (keyed key k xs).Sublist (keyed key k (fallingSort key xs)) := by
    have filtered := inside.filter fun x => decide (key x = k)
    simpa only [keyed, List.filter_filter, Bool.and_self] using filtered
  refine (kept.eq_of_length ?_).symm
  exact ((List.mergeSort_perm xs _).filter _).length_eq.symm

theorem fallingSortFilter (key : α → Int) (p : α → Bool) (xs : List α) :
    fallingSort key (xs.filter p) = (fallingSort key xs).filter p := by
  refine fallingUnique (fallingSorted key _) ((fallingSorted key xs).filter p) fun k => ?_
  calc
    keyed key k (fallingSort key (xs.filter p)) = (keyed key k xs).filter p := by
      rw [keyedSort, keyed, keyed, List.filter_comm]
    _ = keyed key k ((fallingSort key xs).filter p) := by
      rw [← keyedSort key k xs, keyed, keyed, List.filter_comm]

theorem fallingSortLast {k : Int} {last : List α} (equal : ∀ z ∈ last, key z = k) (xs : List α) :
    fallingSort key (xs ++ last) = (fallingSort key xs).filter (fun z => k ≤ key z) ++
      (last ++ (fallingSort key xs).filter fun z => key z < k) := by
  have sorted := fallingSorted key xs
  refine fallingUnique (fallingSorted key _) ?_ fun n => ?_
  · refine List.pairwise_append.mpr ⟨sorted.filter _, List.pairwise_append.mpr ⟨?_, sorted.filter _, ?_⟩, ?_⟩
    · exact List.pairwise_of_forall_mem_list fun a here b there =>
        Int.le_of_eq ((equal b there).trans (equal a here).symm)
    · intro a here b there
      have below : key b < k := by simpa using (List.mem_filter.mp there).2
      rw [equal a here]
      omega
    · intro a here b there
      have above : k ≤ key a := by simpa using (List.mem_filter.mp here).2
      rcases List.mem_append.mp there with there | there
      · rw [equal b there]
        omega
      · have below : key b < k := by simpa using (List.mem_filter.mp there).2
        omega
  · have inner (p : α → Bool) : keyed key n ((fallingSort key xs).filter p) =
        (keyed key n xs).filter p := by
      rw [← keyedSort key n xs, keyed, keyed, List.filter_comm]
    have whole {p : α → Bool} (holds : ∀ z, key z = n → p z = true) :
        (keyed key n xs).filter p = keyed key n xs :=
      List.filter_eq_self.mpr fun z here => holds z (memKeyed.mp here).2
    have none {p : α → Bool} (fails : ∀ z, key z = n → p z = false) : (keyed key n xs).filter p = [] :=
      List.filter_eq_nil_iff.mpr fun z here => by simp [fails z (memKeyed.mp here).2]
    have split : keyed key n (xs ++ last) = keyed key n xs ++ keyed key n last := List.filter_append ..
    have parts (as bs cs : List α) :
        keyed key n (as ++ (bs ++ cs)) = keyed key n as ++ (keyed key n bs ++ keyed key n cs) := by
      simp [keyed]
    rw [keyedSort, parts, inner, inner, split]
    by_cases above : k ≤ n
    · rw [whole fun z here => by simp; omega, none fun z here => by simp; omega, List.append_nil]
    · have nowhere : keyed key n last = [] :=
        List.filter_eq_nil_iff.mpr fun z here => by simp [equal z here]; omega
      rw [none fun z here => by simp; omega, whole fun z here => by simp; omega, nowhere]
      simp

end

def chosenBy (organizer : Raw) (events : List Event) : List Event :=
  match organizer with
  | .nothing => events
  | organizer => events.filter fun event => event.organizer.same organizer

def inOrder (chosen : List Event) : Except Failure (List Event) :=
  match chosen.mapM fun event => event.createdAt.map (·, event) with
  | some timed =>
    if isOrdered (timed.map Prod.fst) then .ok (newestFirst timed) else .error .unordered
  | none => .error .unordered

def ordered (chosen : List Event) : Except Failure (List Event) :=
  match chosen with
  | [] | [_] => .ok chosen
  | chosen => inOrder chosen

theorem listingOrdered (events : List Event) (organizer : Raw) :
    listing events organizer = ordered (chosenBy organizer events) := rfl

theorem orderedPair (events : List Event) (a b : Event) :
    ordered (events ++ [a, b]) = inOrder (events ++ [a, b]) := by
  match events with
  | [] | [_] | _ :: _ :: _ => rfl

theorem chosenAppend (organizer : Raw) (events more : List Event) :
    chosenBy organizer (events ++ more) = chosenBy organizer events ++ chosenBy organizer more := by
  cases organizer <;> first | rfl | exact List.filter_append ..

theorem chosenPair (organizer : Raw) (a b : Event) :
    (chosenBy organizer [a, b] = [a, b] ∧ chosenBy organizer [b, a] = [b, a]) ∨
      chosenBy organizer [a, b] = chosenBy organizer [b, a] := by
  cases organizer
  case nothing => exact .inl ⟨rfl, rfl⟩
  all_goals
    simp only [chosenBy, List.filter_cons, List.filter_nil]
    split <;> split <;> simp

theorem newestFirstPair (moment : Moment) (events : List (Moment × Event)) : ∃ before after, ∀ a b,
    newestFirst (events ++ [(moment, a), (moment, b)]) = before ++ a :: b :: after := by
  let instant (timed : Moment × Event) : Int := timed.1.instant
  let sorted := fallingSort instant events
  refine ⟨(sorted.filter fun timed => moment.instant ≤ instant timed).map Prod.snd,
    (sorted.filter fun timed => instant timed < moment.instant).map Prod.snd, fun a b => ?_⟩
  have last := @fallingSortLast _ instant moment.instant [(moment, a), (moment, b)] (by simp [instant]) events
  exact (congrArg (List.map Prod.snd) last).trans (by simp [sorted])

theorem inOrderPair {a b : Event} (once : a.createdAt = b.createdAt) (events : List Event) :
    inOrder (events ++ [a, b]) = inOrder (events ++ [b, a]) ∨ ∃ before after,
      inOrder (events ++ [a, b]) = .ok (before ++ a :: b :: after) ∧
      inOrder (events ++ [b, a]) = .ok (before ++ b :: a :: after) := by
  unfold inOrder
  cases made : b.createdAt with
  | none => simp [List.mapM_append, once, made]
  | some moment =>
    cases timed : events.mapM fun event => event.createdAt.map (·, event) with
    | none => simp [List.mapM_append, timed]
    | some pairs =>
      have early : (events ++ [a, b]).mapM (fun event => event.createdAt.map (·, event)) =
          some (pairs ++ [(moment, a), (moment, b)]) := by
        simp [List.mapM_append, timed, once, made]
      have late : (events ++ [b, a]).mapM (fun event => event.createdAt.map (·, event)) =
          some (pairs ++ [(moment, b), (moment, a)]) := by
        simp [List.mapM_append, timed, once, made]
      simp only [early, late, List.map_append, List.map_cons, List.map_nil]
      obtain ⟨before, after, newest⟩ := newestFirstPair moment pairs
      split
      · exact .inr ⟨before, after, congrArg _ (newest a b), congrArg _ (newest b a)⟩
      · exact .inl rfl

theorem listingPair {a b : Event} (once : a.createdAt = b.createdAt) (events : List Event) (organizer : Raw) :
    listing (events ++ [a, b]) organizer = listing (events ++ [b, a]) organizer ∨ ∃ before after,
      listing (events ++ [a, b]) organizer = .ok (before ++ a :: b :: after) ∧
      listing (events ++ [b, a]) organizer = .ok (before ++ b :: a :: after) := by
  simp only [listingOrdered, chosenAppend]
  obtain ⟨here, there⟩ | same := chosenPair organizer a b
  · rw [here, there, orderedPair, orderedPair]
    exact inOrderPair once _
  · rw [same]
    exact .inl rfl

end BoxOffice
