import ArrivalManager.Proofs.Schedule.Spacing
import ArrivalManager.Proofs.Sequence.Tracking
import Mathlib.Data.List.Induction
import Mathlib.Order.Bounds.Basic

/-! Where a flight comes to stand among the others when it is moved to the position of its estimate. -/

namespace ArrivalManager

section Positions

variable {α : Type}

/-- One more element at the end comes last, if it has the property. -/
theorem endOfLast_concat (property : α → Bool) (list : List α) (last : α) :
    endOfLast property (list ++ [last])
      = if property last then list.length + 1 else endOfLast property list := by
  unfold endOfLast
  rw [List.reverse_concat, List.findIdx_cons, List.length_append, List.length_singleton]
  cases property last with
  | true => rfl
  | false => exact Nat.add_sub_add_right ..

/-- The end of the last element with a property is the greatest position just behind such an element. -/
theorem endOfLast_isGreatest (property : α → Bool) (list : List α) :
    IsGreatest {position | position = 0 ∨ ∃ index element, list[index]? = some element
      ∧ property element = true ∧ position = index + 1} (endOfLast property list) := by
  -- The search goes from the end of the list, and so does the induction.
  induction list using List.reverseRecOn with
  | nil => exact ⟨.inl rfl, by rintro position (rfl | ⟨index, element, listed, _⟩) <;> simp_all⟩
  | append_singleton list last ih =>
    obtain ⟨attained, greatest⟩ := ih
    rw [endOfLast_concat]
    cases has : property last with
    | true =>
      refine ⟨.inr ⟨list.length, last, List.getElem?_concat_length, has, rfl⟩, ?_⟩
      rintro position (rfl | ⟨index, element, listed, _, rfl⟩)
      · exact Nat.zero_le _
      · -- No element is listed behind the last one.
        obtain ⟨inside, _⟩ := List.getElem?_eq_some_iff.mp listed
        rw [List.length_append, List.length_singleton] at inside
        exact inside
    | false =>
      constructor
      · refine attained.imp_right fun ⟨index, element, listed, holds, same⟩ => ?_
        obtain ⟨inside, _⟩ := List.getElem?_eq_some_iff.mp listed
        exact ⟨index, element, by rwa [List.getElem?_append_left inside], holds, same⟩
      · rintro position (rfl | ⟨index, element, listed, holds, rfl⟩)
        · exact Nat.zero_le _
        · refine greatest (.inr ⟨index, element, ?_, holds, rfl⟩)
          -- The last element lacks the property, so this one is further ahead.
          rw [List.getElem?_append] at listed
          split at listed
          · exact listed
          · rw [List.getElem?_singleton] at listed
            split at listed
            · cases listed
              rw [has] at holds
              cases holds
            · cases listed

/-- An element that is inserted between two parts of a list stands between them. -/
theorem insertIdx_append (front back : List α) (element : α) :
    (front ++ back).insertIdx front.length element = front ++ element :: back := by
  induction front with
  | nil => rfl
  | cons first rest ih => exact congrArg (first :: ·) ih

end Positions

variable {ahead behind : List Flight} {flight other : Flight} {callsign : Callsign}
  {sequence : Sequence}

namespace Flight

/--
Whether a flight may not be overtaken by another one.

It is fixed in its position, and the other one may need its runway: a missing runway stands for all.
-/
def Bounds (other flight : Flight) : Prop :=
  other.state.positionIsFixed = true
    ∧ ∀ runway place, flight.runway = some runway → other.runway = some place → place = runway

/-- The flights that may not be overtaken are those that the search for the bound looks for. -/
theorem bounds_iff : other.Bounds flight ↔
    (other.state.positionIsFixed && sharesRunway flight other) = true := by
  unfold Bounds sharesRunway
  rw [Bool.and_eq_true]
  refine and_congr_right fun _ => ?_
  -- The runways are compared only where both flights have one.
  cases flight.runway <;> cases other.runway <;> simp [eq_comm]

instance : Decidable (other.Bounds flight) := decidable_of_iff _ bounds_iff.symm

/-- The positions that a flight must not come before: the front, and those behind what bounds it. -/
def positionBounds (flight : Flight) (displace : Bool) (others : List Flight) : Set Nat :=
  {position | position = 0 ∨ displace = false ∧ ∃ index other, others[index]? = some other
    ∧ other.Bounds flight ∧ position = index + 1}

/-- The positions from a bound on at which no flight follows that is expected earlier. -/
def openPositions (flight : Flight) (bound : Nat) (others : List Flight) : Set Nat :=
  {position | bound ≤ position ∧ ∀ follower, others[position]? = some follower →
    flight.landing.estimate ≤ follower.landing.estimate}

end Flight

/-- The earliest position for a flight is the last one that bounds it. -/
theorem earliestPosition_isGreatest (displace : Bool) (flight : Flight) (others : List Flight) :
    IsGreatest (flight.positionBounds displace others) (earliestPosition displace flight others) := by
  unfold earliestPosition Flight.positionBounds
  cases displace with
  | true => simp [IsGreatest, upperBounds]
  | false =>
    simp only [Flight.bounds_iff, true_and]
    exact endOfLast_isGreatest _ others

/-- The position of a flight is the first one from the bound on at which it overtakes nobody. -/
theorem positionByEstimate_isLeast (displace : Bool) (flight : Flight) (others : List Flight) :
    IsLeast (flight.openPositions (earliestPosition displace flight others) others)
      (positionByEstimate displace flight others) := by
  unfold positionByEstimate
  generalize earliestPosition displace flight others = bound
  -- The search counts from the bound on.
  refine ⟨⟨Nat.le_add_right .., fun follower follows => ?_⟩, ?_⟩
  · rw [← List.getElem?_drop] at follows
    obtain ⟨inside, rfl⟩ := List.getElem?_eq_some_iff.mp follows
    have stops := List.findIdx_getElem (w := inside)
    exact of_decide_eq_true stops
  · rintro position ⟨behind, overtakes⟩
    obtain ⟨distance, rfl⟩ := Nat.exists_eq_add_of_le behind
    by_contra before
    have passed : distance < (others.drop bound).findIdx fun other =>
        flight.landing.estimate ≤ other.landing.estimate := by
      dsimp only at before
      omega
    -- The search does not stop at a position that it passes.
    have later := List.not_of_lt_findIdx passed
    have inside := passed.trans_le List.findIdx_le_length
    refine absurd (overtakes _ ?_) (of_decide_eq_false later)
    rw [← List.getElem?_drop, List.getElem?_eq_getElem inside]

/-- A flight stands among others, with some of them ahead of it, where its estimate puts it. -/
structure Flight.Placed (flight : Flight) (displace : Bool) (ahead behind : List Flight) : Prop where
  /-- From the last position that bounds it on, this is the first one that is open to it. -/
  first : ∃ bound, IsGreatest (flight.positionBounds displace (ahead ++ behind)) bound
    ∧ IsLeast (flight.openPositions bound (ahead ++ behind)) ahead.length
  /-- Unless it may displace them, the flights that bound it are ahead of it. -/
  yields : displace = false → ∀ other ∈ behind, ¬ other.Bounds flight
  /-- Where no flight bounds it, others in the order of their estimates remain in that order. -/
  ordered : (displace = true ∨ ∀ other ∈ ahead ++ behind, ¬ other.Bounds flight) →
    (ahead ++ behind).Pairwise (·.landing.estimate ≤ ·.landing.estimate) →
    (ahead ++ flight :: behind).Pairwise (·.landing.estimate ≤ ·.landing.estimate)

namespace Flight.Placed

/-- Nobody that bounds a flight is behind the first position that is open to it. -/
theorem yields_of_first {bound : Nat}
    (greatest : IsGreatest (flight.positionBounds false (ahead ++ behind)) bound)
    (least : IsLeast (flight.openPositions bound (ahead ++ behind)) ahead.length)
    (member : other ∈ behind) : ¬ other.Bounds flight := by
  intro bounds
  obtain ⟨index, inside, rfl⟩ := List.getElem_of_mem member
  -- The position just behind the other flight would be a bound that is further back.
  have reached : ahead.length + index + 1 ≤ bound := by
    refine greatest.2 (.inr ⟨rfl, ahead.length + index, _, ?_, bounds, rfl⟩)
    rw [List.getElem?_append_right (Nat.le_add_right ..), Nat.add_sub_cancel_left,
      List.getElem?_eq_getElem inside]
  have behindBound : bound ≤ ahead.length := least.1.1
  omega

/-- At the first open position of all, a flight keeps the order of the estimates. -/
theorem ordered_of_first (least : IsLeast (flight.openPositions 0 (ahead ++ behind)) ahead.length)
    (sorted : (ahead ++ behind).Pairwise (·.landing.estimate ≤ ·.landing.estimate)) :
    (ahead ++ flight :: behind).Pairwise (·.landing.estimate ≤ ·.landing.estimate) := by
  obtain ⟨front, back, across⟩ := List.pairwise_append.mp sorted
  have earlier : ∀ other ∈ ahead, other.landing.estimate ≤ flight.landing.estimate := by
    intro other member
    obtain ⟨index, inside, rfl⟩ := List.getElem_of_mem member
    -- A flight ahead that is not expected earlier would leave its own position open.
    by_contra later
    refine absurd (least.2 ⟨Nat.zero_le index, fun follower follows => ?_⟩) (Nat.not_le.mpr inside)
    rw [List.getElem?_append_left inside, List.getElem?_eq_getElem inside] at follows
    cases follows
    exact le_of_not_ge later
  have later : ∀ other ∈ behind, flight.landing.estimate ≤ other.landing.estimate := by
    cases behind with
    | nil => simp
    | cons next rest =>
      have follows : flight.landing.estimate ≤ next.landing.estimate := least.1.2 next (by simp)
      -- The flights further back are expected no earlier than the next one.
      intro other member
      rcases List.mem_cons.mp member with rfl | further
      · exact follows
      · exact follows.trans (List.rel_of_pairwise_cons back further)
  refine List.pairwise_append.mpr ⟨front, List.pairwise_cons.mpr ⟨later, back⟩, ?_⟩
  intro other member next listed
  rcases List.mem_cons.mp listed with rfl | listed
  · exact earlier other member
  · exact across other member next listed

/-- A flight is placed where the first open position from the last bound on is. -/
theorem of_first {displace : Bool} {bound : Nat}
    (greatest : IsGreatest (flight.positionBounds displace (ahead ++ behind)) bound)
    (least : IsLeast (flight.openPositions bound (ahead ++ behind)) ahead.length) :
    flight.Placed displace ahead behind where
  first := ⟨bound, greatest, least⟩
  yields := by
    rintro rfl other member
    exact yields_of_first greatest least member
  ordered := by
    intro unbounded sorted
    -- With nothing to bound it, all positions from the front on are considered.
    obtain rfl : bound = 0 := by
      refine greatest.1.resolve_right fun ⟨kept, index, other, listed, bounds, _⟩ => ?_
      rcases unbounded with displaces | free
      · rw [kept] at displaces
        cases displaces
      · exact free other (List.mem_of_getElem? listed) bounds
    exact ordered_of_first least sorted

/-- Put at the position of its estimate, a flight is placed among the others. -/
theorem exists_split (displace : Bool) (flight : Flight) (others : List Flight) :
    ∃ ahead behind, ahead ++ behind = others
      ∧ ahead.length = positionByEstimate displace flight others
      ∧ flight.Placed displace ahead behind := by
  have inside := positionByEstimate_le displace flight others
  have greatest := earliestPosition_isGreatest displace flight others
  have least := positionByEstimate_isLeast displace flight others
  generalize earliestPosition displace flight others = bound at greatest least
  generalize positionByEstimate displace flight others = position at inside least ⊢
  -- Split at the position, the others are in two parts.
  obtain ⟨ahead, behind, rfl, rfl⟩ : ∃ ahead behind, ahead ++ behind = others
      ∧ ahead.length = position :=
    ⟨others.take position, others.drop position, List.take_append_drop .., List.length_take_of_le inside⟩
  exact ⟨ahead, behind, rfl, rfl, of_first greatest least⟩

end Flight.Placed

namespace Sequence

/--
A tracked flight moves to the position that is answered, and nothing else about the sequence changes.

The other flights stay as they are and in their order. The position is the first one from the bound on
where the flight is not put ahead of a flight that is expected earlier.
-/
theorem reposition_places (tracked : sequence.flight? callsign = some flight) (displace : Bool) :
    ∃ front back ahead behind, sequence.flights = front ++ flight :: back
      ∧ ahead ++ behind = front ++ back
      ∧ sequence.reposition callsign displace
        = .ok (ahead.length, { sequence with flights := ahead ++ flight :: behind })
      ∧ flight.Placed displace ahead behind := by
  obtain ⟨front, back, split, erased, _⟩ := findFlight_split tracked
  obtain ⟨ahead, behind, same, length, placed⟩ :=
    Flight.Placed.exists_split displace flight (front ++ back)
  refine ⟨front, back, ahead, behind, split, same, ?_, placed⟩
  unfold reposition
  rw [tracked]
  -- What is left without the flight is what it is put among.
  dsimp only
  rw [erased, ← length, ← same, insertIdx_append]

/-- A flight that is expected before a frozen one on another runway, and before one that is due later. -/
def sampleQueue : Sequence :=
  { samplePair with
    flights := [
      { Flight.sampleAnchor with state := .frozen, landing := .ofEstimate (.sampleSeconds 60) },
      { Flight.sampleAnchor with callsign := "JST3", landing := .ofEstimate (.sampleSeconds 120) },
      .sampleArrival] }

/-- A flight without a runway stays behind the frozen one, though it is expected before it. -/
theorem reposition_places_sampleQueue :
    ∃ ahead behind, sampleQueue.reposition "VOZ2" false
        = .ok (ahead.length, { sampleQueue with flights := ahead ++ .sampleArrival :: behind })
      ∧ ahead.length = 1 ∧ Flight.sampleArrival.Placed false ahead behind := by
  have tracked : sampleQueue.flight? "VOZ2" = some .sampleArrival := rfl
  obtain ⟨front, back, ahead, behind, _, _, moved, placed⟩ := reposition_places tracked false
  have first : (sampleQueue.reposition "VOZ2" false).map (·.1) = .ok 1 := rfl
  rw [moved] at first
  exact ⟨ahead, behind, moved, Except.ok.inj first, placed⟩

end Sequence

end ArrivalManager
