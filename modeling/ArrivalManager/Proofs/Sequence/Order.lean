import Mathlib.Data.String.Basic
import ArrivalManager.Proofs.FlightState
import ArrivalManager.Proofs.Sequence.Routine

/-! The order in which flights are published, and the states in which they are. -/

namespace ArrivalManager

variable {flights : List Flight} {left right : Flight}

/--
A flight that stands before another one: it lands earlier.

Of flights with one landing time, the more committed one stands first, and of those that are equally
committed the one whose callsign comes first.
-/
def Flight.Precedes (left right : Flight) : Prop :=
  left.landing.scheduled < right.landing.scheduled
    ∨ left.landing.scheduled = right.landing.scheduled
      ∧ (right.state < left.state
        ∨ right.state = left.state ∧ left.callsign < right.callsign)

/-- A flight is less than another one in sequence order exactly if it stands before it. -/
theorem Flight.sequenceOrder_eq_lt : left.sequenceOrder right = .lt ↔ left.Precedes right := by
  simp only [sequenceOrder, Precedes, Ordering.then_eq_lt, compare_lt_iff_lt, compare_eq_iff_eq]

/-- Flights that are equal in sequence order have one callsign. -/
theorem Flight.callsign_of_sequenceOrder_eq (equal : left.sequenceOrder right = .eq) :
    left.callsign = right.callsign := by
  simp only [sequenceOrder, Ordering.then_eq_eq, compare_eq_iff_eq] at equal
  exact equal.2.2

instance : Std.TransCmp Flight.sequenceOrder :=
  inferInstanceAs (Std.TransCmp (compareLex (compareOn fun flight : Flight => flight.landing.scheduled)
    (compareLex (fun left right : Flight => compareOn (fun flight : Flight => flight.state) right left)
      (compareOn fun flight : Flight => flight.callsign))))

/-- Flights whose callsigns are distinct are sorted strictly. -/
theorem sortFlights_pairwise (distinct : DistinctCallsigns flights) :
    (sortFlights flights).Pairwise Flight.Precedes := by
  have sorted : (sortFlights flights).Pairwise fun left right => (left.sequenceOrder right).isLE :=
    List.pairwise_mergeSort (fun _ _ _ => Std.TransCmp.isLE_trans) isLE_total _
  have apart : (sortFlights flights).Pairwise fun left right => left.callsign ≠ right.callsign :=
    List.pairwise_map.mp (distinct.perm ((sortFlights_perm flights).map _))
  refine (sorted.and apart).imp ?_
  rintro left right ⟨ordered, differ⟩
  apply Flight.sequenceOrder_eq_lt.mp
  -- No later, and not at the same place, is strictly before.
  cases order : left.sequenceOrder right with
  | lt => rfl
  | eq => exact absurd (Flight.callsign_of_sequenceOrder_eq order) differ
  | gt => simp [order] at ordered

/-- Of two flights, at most one stands before the other one. -/
theorem Flight.Precedes.asymm (first : left.Precedes right) : ¬ right.Precedes left := by
  rw [← Flight.sequenceOrder_eq_lt] at first ⊢
  exact fun second => absurd (Std.OrientedCmp.gt_of_lt second) (by simp [first])

/-- Flights whose callsigns are distinct are sorted in one way, however they are listed. -/
theorem sortFlights_perm_eq {others : List Flight} (distinct : DistinctCallsigns flights)
    (moved : others.Perm flights) : sortFlights others = sortFlights flights := by
  have sorted := sortFlights_pairwise (distinct.perm (moved.map (·.callsign)))
  refine List.Perm.eq_of_pairwise ?_ sorted (sortFlights_pairwise distinct)
    ((sortFlights_perm others).trans (moved.trans (sortFlights_perm flights).symm))
  exact fun _ _ _ _ first second => absurd second first.asymm

/-- The flights of a sequence as they are published: in order, and each list in fitting states. -/
structure WellFormed (flights desequenced : List Flight) : Prop where
  ordered : flights.Pairwise Flight.Precedes
  tracked : ∀ flight ∈ flights, .unstable ≤ flight.state ∧ flight.state ≤ .landed
  parked : ∀ flight ∈ desequenced, flight.state = .desequenced

/-- A sequence whose flights are as they are published. -/
def Sequence.WellFormed (sequence : Sequence) : Prop :=
  ArrivalManager.WellFormed sequence.flights sequence.desequenced

/-- A snapshot whose flights are as they are published. -/
def Snapshot.WellFormed (snapshot : Snapshot) : Prop :=
  ArrivalManager.WellFormed snapshot.flights snapshot.desequenced

namespace Sequence

variable {before after : Sequence}

/-- The empty sequence of an airport is well-formed. -/
theorem wellFormed_of_airport {airport : Airport} (founded : ofAirport airport = .ok before) :
    before.WellFormed := by
  unfold ofAirport at founded
  split at founded
  · cases founded
  · -- There are no flights that could be out of order.
    cases founded
    exact ⟨.nil, by simp, by simp⟩

/-- What is well-formed stays so when flights are left out. -/
theorem WellFormed.dropped (whole : before.WellFormed) (drops : before.Drops after) :
    after.WellFormed where
  ordered := whole.ordered.sublist drops.flights
  tracked flight member := whole.tracked flight (drops.flights.subset member)
  parked flight member := whole.parked flight (drops.desequenced.subset member)

/-- A snapshot shows its sequence as it is. -/
theorem WellFormed.snapshot (whole : before.WellFormed) (time : Instant) :
    (before.snapshot time).WellFormed := whole

end Sequence

end ArrivalManager
