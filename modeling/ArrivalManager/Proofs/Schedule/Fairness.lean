import ArrivalManager.Proofs.Schedule.Spacing
import ArrivalManager.Proofs.Schedule.Uniqueness
import Mathlib.Data.String.Basic

/-! Flights that compete on equal terms land in the order in which they are expected. -/

namespace ArrivalManager

/-- The order in which a pass handles the flights of one group: by estimate, then by callsign. -/
def Flight.DueBefore (left right : Flight) : Prop :=
  left.landing.estimate < right.landing.estimate
    ∨ left.landing.estimate = right.landing.estimate ∧ left.callsign < right.callsign

namespace Flight.DueBefore

variable {left right : Flight} (due : left.DueBefore right)
include due

/-- A flight that is due before another one is expected no later. -/
theorem estimate_le : left.landing.estimate ≤ right.landing.estimate := by
  rcases due with sooner | ⟨level, _⟩
  · exact sooner.le
  · exact level.le

/-- Within one group of a pass, the flight that is due first comes first. -/
theorem passOrder (group : left.priority = right.priority) : left.passOrder right = .lt := by
  refine Ordering.then_eq_lt.mpr (.inr ⟨by rw [group, compare_eq_iff_eq], ?_⟩)
  -- Within a group the estimates decide, and for equal estimates the callsigns do.
  rcases due with sooner | ⟨level, named⟩
  · exact Ordering.then_eq_lt.mpr (.inl (compare_lt_iff_lt.mpr sooner))
  · exact Ordering.then_eq_lt.mpr
      (.inr ⟨by rw [level, compare_eq_iff_eq], compare_lt_iff_lt.mpr named⟩)

end Flight.DueBefore

/-- A flight that a pass resolves is in the group of its priority. -/
theorem Flight.Resolvable.priority {flight : Flight} (resolvable : flight.Resolvable) :
    flight.priority = if flight.highPriority then .high else .normal := by
  simp [Flight.priority, resolvable.1, resolvable.2]

namespace Scheduler

variable {scheduler : Scheduler} {sequence : Sequence} {outcome : Outcome Sequence Unit}

/--
First come, first served: of flights with the same priority and demand, the one due first lands first.

Neither gaps in front of it that open up for others, nor a change of the mode, let the other one pass.
-/
theorem schedule_firstCome (passed : scheduler.schedule sequence = .ok outcome)
    (answered : outcome.answer = .ok ()) :
    ∃ turns, scheduler.Pass sequence outcome turns ∧
      ∀ first ∈ turns, ∀ second ∈ turns, first.flight.Resolvable → second.flight.Resolvable →
        first.flight.highPriority = second.flight.highPriority →
        first.flight.SameDemand second.flight → first.flight.DueBefore second.flight →
        first.result.landing.scheduled ≤ second.result.landing.scheduled := by
  obtain ⟨turns, pass⟩ := exists_pass passed
  refine ⟨turns, pass, fun first taken second member resolvable resolvable' group demand due => ?_⟩
  -- Nothing was refused, so both turns commit the landing that resolves the flight.
  have succeeds := pass.answer_eq_ok.mp answered
  obtain ⟨runway, one⟩ := pass.commits taken resolvable (succeeds first taken)
  obtain ⟨runway', two⟩ := pass.commits member resolvable' (succeeds second member)
  -- The first flight has its turn first, so all that is settled for it is settled for the second one.
  obtain ⟨before, after, split⟩ := List.append_of_mem member
  have early : first ∈ before := pass.mem_before split taken
    (due.passOrder (by rw [resolvable.priority, resolvable'.priority, group]))
  exact one.resolves.notLater two.resolves (.refl _) demand due.estimate_le
    fun landing settled => pass.landings_subset split early settled

end Scheduler

/-- A flight that is alike to the one that waits at a pair, but for its name. -/
def Flight.sampleFollower : Flight := { Flight.sampleArrival with callsign := "VOZ3" }

/-- Two flights behind one that keeps its landing, with a change to the south after eight minutes. -/
def Sequence.sampleStream : Sequence :=
  { Sequence.samplePair with
    flights := [.sampleAnchor, .sampleArrival, .sampleFollower]
    modeChange := some ⟨{ southMode with runways := [sampleRunway "16R" [] [] ["RIVET"]] },
      ⟨480000000000, by decide, by decide⟩, ⟨900000000000, by decide, by decide⟩, by decide⟩ }

/-- In a stream the callsigns decide in which order the flights wait. -/
theorem Sequence.waiting_sampleStream :
    Scheduler.waiting Sequence.sampleStream.flights = [.sampleArrival, .sampleFollower] :=
  Scheduler.waiting_of_pairwise (by decide)

/-- Of two flights alike in a stream, the one with the lesser callsign lands first. -/
theorem Scheduler.schedule_firstCome_sampleStream :
    ∃ outcome, Scheduler.sample.schedule .sampleStream = .ok outcome ∧
      ∃ first second : Turn, first.flight = .sampleArrival ∧ second.flight = .sampleFollower
        ∧ first.result ∈ outcome.after.flights ∧ second.result ∈ outcome.after.flights
        ∧ first.result.landing.scheduled ≤ second.result.landing.scheduled := by
  obtain ⟨outcome, passed, answered⟩ : Scheduler.sample.Succeeds .sampleStream :=
    .of_serves (by decide +kernel) Sequence.waiting_sampleStream
  obtain ⟨turns, pass, ordered⟩ := Scheduler.schedule_firstCome passed answered
  have tracked : Flight.sampleArrival ∈ Sequence.sampleStream.flights := by
    simp [Sequence.sampleStream]
  have listed : Flight.sampleFollower ∈ Sequence.sampleStream.flights := by
    simp [Sequence.sampleStream]
  obtain ⟨first, taken, named⟩ := pass.exists_turn tracked rfl
  obtain ⟨second, member, named'⟩ := pass.exists_turn listed rfl
  refine ⟨outcome, passed, first, second, named, named', pass.mem_after.mpr (.inr ⟨first, taken, rfl⟩),
    pass.mem_after.mpr (.inr ⟨second, member, rfl⟩), ?_⟩
  have terms := ordered first taken second member
  rw [named, named'] at terms
  exact terms ⟨rfl, rfl⟩ ⟨rfl, rfl⟩ rfl ⟨rfl, rfl, rfl, fun _ => rfl⟩ (.inr ⟨rfl, by decide⟩)

end ArrivalManager
