import ArrivalManager.Estimate
import ArrivalManager.Proofs.Estimation
import ArrivalManager.Proofs.Flight

/-! Deriving estimates anew changes nothing about a flight but its estimates. -/

namespace ArrivalManager.Estimator

open Estimation

variable {estimator : Estimator} {airport : Airport} {flight after : Flight} {now : Instant}

/-- At the fix, only the estimate is derived anew. -/
theorem refreshFix_frame (given : Gives (estimator.refreshFix airport flight now) after) :
    ∃ estimateOf : FeederFix → Instant, after = { flight with
      fix := flight.fix.map fun fix =>
        { fix with times := { fix.times with estimate := estimateOf fix } } } := by
  unfold refreshFix at given
  split at given
  · -- Without a fix nothing is derived.
    rename_i missing
    obtain rfl := pure_gives.mp given
    exact ⟨fun fix => fix.times.estimate, by simp⟩
  · rename_i fix found
    split at given
    · -- A fix that is passed keeps its estimate.
      obtain rfl := pure_gives.mp given
      exact ⟨fun fix => fix.times.estimate, by simp⟩
    · -- Ahead of the fix, the new estimate replaces the one before.
      obtain ⟨estimate, _, given⟩ := bind_gives.mp given
      obtain rfl := pure_gives.mp given
      exact ⟨fun _ => estimate, by simp [found]⟩

/-- A refreshed flight has new estimates at the fix and at the runway, and is otherwise the same. -/
theorem refresh_frame (given : Gives (estimator.refresh airport flight now) after) :
    ∃ (estimateOf : FeederFix → Instant) (estimate : Instant), after = { flight with
      landing := { flight.landing with estimate }
      fix := flight.fix.map fun fix =>
        { fix with times := { fix.times with estimate := estimateOf fix } } } := by
  unfold refresh at given
  split at given
  · -- A flight that has landed keeps the estimates it has.
    obtain rfl := pure_gives.mp given
    exact ⟨fun fix => fix.times.estimate, flight.landing.estimate, by simp⟩
  · -- The estimate of the landing follows from the flight with its new estimate at the fix.
    obtain ⟨refreshed, atFix, given⟩ := bind_gives.mp given
    obtain ⟨estimate, _, given⟩ := bind_gives.mp given
    obtain rfl := pure_gives.mp given
    obtain ⟨estimateOf, rfl⟩ := refreshFix_frame atFix
    exact ⟨estimateOf, estimate, rfl⟩

/-- New estimates leave alone what was decided about a flight, and its state. -/
theorem refresh_keeps (given : Gives (estimator.refresh airport flight now) after) :
    flight.Keeps after ∧ after.state = flight.state := by
  obtain ⟨estimateOf, estimate, rfl⟩ := refresh_frame given
  -- What is derived anew is not among what was decided, so only the name of the fix is left to show.
  refine ⟨⟨rfl, rfl, ?_, rfl, fun _ assigned => assigned,
    fun left => ⟨left.1, left.2, left.3⟩⟩, rfl⟩
  simp [Flight.fixIdentifier, Function.comp_def]

end ArrivalManager.Estimator
