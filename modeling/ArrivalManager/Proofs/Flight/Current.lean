import ArrivalManager.Proofs.Estimate.Independence

/-! Flights that are up to date: to derive their estimates anew, or to promote them again, does nothing. -/

namespace ArrivalManager

open Estimation

namespace Estimator

variable {estimator : Estimator} {airport : Airport} {flight other after : Flight} {now : Instant}

/-- At the fix nothing new is derived exactly if it is passed, or has the estimate that it would get. -/
theorem refreshFix_self :
    Gives (estimator.refreshFix airport flight now) flight ↔
      ∀ fix, flight.fix = some fix → fix.isPassed = false →
        Gives (estimator.fixEstimate airport.radarRangeNm fix.identifier fix.times.system
          flight.position now) fix.times.estimate := by
  unfold refreshFix
  cases found : flight.fix with
  | none => simp
  | some fix =>
    cases passed : fix.isPassed with
    | true => simp [passed]
    | false =>
      simp only [Bool.false_eq_true, if_false, Option.some.injEq, forall_eq', passed, forall_const]
      rw [bind_gives]
      constructor
      · -- If the flight is given back, so is the estimate at its fix.
        rintro ⟨estimate, derived, given⟩
        have same := congrArg Flight.fix (pure_gives.mp given)
        rw [found] at same
        rw [← Option.some.inj same]
        exact derived
      · intro derived
        refine ⟨fix.times.estimate, derived, pure_gives.mpr ?_⟩
        rw [← found]

/-- What was derived at the fix once is not derived anew. -/
theorem refreshFix_again (given : Gives (estimator.refreshFix airport flight now) after) :
    Gives (estimator.refreshFix airport after now) after := by
  rw [refreshFix_self]
  intro fix found ahead
  unfold refreshFix at given
  split at given
  · rename_i missing
    obtain rfl := pure_gives.mp given
    exact absurd (missing.symm.trans found) (by simp)
  · rename_i former known
    split at given
    · rename_i passed
      obtain rfl := pure_gives.mp given
      obtain rfl := Option.some.inj (known.symm.trans found)
      exact absurd (passed.symm.trans ahead) (by decide)
    · obtain ⟨estimate, derived, given⟩ := bind_gives.mp given
      obtain rfl := pure_gives.mp given
      obtain rfl := Option.some.inj found
      exact derived

/-- At a fix of which the same is known, and from the same position, nothing new is derived either. -/
theorem refreshFix_transfer (given : Gives (estimator.refreshFix airport flight now) flight)
    (knowledge : other.fixKnowledge = flight.fixKnowledge) (position : other.position = flight.position) :
    Gives (estimator.refreshFix airport other now) other := by
  rw [refreshFix_self] at given ⊢
  intro fix found ahead
  obtain ⟨known, former, report, estimate⟩ := Flight.exists_fix knowledge found
  obtain ⟨identifier, system, crossing⟩ := FixReport.mk.inj report
  have ahead' : known.isPassed = false := by
    unfold FeederFix.isPassed at ahead ⊢
    rw [← crossing]
    exact ahead
  rw [identifier, system, estimate, position]
  exact given known former ahead'

/-- The landing is estimated alike from records of a flight with the same fix, runway and arrival. -/
theorem landingEstimate_congr (name : String) (system : Instant)
    (knowledge : other.fixKnowledge = flight.fixKnowledge) (runway : other.runway = flight.runway)
    (arrival : other.arrival = flight.arrival) (aircraft : other.aircraft = flight.aircraft) :
    estimator.landingEstimate name other system = estimator.landingEstimate name flight system := by
  -- What is known of a fix is what was reported of it, and its estimate as long as it is ahead.
  have report : other.fixReport = flight.fixReport := by
    rw [Flight.fixReport_eq, Flight.fixReport_eq, knowledge]
  have ahead : other.estimates.fix = flight.estimates.fix := by
    rw [Flight.estimates_fix, Flight.estimates_fix, knowledge]
  exact landingEstimate_eq name system report ahead runway arrival aircraft

/-- A flight with the estimates that its data give, at the fix and at the runway. -/
structure Current (estimator : Estimator) (airport : Airport) (now : Instant) (flight : Flight) :
    Prop where
  atFix : Gives (estimator.refreshFix airport flight now) flight
  landing : Gives (estimator.landingEstimate airport.identifier flight flight.landing.system)
    flight.landing.estimate

/-- A flight that has not landed is current once its estimates are derived. -/
theorem current_of_refresh (airborne : flight.state ≠ .landed)
    (given : Gives (estimator.refresh airport flight now) after) :
    estimator.Current airport now after := by
  unfold refresh at given
  rw [if_neg airborne] at given
  obtain ⟨located, atFix, given⟩ := bind_gives.mp given
  obtain ⟨estimate, landing, given⟩ := bind_gives.mp given
  obtain rfl := pure_gives.mp given
  exact ⟨refreshFix_transfer (refreshFix_again atFix) rfl rfl, landing⟩

/-- A flight that is current, or has landed, keeps its estimates when they are derived anew. -/
theorem refresh_self (upToDate : flight.state ≠ .landed → estimator.Current airport now flight) :
    Gives (estimator.refresh airport flight now) flight := by
  unfold refresh
  split
  · exact pure_gives.mpr rfl
  · rename_i airborne
    have current := upToDate airborne
    exact bind_gives.mpr ⟨flight, current.atFix, bind_gives.mpr ⟨_, current.landing, pure_gives.mpr rfl⟩⟩

end Estimator

namespace Flight

variable {flight other : Flight} {now : Instant} {thresholds : Thresholds}

/-- An unstable flight stays as it is exactly if it is not due to become stable. -/
theorem promote_self (unstable : flight.state = .unstable) :
    flight.promote now thresholds = flight ↔ flight.isPromotionDue now thresholds .unstable = false := by
  have promoted {due : FlightState → Bool} :
      promotedState due .unstable = .unstable ↔ due .unstable = false := by
    simp only [promotedState]
    repeat' split
    all_goals simp_all
  rw [← promoted]
  unfold promote
  rw [unstable]
  constructor
  · intro same
    exact (congrArg Flight.state same).trans unstable
  · intro same
    rw [same, ← unstable]

/-- Records with the same activation and the same estimates become stable at the same time. -/
theorem isPromotionDue_unstable_congr (same : flight.SameKnowledge other)
    (estimate : other.landing.estimate = flight.landing.estimate) :
    other.isPromotionDue now thresholds .unstable = flight.isPromotionDue now thresholds .unstable := by
  have entry : other.entryEstimate = flight.entryEstimate := by
    unfold entryEstimate
    cases found : other.fix with
    | none =>
      rw [fix_eq_none same.knowledge found]
      exact estimate
    | some fix =>
      obtain ⟨known, former, _, expected⟩ := exists_fix same.knowledge found
      rw [former]
      exact expected
  simp only [isPromotionDue, entry, same.activated]

end Flight

end ArrivalManager
