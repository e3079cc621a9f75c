import ArrivalManager.Proofs.Estimate
import ArrivalManager.Proofs.Flight.Knowledge
import ArrivalManager.SampleAirport

/-! Estimates are derived from what was reported and decided, never from estimates of before. -/

namespace ArrivalManager

open Estimation

/-- What the estimates of a flight are derived from; no estimate of the sequencer is part of it. -/
structure Basis where
  state : FlightState
  aircraft : Aircraft
  fix : Option FixReport
  /-- The latest estimate of the landing by the flight data system. -/
  system : Instant
  runway : Option String
  arrival : Option String
  position : Option Position

/-- The estimates that a flight has: at a fix that is still ahead, and of its landing. -/
structure Estimates where
  fix : Option Instant
  landing : Instant

namespace FeederFix

/-- The estimate at a fix, as long as the fix is ahead. -/
def estimateAhead (fix : FeederFix) : Option Instant :=
  if fix.isPassed then none else some fix.times.estimate

/-- The fix with another estimate, or with the system estimate for want of one; a passed one stays. -/
def withEstimate (fix : FeederFix) (estimate : Option Instant) : FeederFix :=
  if fix.isPassed then fix
  else { fix with times := { fix.times with estimate := estimate.getD fix.times.system } }

/-- Of estimates that are given to a fix one after the other, the last one counts. -/
theorem withEstimate_withEstimate (fix : FeederFix) (first second : Option Instant) :
    (fix.withEstimate first).withEstimate second = fix.withEstimate second := by
  unfold withEstimate
  -- An estimate concerns no crossing, so both are taken over or neither.
  cases passed : fix.isPassed <;> simp_all [isPassed]

/-- What was reported of a fix stays. -/
theorem withEstimate_report (fix : FeederFix) (estimate : Option Instant) :
    (fix.withEstimate estimate).report = fix.report := by
  unfold withEstimate
  split <;> rfl

end FeederFix

namespace Flight

/-- What the estimates of a flight are derived from. -/
def basis (flight : Flight) : Basis where
  state := flight.state
  aircraft := flight.aircraft
  fix := flight.fixReport
  system := flight.landing.system
  runway := flight.runway
  arrival := flight.arrival
  position := flight.position

/-- The estimates that a flight has. -/
def estimates (flight : Flight) : Estimates where
  fix := flight.fix.bind (·.estimateAhead)
  landing := flight.landing.estimate

/-- The flight with other estimates. -/
def withEstimates (flight : Flight) (estimates : Estimates) : Flight :=
  { flight with
    landing := { flight.landing with estimate := estimates.landing }
    fix := flight.fix.map (·.withEstimate estimates.fix) }

/-- Of estimates that are given to a flight one after the other, the last ones count. -/
theorem withEstimates_withEstimates (flight : Flight) (first second : Estimates) :
    (flight.withEstimates first).withEstimates second = flight.withEstimates second := by
  simp only [withEstimates, Option.map_map, Function.comp_def, FeederFix.withEstimate_withEstimate]

/-- Other estimates are no other basis. -/
theorem withEstimates_basis (flight : Flight) (estimates : Estimates) :
    (flight.withEstimates estimates).basis = flight.basis := by
  -- The only estimate that could matter is the one at the fix, and it is not part of the report.
  have same : (flight.withEstimates estimates).fixReport = flight.fixReport := by
    simp only [withEstimates, fixReport, Option.map_map, Function.comp_def,
      FeederFix.withEstimate_report]
  unfold basis
  rw [same]
  rfl

/-- The estimate at a fix ahead is part of what is known of the fix. -/
theorem estimates_fix (flight : Flight) : flight.estimates.fix = flight.fixKnowledge.bind
    fun (report, estimate) => if report.crossing.isSome then none else some estimate := by
  unfold estimates fixKnowledge
  cases flight.fix <;> rfl

end Flight

namespace Estimator

variable {estimator : Estimator} {airport : Airport} {flight left right middle after : Flight}
  {now earlier later : Instant} {times : List Instant}

/-- A flight that has landed is not refreshed. -/
theorem refresh_of_landed (landed : flight.state = .landed) :
    estimator.refresh airport flight now = pure flight := by
  unfold refresh
  rw [if_pos landed]

/-- A fix that is passed stays as it is. -/
theorem refresh_of_passed (passed : flight.hasPassedFix = true)
    (given : Gives (estimator.refresh airport flight now) after) : after.fix = flight.fix := by
  unfold refresh at given
  split at given
  · -- A flight that has landed stays as it is altogether.
    rw [← pure_gives.mp given]
  · obtain ⟨located, atFix, given⟩ := bind_gives.mp given
    obtain ⟨estimate, _, given⟩ := bind_gives.mp given
    obtain rfl := pure_gives.mp given
    -- The estimate of the landing comes last, so what counts is the step at the fix.
    unfold refreshFix at atFix
    cases found : flight.fix with
    | none => simp [Flight.hasPassedFix, found] at passed
    | some fix =>
      have crossed : fix.isPassed = true := by simpa [Flight.hasPassedFix, found] using passed
      simp only [found, crossed, if_true, pure_gives] at atFix
      rw [← atFix, ← found]
      rfl

/-- A refreshed flight differs from the former one in its estimates only. -/
theorem refresh_withEstimates (given : Gives (estimator.refresh airport flight now) after) :
    after = flight.withEstimates after.estimates := by
  obtain ⟨estimateOf, estimate, shape⟩ := refresh_frame given
  have same : after.fix = flight.fix.map (·.withEstimate after.estimates.fix) := by
    cases found : flight.fix with
    | none => simp [shape, found]
    | some fix =>
      cases passed : fix.isPassed with
      | true =>
        -- The frame alone would allow a new estimate here.
        rw [refresh_of_passed (by simp [Flight.hasPassedFix, found, passed]) given]
        simp [found, FeederFix.withEstimate, passed]
      | false =>
        -- A fix that was ahead still is, whatever its times are.
        have ahead (times : PointTimes) : FeederFix.isPassed { fix with times } = false := passed
        simp [shape, found, Flight.estimates, FeederFix.withEstimate, FeederFix.estimateAhead, passed,
          ahead]
  unfold Flight.withEstimates
  rw [← same, shape]
  rfl

/-- The landing is estimated alike with one report of the fix and one estimate at a fix ahead. -/
theorem landingEstimate_eq (name : String) (system : Instant)
    (report : left.fixReport = right.fixReport) (ahead : left.estimates.fix = right.estimates.fix)
    (runway : left.runway = right.runway) (arrival : left.arrival = right.arrival)
    (aircraft : left.aircraft = right.aircraft) :
    estimator.landingEstimate name left system = estimator.landingEstimate name right system := by
  unfold landingEstimate
  rw [runway, arrival, aircraft]
  cases found : left.fix with
  | none =>
    -- Neither flight has a fix, so the system estimate stands for both.
    rw [Flight.fixReport_eq_none report found]
  | some fix =>
    obtain ⟨other, known, same⟩ := Flight.exists_report report found
    obtain ⟨identifier, _, crossing⟩ := FixReport.mk.inj same
    rw [known]
    cases right.runway with
    | none => rfl
    | some name =>
      simp only [identifier, crossing, FeederFix.actualTimeOver]
      rcases crossed : fix.crossing with _ | time | _
      · -- The flight is expected at the runway some time after the fix, which is ahead.
        have same : fix.times.estimate = other.times.estimate := by
          simpa [Flight.estimates, FeederFix.estimateAhead, found, known, FeederFix.isPassed, crossing,
            crossed] using ahead
        simp [same]
      · -- The time of the crossing takes the place of the estimate.
        rfl
      · -- No time at the fix is known, and none is asked for.
        rfl

/-- With one basis, and one estimate at a fix ahead, the rest is derived alike. -/
theorem landing_congr (same : left.basis = right.basis)
    (ahead : left.estimates.fix = right.estimates.fix) :
    (do
      let estimate ← estimator.landingEstimate airport.identifier left left.landing.system
      return (left.updateLandingEstimate estimate).estimates)
    = (do
      let estimate ← estimator.landingEstimate airport.identifier right right.landing.system
      return (right.updateLandingEstimate estimate).estimates) := by
  obtain ⟨_, aircraft, report, system, runway, arrival, _⟩ := Basis.mk.inj same
  -- The two flights may differ, but not in the estimates that they end up with.
  rw [landingEstimate_eq _ _ report ahead runway arrival aircraft, system]
  have last (estimate : Instant) : (left.updateLandingEstimate estimate).estimates
      = (right.updateLandingEstimate estimate).estimates :=
    congrArg (Estimates.mk · estimate) ahead
  simp only [last]

/-- The estimates that are derived for a flight in the air depend on their basis only. -/
theorem refresh_congr (same : left.basis = right.basis) (airborne : left.state ≠ .landed) :
    Flight.estimates <$> estimator.refresh airport left now
      = Flight.estimates <$> estimator.refresh airport right now := by
  obtain ⟨state, aircraft, report, system, runway, arrival, position⟩ := Basis.mk.inj same
  unfold refresh refreshFix
  rw [if_neg airborne, if_neg (state ▸ airborne)]
  -- The cases are those of the step at the fix, which both flights take alike.
  cases found : left.fix with
  | none =>
    have missing := Flight.fixReport_eq_none report found
    rw [missing]
    simp only [pure_bind, map_bind, map_pure]
    exact landing_congr same (by simp [Flight.estimates, found, missing])
  | some fix =>
    obtain ⟨other, known, told⟩ := Flight.exists_report report found
    obtain ⟨identifier, expected, crossing⟩ := FixReport.mk.inj told
    have alike : other.isPassed = fix.isPassed := congrArg Option.isSome crossing
    rw [known]
    cases passed : fix.isPassed with
    | true =>
      simp only [alike, passed, if_true, pure_bind, map_bind, map_pure]
      -- The estimates at a fix that is passed may differ, but neither of them is ahead.
      have ahead : left.estimates.fix = right.estimates.fix := by
        simp [Flight.estimates, FeederFix.estimateAhead, found, known, alike, passed]
      exact landing_congr same ahead
    | false =>
      simp only [alike, passed, Bool.false_eq_true, if_false, bind_assoc, pure_bind, map_bind, map_pure,
        identifier, expected, position]
      -- What is derived at the fix is the same, and takes the place of what was estimated there.
      congr 1
      funext estimate
      apply landing_congr
      · have reported : some (FixReport.mk fix.identifier fix.times.system fix.crossing)
            = some ⟨fix.identifier, fix.times.system, other.crossing⟩ := by
          rw [crossing]
        exact (Basis.mk.injEq ..).mpr ⟨state, aircraft, reported, system, runway, arrival, rfl⟩
      · -- The fix is still ahead in both, so the new estimate is the one there.
        have ahead : fix.crossing.isSome = false := passed
        simp [Flight.estimates, FeederFix.estimateAhead, FeederFix.isPassed, crossing, ahead]

/-- A refreshed flight is the former one with the estimates that are derived. -/
theorem refresh_eq (flight : Flight) : estimator.refresh airport flight now
    = flight.withEstimates <$> Flight.estimates <$> estimator.refresh airport flight now := by
  rw [← comp_map]
  -- What a computation gives is put together again from its estimates.
  calc estimator.refresh airport flight now
    _ = id <$> estimator.refresh airport flight now := (id_map _).symm
    _ = (flight.withEstimates ∘ Flight.estimates) <$> estimator.refresh airport flight now :=
        map_congr fun _ given => refresh_withEstimates given

/-- After a refresh, the next one is made as if the first one had not been. -/
theorem refresh_refresh (given : Gives (estimator.refresh airport flight earlier) middle) :
    estimator.refresh airport middle later = estimator.refresh airport flight later := by
  have changed := refresh_withEstimates given
  -- The second refresh begins with the same basis as the first one.
  have same : middle.basis = flight.basis := by
    rw [changed]
    exact flight.withEstimates_basis _
  by_cases landed : flight.state = .landed
  · rw [refresh_of_landed landed] at given
    rw [pure_gives.mp given]
  · have airborne : middle.state ≠ .landed := (refresh_keeps given).2 ▸ landed
    -- The estimates of the first refresh are replaced, whatever they were.
    have replaced : middle.withEstimates = flight.withEstimates := by
      funext estimates
      rw [changed]
      exact flight.withEstimates_withEstimates _ estimates
    calc estimator.refresh airport middle later
      _ = middle.withEstimates <$> Flight.estimates <$> estimator.refresh airport middle later :=
          refresh_eq middle
      _ = middle.withEstimates <$> Flight.estimates <$> estimator.refresh airport flight later := by
          rw [refresh_congr same airborne]
      _ = flight.withEstimates <$> Flight.estimates <$> estimator.refresh airport flight later := by
          rw [replaced]
      _ = estimator.refresh airport flight later := (refresh_eq flight).symm

/-- However often a flight was refreshed before, and in whatever order, only the last time counts. -/
theorem refresh_foldlM (given : Gives (times.foldlM (estimator.refresh airport) flight) middle) :
    estimator.refresh airport middle now = estimator.refresh airport flight now := by
  -- The induction is on the refreshes before; the first of them makes no difference to the rest.
  induction times generalizing flight with
  | nil => rw [← pure_gives.mp given]
  | cons time rest ih =>
    rw [List.foldlM_cons] at given
    obtain ⟨next, refreshed, given⟩ := bind_gives.mp given
    rw [ih given, refresh_refresh refreshed]

/--
Estimates do not build on each other.

Between two refreshes nothing is remembered: the whole second computation is that of a single one.
What is derived for a flight in the air depends on its basis and the time, a fix that is passed stays,
and so does a flight that has landed.
-/
theorem refresh_memoryless (given : Gives (estimator.refresh airport flight earlier) middle) :
    estimator.refresh airport middle later = estimator.refresh airport flight later
      ∧ (∀ left right : Flight, left.basis = right.basis → left.state ≠ .landed → ∀ now,
          Flight.estimates <$> estimator.refresh airport left now
            = Flight.estimates <$> estimator.refresh airport right now)
      ∧ (flight.hasPassedFix = true → middle.fix = flight.fix)
      ∧ (flight.state = .landed → middle = flight) := by
  refine ⟨refresh_refresh given, ?_, fun passed => refresh_of_passed passed given, ?_⟩
  · intro left right same airborne now
    exact refresh_congr same airborne
  · intro landed
    rw [refresh_of_landed landed] at given
    exact (pure_gives.mp given).symm

/-- The estimator with the sample tables. -/
def sample : Estimator := ⟨FixTable.sample.lookup, ArrivalTable.sample.lookup⟩

/-- An arrival on its way to a feeder fix, which it is expected to reach earlier than before. -/
def sampleAhead : Flight :=
  { Flight.inbound "QFA1" ⟨⟨.medium, true⟩, "B738"⟩ "YSSY" (.sampleSeconds 3600) with
    state := .unstable
    fix := some { FeederFix.ahead "RIVET" (.sampleSeconds 900) with
      times := { PointTimes.ofEstimate (.sampleSeconds 900) with system := .sampleSeconds 600 } }
    assignment := some ⟨"34R", false⟩ }

/-- The new estimates are derived from the time at which the fix is expected now, and once only. -/
theorem refresh_memoryless_sampleAhead :
    ∃ middle, Gives (sample.refresh .sample sampleAhead (.sampleSeconds 120)) middle
      ∧ sampleAhead.estimates = ⟨some (.sampleSeconds 900), .sampleSeconds 3600⟩
      ∧ middle.estimates = ⟨some (.sampleSeconds 600), .sampleSeconds 1620⟩
      ∧ sample.refresh .sample middle .epoch = sample.refresh .sample sampleAhead .epoch := by
  have given : Gives (sample.refresh .sample sampleAhead (.sampleSeconds 120)) _ := rfl
  exact ⟨_, given, rfl, rfl, (refresh_memoryless given).1⟩

end Estimator

end ArrivalManager
