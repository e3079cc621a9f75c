import ArrivalManager.Flight
import ArrivalManager.Lookup
import ArrivalManager.Lookup.Misses

/-! Estimates at the feeder fix and at the runway, from system estimates and surveillance. -/

namespace ArrivalManager

/-- What estimates are derived from besides the flight itself. -/
structure Estimator where
  fixes : FixLookup
  arrivals : ArrivalLookup

namespace Estimator

/-- The distance from a position to a fix, if the place of the fix is known. -/
def distanceToFix (estimator : Estimator) (fix : String) (position : Position) :
    Counted (Option Float) :=
  match estimator.fixes fix with
  | some place => pure (some (position.coordinate.distanceNm place))
  | none => do
    Counted.tally ⟨0, 0, 1⟩
    return none

/-- The time a flight takes for a distance at its ground speed, rounded to milliseconds. -/
def flyingTime (distance groundSpeed : Float) : Except Overflow Duration :=
  let milliseconds := ((distance / groundSpeed) * 3600000.0).round.toInt64.toInt
  (Duration.ofMilliseconds milliseconds).checked .milliseconds

/--
The estimate at a feeder fix.

Within range of the fix, and in motion, a flight is expected halfway between the time that its
ground speed suggests and the system estimate; everywhere else at the system estimate.
-/
def fixEstimate (estimator : Estimator) (radarRange : Float) (fix : String) (system : Instant)
    (position : Option Position) (now : Instant) : Estimation Instant :=
  match position with
  | none => return system
  | some position => do
    match ← (estimator.distanceToFix fix position : Counted _) with
    | none => return system
    | some distance =>
      -- Neither a distance nor a speed that is not a number is ruled out here.
      if distance > radarRange || position.groundSpeedKt <= 0.0 then return system
      else
        let flying ← flyingTime distance position.groundSpeedKt
        let radar ← now.plus flying
        radar.halfway system

/-- The time from a fix to touchdown, or the average of the airport where that is not known. -/
def timeToGo (estimator : Estimator) (airport fix : String) (arrival : Option String)
    (runway : String) (aircraft : Aircraft) : Estimation (Option Duration) :=
  match estimator.arrivals.timeToGo airport fix arrival runway aircraft with
  | some time => return some time
  | none => do
    Counted.tally ⟨1, 0, 0⟩
    match ← estimator.arrivals.averageTimeToGo airport fix with
    | some average => return some average
    | none =>
      Counted.tally ⟨0, 1, 0⟩
      return none

/--
The estimate of the landing: the time at the fix, and the time to go from there.

The system estimate stands for a flight without fix or runway, for one that was past its fix before
it was tracked, and where no time to go is known.
-/
def landingEstimate (estimator : Estimator) (airport : String) (flight : Flight)
    (system : Instant) : Estimation Instant :=
  match flight.fix, flight.runway with
  | some fix, some runway =>
    -- When such a flight was over its fix is not known.
    if fix.crossing = some .untracked then return system
    else do
      match ← estimator.timeToGo airport fix.identifier flight.arrival runway flight.aircraft with
      | none => return system
      | some time => (fix.actualTimeOver.getD fix.times.estimate).plus time
  | _, _ => return system

/-- The flight with a new estimate at a fix that is still ahead. -/
def refreshFix (estimator : Estimator) (airport : Airport) (flight : Flight) (now : Instant) :
    Estimation Flight :=
  match flight.fix with
  | none => return flight
  | some fix =>
    if fix.isPassed then return flight
    else do
      let estimate ← estimator.fixEstimate airport.radarRangeNm fix.identifier fix.times.system
        flight.position now
      return { flight with fix := some { fix with times := { fix.times with estimate } } }

/-- The flight with both estimates derived anew; one that has landed keeps them. -/
def refresh (estimator : Estimator) (airport : Airport) (flight : Flight) (now : Instant) :
    Estimation Flight :=
  if flight.state = .landed then return flight
  else do
    let refreshed ← estimator.refreshFix airport flight now
    let estimate ← estimator.landingEstimate airport.identifier refreshed refreshed.landing.system
    return refreshed.updateLandingEstimate estimate

end Estimator

end ArrivalManager
