import ArrivalManager.Service

/-!
What a recomputation leaves behind when the clock overflows in the middle of it: all that was done
before stays done.
-/

namespace ArrivalManager

/-- A flight whose refresh overflows: a new estimate at the fix may have been taken over already. -/
def Estimator.interrupted (estimator : Estimator) (airport : Airport) (flight : Flight)
    (now : Instant) : Flight :=
  match (estimator.refreshFix airport flight now).run.result with
  | .ok located => located
  | .error _ => flight

/-- A flight whose fix can not be scheduled along with its landing, which is set already. -/
def Flight.interrupted (flight : Flight) (time : Instant) (runway : String) : Flight :=
  let assigned := flight.assignRunway runway flight.runwayPinned
  { assigned with landing := { assigned.landing with scheduled := time } }

namespace Scheduler

/-- The landing that a flight gets in its turn, if the search for one comes to an end. -/
def intendedLanding (scheduler : Scheduler) (sequence : Sequence) (landings : List Landing)
    (flight : Flight) : Option (Instant × String) :=
  match flight.priority with
  | .noDelay => (runwayAtEstimate sequence flight).map (flight.landing.estimate, ·)
  | .manualLandingTime => none
  | .high | .normal => (scheduler.resolve sequence flight landings).toOption

/-- Flights after their turns in a pass, up to and with the one whose turn overflows. -/
def handledUntilOverflow (scheduler : Scheduler) (sequence : Sequence) :
    List Landing → List Flight → List Flight
  | _, [] => []
  | landings, flight :: rest =>
    match scheduler.handle sequence landings flight with
    | .ok handled =>
      handled.flight :: scheduler.handledUntilOverflow sequence
        (landings ++ handled.flight.landingOnRunway.toList) rest
    | .error _ =>
      match scheduler.intendedLanding sequence landings flight with
      | some (time, runway) => [flight.interrupted time runway]
      | none => []

/-- A sequence whose pass overflows: flights that had their turns keep their landings. -/
def interrupted (scheduler : Scheduler) (sequence : Sequence) : Sequence :=
  let handled := scheduler.handledUntilOverflow sequence (anchors sequence.flights)
    (waiting sequence.flights)
  { sequence with flights := handled.foldl replaceFlight sequence.flights }

end Scheduler

namespace Service

/-- Tracked flights, brought up to a time as far as the first one whose refresh overflows. -/
def progressedUntilOverflow (service : Service) (airport : Airport) (now : Instant) :
    List Flight → List Flight
  | [] => []
  | flight :: rest =>
    match (service.estimator.refresh airport flight now).run.result with
    | .ok refreshed =>
      refreshed.promote now service.settings.thresholds
        :: service.progressedUntilOverflow airport now rest
    | .error _ => service.estimator.interrupted airport flight now :: rest

/-- A sequence of which old entries are dropped before the age of a retirement overflows. -/
def retainedUntilOverflow (service : Service) (now : Instant) (sequence : Sequence) : Sequence :=
  match now.minus service.settings.landedRetention with
  | .error _ => sequence
  | .ok landed => (((sequence.purgeLanded landed).2).expirePending landed).2

/-- A sequence whose recomputation overflows: the steps that came to an end have their effect. -/
def interrupted (service : Service) (now : Instant) (sequence : Sequence) : Sequence :=
  match (service.passTime now sequence).run.result with
  | .error _ => { sequence with
      flights := service.progressedUntilOverflow sequence.airport now sequence.flights }
  | .ok passed =>
    match service.scheduler.schedule passed with
    | .error _ => service.scheduler.interrupted passed
    | .ok scheduled => service.retainedUntilOverflow now scheduled.after

/-- The registry with the sequence of an airport as an overflowing recomputation leaves it. -/
def interruptedAt (service : Service) (registry : Registry) (airport : String) (now : Instant) :
    Registry :=
  match registry.sequence? airport with
  | none => registry
  | some sequence => registry.replace (service.interrupted now sequence)

end Service

end ArrivalManager
