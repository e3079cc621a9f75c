import ArrivalManager.RunwayRanking
import ArrivalManager.Schedule.Conflict

/-! Scheduling passes: every flight that is not settled gets a runway and a landing time. -/

namespace ArrivalManager

/-- Where a scheduler gets the spacing of landings from. -/
structure Scheduler where
  rule : SeparationRule
  arrivals : ArrivalLookup

/-- The groups in which a pass handles flights, first to last. -/
inductive Priority where
  /-- Lands at its estimate, whatever else lands then. -/
  | noDelay
  /-- Lands when a controller said. -/
  | manualLandingTime
  | high
  | normal
deriving DecidableEq

/-- The place of a group in a pass. -/
def Priority.rank : Priority → Nat
  | .noDelay => 0
  | .manualLandingTime => 1
  | .high => 2
  | .normal => 3

namespace Flight

/-- The group a flight is handled in. -/
def priority (flight : Flight) : Priority :=
  if flight.noDelay then .noDelay
  else if flight.manualLandingTime then .manualLandingTime
  else if flight.highPriority then .high
  else .normal

/-- Pass order: by group, then by estimate, then by callsign. -/
def passOrder (left right : Flight) : Ordering :=
  (compare left.priority.rank right.priority.rank).then
    ((compare left.landing.estimate right.landing.estimate).then
      (compare left.callsign right.callsign))

end Flight

/-- A flight after its turn in a pass, with the reason if it could not be scheduled. -/
structure Handled where
  flight : Flight
  failure : Option Refusal

namespace Scheduler

/-- A flight on a runway, as the search for a landing time sees it. -/
def approach (scheduler : Scheduler) (airport : String) (flight : Flight) (mode : RunwayMode)
    (runway : String) : Approach :=
  { rule := scheduler.rule
    mode
    aircraft := flight.aircraft
    runway
    fix := flight.fixIdentifier
    interval := flight.fixIdentifier.bind fun fix =>
      scheduler.arrivals.arrivalInterval airport fix runway flight.aircraft }

/-- The landing time on one runway from `earliest` on. -/
def landingTimeOn (scheduler : Scheduler) (sequence : Sequence) (flight : Flight)
    (mode : RunwayMode) (earliest : Instant) (landings : List Landing) (runway : String) :
    Except Fault Instant := do
  let approach := scheduler.approach sequence.airport.identifier flight mode runway
  match ← approach.landingTime landings (sequence.blockoutsFor runway) earliest with
  | some time => return time
  | none =>
    throw (.refused
      (.unsatisfiableSchedule flight.callsign (.one runway) Approach.maxAttempts))

/-- The runways a flight may land on in a mode: the pinned one, or all by preference. -/
def candidates (flight : Flight) (mode : RunwayMode) : List String :=
  match flight.assignment with
  | some ⟨runway, true⟩ => [runway]
  | _ => (rankRunways mode.runways flight.aircraft flight.fixIdentifier).map (·.identifier)

/-- The earliest of the landing times on some runways, the first of several; every one must exist. -/
def earliestOn (scheduler : Scheduler) (sequence : Sequence) (flight : Flight)
    (mode : RunwayMode) (earliest : Instant) (landings : List Landing) :
    List String → Option (Instant × String) → Except Fault (Option (Instant × String))
  | [], best => .ok best
  | runway :: rest, best => do
    let time ← scheduler.landingTimeOn sequence flight mode earliest landings runway
    -- Only a strictly earlier time replaces the best one, so the first preference wins a tie.
    let better := best.all fun found => time < found.1
    scheduler.earliestOn sequence flight mode earliest landings rest
      (if better then some (time, runway) else best)

/-- The least delayed landing in a mode: the first preference among the earliest. -/
def bestRunway (scheduler : Scheduler) (sequence : Sequence) (flight : Flight)
    (mode : RunwayMode) (earliest : Instant) (landings : List Landing) :
    Except Fault (Instant × String) := do
  match ← scheduler.earliestOn sequence flight mode earliest landings (candidates flight mode) none
    with
  | some best => return best
  | none =>
    throw (.refused (.unsatisfiableSchedule flight.callsign (.anyOf mode.identifier) 0))

/--
The landing of a flight in the mode in effect at its estimate.

A landing that falls past the end of the current mode is looked for again in the next one.
-/
def resolve (scheduler : Scheduler) (sequence : Sequence) (flight : Flight)
    (landings : List Landing) : Except Fault (Instant × String) :=
  let estimate := flight.landing.estimate
  match sequence.modeChange with
  -- With no change ahead, the current mode is the only one.
  | none => scheduler.bestRunway sequence flight sequence.mode estimate landings
  | some change =>
    -- A flight that is expected under the next mode is only looked for there.
    if change.firstLanding ≤ estimate then
      scheduler.bestRunway sequence flight change.mode estimate landings
    else do
      let found ← scheduler.bestRunway sequence flight sequence.mode estimate landings
      -- The last landing time itself belongs to the current mode no more.
      if change.lastLanding ≤ found.1 then
        scheduler.bestRunway sequence flight change.mode (max estimate change.firstLanding) landings
      else return found

/-- A jet that lands after its estimate has to slow down. -/
def flowFor (flight : Flight) (time : Instant) : FlowControl :=
  if flight.aircraft.jet ∧ flight.landing.estimate < time then .reduceSpeed else .profileSpeed

/-- The runway of a flight that lands at its estimate: its own, or else the preferred one. -/
def runwayAtEstimate (sequence : Sequence) (flight : Flight) : Option String :=
  -- The runway of the flight counts even if no mode uses it.
  flight.runway.or <|
    (rankRunways (sequence.modeAt flight.landing.estimate).runways flight.aircraft
      flight.fixIdentifier).head?.map (·.identifier)

/-- Schedules a flight at its estimate; without any runway it stays as it is. -/
def scheduleWithoutDelay (sequence : Sequence) (flight : Flight) : Except Overflow Flight :=
  match runwayAtEstimate sequence flight with
  | none => .ok flight
  | some runway => do
    return { ← flight.schedule flight.landing.estimate runway with flow := .profileSpeed }

/-- Schedules a flight around the landings settled so far; it stays as it is if that fails. -/
def scheduleWithDelay (scheduler : Scheduler) (sequence : Sequence) (flight : Flight)
    (landings : List Landing) : Except Overflow Handled :=
  match scheduler.resolve sequence flight landings with
  | .error (.overflowed overflow) => .error overflow
  | .error (.refused refusal) => .ok ⟨flight, some refusal⟩
  | .ok (time, runway) => do
    return ⟨{ ← flight.schedule time runway with flow := flowFor flight time }, none⟩

/-- A flight's turn in a pass. -/
def handle (scheduler : Scheduler) (sequence : Sequence) (landings : List Landing)
    (flight : Flight) : Except Overflow Handled :=
  match flight.priority with
  | .noDelay => do return ⟨← scheduleWithoutDelay sequence flight, none⟩
  -- The landing stands, and the others are scheduled around it.
  | .manualLandingTime => .ok ⟨flight, none⟩
  | .high | .normal => scheduler.scheduleWithDelay sequence flight landings

/-- The turns of flights one after the other; each landing is settled for those that follow. -/
def handleAll (scheduler : Scheduler) (sequence : Sequence) :
    List Landing → List Flight → Except Overflow (List Handled)
  | _, [] => .ok []
  | landings, flight :: rest => do
    let handled ← scheduler.handle sequence landings flight
    let others ← scheduler.handleAll sequence
      (landings ++ handled.flight.landingOnRunway.toList) rest
    return handled :: others

/-- The landings that a pass leaves alone: those of flights from stable to landed. -/
def anchors (flights : List Flight) : List Landing :=
  (flights.filter (·.state.isAnchored)).filterMap (·.landingOnRunway)

/-- The flights a pass schedules, in pass order. -/
def waiting (flights : List Flight) : List Flight :=
  (flights.filter (·.state.isSchedulable)).mergeSort fun left right =>
    (left.passOrder right).isLE

/-- A new flight that had its turn is unstable. -/
def admitted (flight : Flight) : Flight :=
  if flight.state = .new then { flight with state := .unstable } else flight

/--
Schedules every new and unstable flight around the landings of the others.

A flight that can not be scheduled keeps its landing, and does not hold up the others; the first
such failure is the answer.
-/
def schedule (scheduler : Scheduler) (sequence : Sequence) :
    Except Overflow (Outcome Sequence Unit) := do
  -- Only anchors are settled at first; desequenced and removed flights are no concern of a pass.
  let handled ← scheduler.handleAll sequence (anchors sequence.flights) (waiting sequence.flights)
  let settled := sequence.flights.filter fun flight => ¬ flight.state.isSchedulable
  let after := { sequence with
    flights := sortFlights (settled ++ handled.map fun entry => admitted entry.flight) }
  return {
    answer := match handled.findSome? (·.failure) with
      | some refusal => .error refusal
      | none => .ok ()
    after }

end Scheduler

end ArrivalManager
