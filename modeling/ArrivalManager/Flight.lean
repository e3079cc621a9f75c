import ArrivalManager.Aircraft
import ArrivalManager.Position
import ArrivalManager.Refusal

/-! A single arrival: everything known and everything decided about it, and how both may change. -/

namespace ArrivalManager

/-- The times kept for one point of a flight's path: the feeder fix, or the runway threshold. -/
structure PointTimes where
  /-- The latest estimate received from the flight data system, as it came. -/
  system : Instant
  /-- The estimate at the time the flight was first activated. -/
  initial : Instant
  /-- The current estimate. -/
  estimate : Instant
  /-- The time the sequence has set. -/
  scheduled : Instant
deriving DecidableEq

/-- Every time of a point whose estimate is its only known time. -/
def PointTimes.ofEstimate (estimate : Instant) : PointTimes :=
  ⟨estimate, estimate, estimate, estimate⟩

/-- The times of a point when the current estimate becomes the initial and the scheduled time. -/
def PointTimes.begin (times : PointTimes) : PointTimes :=
  { times with initial := times.estimate, scheduled := times.estimate }

/-- How a flight crossed its feeder fix. -/
inductive Crossing where
  /-- At a time that was observed. -/
  | observed (time : Instant)
  /-- Before it was tracked, at an unknown time. -/
  | untracked
deriving DecidableEq

/-- The fix through which a flight enters the terminal area. -/
structure FeederFix where
  identifier : String
  times : PointTimes
  crossing : Option Crossing
deriving DecidableEq

namespace FeederFix

/-- A fix still ahead, with one estimate for all its times. -/
def ahead (identifier : String) (estimate : Instant) : FeederFix :=
  ⟨identifier, .ofEstimate estimate, none⟩

/-- A flight is past its fix once a crossing of either kind is recorded. -/
def isPassed (fix : FeederFix) : Bool := fix.crossing.isSome

/-- The time of an observed crossing. -/
def actualTimeOver (fix : FeederFix) : Option Instant :=
  match fix.crossing with
  | some (.observed time) => some time
  | _ => none

end FeederFix

/-- The runway a flight lands on, and whether a controller chose it. -/
structure RunwayAssignment where
  runway : String
  pinned : Bool
deriving DecidableEq

/-- The speed restriction with which a flight absorbs its delay. -/
inductive FlowControl where
  | profileSpeed
  | reduceSpeed
deriving DecidableEq

/-- The name of a speed restriction. -/
def FlowControl.name : FlowControl → String
  | .profileSpeed => "ProfileSpeed"
  | .reduceSpeed => "ReduceSpeed"

/-- The time limits at which a flight is promoted from one state to the next. -/
structure Thresholds where
  /-- The time to the feeder fix at which an unstable flight becomes stable. -/
  stable : Duration
  /-- The time to landing at which a super-stable flight is frozen. -/
  frozen : Duration
  /-- The time for which a flight stays unstable at least. -/
  minimumUnstable : Duration
deriving DecidableEq

/-- Stable 25 minutes before the fix, frozen 15 minutes before landing, unstable for 3 minutes. -/
def Thresholds.standard : Thresholds := ⟨.ofMinutes 25, .ofMinutes 15, .ofSeconds 180⟩

/-- One arrival. -/
structure Flight where
  callsign : Callsign
  aircraft : Aircraft
  origin : Option String
  destination : String
  state : FlightState
  /-- The time of the latest activation, from which the minimum unstable time counts. -/
  activated : Option Instant
  fix : Option FeederFix
  landing : PointTimes
  assignment : Option RunwayAssignment
  /-- The arrival procedure. -/
  arrival : Option String
  highPriority : Bool
  noDelay : Bool
  /-- Set when a controller chose the landing time. -/
  manualLandingTime : Bool
  flow : FlowControl
  position : Option Position

namespace Flight

/-- A flight of which no more is known than where and when it will land. -/
def inbound (callsign : Callsign) (aircraft : Aircraft) (destination : String)
    (estimate : Instant) : Flight :=
  { callsign, aircraft, destination
    origin := none
    state := .new
    activated := none
    fix := none
    landing := .ofEstimate estimate
    assignment := none
    arrival := none
    highPriority := false
    noDelay := false
    manualLandingTime := false
    flow := .profileSpeed
    position := none }

/-- The runway the flight lands on, if one is assigned. -/
def runway (flight : Flight) : Option String := flight.assignment.map (·.runway)

/-- Whether a controller chose the runway. -/
def runwayPinned (flight : Flight) : Bool := flight.assignment.any (·.pinned)

/-- The name of the feeder fix, if the flight has one. -/
def fixIdentifier (flight : Flight) : Option String := flight.fix.map (·.identifier)

/-- Whether the flight has a feeder fix and is past it. -/
def hasPassedFix (flight : Flight) : Bool := flight.fix.any (·.isPassed)

/-- The delay against the estimate at the first activation. -/
def totalDelay (flight : Flight) : Duration := flight.landing.scheduled.since flight.landing.initial

/-- The delay the flight still has to absorb. -/
def remainingDelay (flight : Flight) : Duration :=
  flight.landing.scheduled.since flight.landing.estimate

/--
Begins a new unstable period.

Only the first activation takes the current estimates over as the initial and scheduled times.
-/
def activate (flight : Flight) (now : Instant) : Flight :=
  let begun :=
    if flight.activated.isNone then
      { flight with
        landing := flight.landing.begin
        fix := flight.fix.map fun fix => { fix with times := fix.times.begin } }
    else flight
  { begun with activated := some now }

/--
Moves the flight forward in the chain of states, or out of it.

Nothing leaves `removed`, and only `resume` leads back from `desequenced` into the chain.
-/
def setState (flight : Flight) (target : FlightState) : Except Refusal Flight :=
  if flight.state = .removed then .error (.flightRemoved flight.callsign)
  else
    let forward := flight.state.isSequenced ∧ flight.state ≤ target
    if ¬ forward ∧ target.isSequenced then
      .error (.invalidStateTransition flight.callsign flight.state target)
    else .ok { flight with state := target }

/-- Puts a desequenced flight back into the chain, at the start of a new unstable period. -/
def resume (flight : Flight) (now : Instant) : Except Refusal Flight :=
  match flight.state with
  | .removed => .error (.flightRemoved flight.callsign)
  | .desequenced => .ok (activate { flight with state := .unstable } now)
  | state => .error (.invalidStateTransition flight.callsign state .unstable)

/-- The estimate that tells how far the flight is from the terminal area. -/
def entryEstimate (flight : Flight) : Instant :=
  match flight.fix with
  | some fix => fix.times.estimate
  | none => flight.landing.estimate

/--
Whether the time has come to leave a state for the next one.

A flight without a feeder fix measures the conditions on the fix against its landing estimate.
-/
def isPromotionDue (flight : Flight) (now : Instant) (thresholds : Thresholds) :
    FlightState → Bool
  | .unstable =>
    flight.entryEstimate.since now ≤ thresholds.stable
      && flight.activated.any fun activated => thresholds.minimumUnstable < now.since activated
  | .stable =>
    match flight.fix with
    | some fix => fix.times.initial ≤ now
    | none => flight.landing.estimate.since now ≤ thresholds.stable
  | .superStable => flight.landing.estimate.since now ≤ thresholds.frozen
  | .frozen => flight.landing.scheduled ≤ now
  | _ => false

/--
The state reached from a state by every promotion that is due.

A flight that satisfies several conditions at once goes through all of them.
-/
def promotedState (due : FlightState → Bool) : FlightState → FlightState
  | .unstable =>
    if due .unstable then
      if due .stable then
        if due .superStable then if due .frozen then .landed else .frozen
        else .superStable
      else .stable
    else .unstable
  | .stable =>
    if due .stable then
      if due .superStable then if due .frozen then .landed else .frozen
      else .superStable
    else .stable
  | .superStable =>
    if due .superStable then if due .frozen then .landed else .frozen
    else .superStable
  | .frozen => if due .frozen then .landed else .frozen
  | state => state

/-- The flight in the state that the time has brought it to. -/
def promote (flight : Flight) (now : Instant) (thresholds : Thresholds) : Flight :=
  { flight with state := promotedState (flight.isPromotionDue now thresholds) flight.state }

/-- Takes over the latest estimates of the flight data system. -/
def setSystemEstimates (flight : Flight) (entry : Option Instant) (landing : Instant) : Flight :=
  { flight with
    landing := { flight.landing with system := landing }
    fix := flight.fix.map fun fix =>
      { fix with times := { fix.times with system := entry.getD fix.times.system } } }

/-- Changes the feeder fix, which is locked once it is passed; without a fix nothing happens. -/
def updateFix (flight : Flight) (change : FeederFix → FeederFix) : Except Refusal Flight :=
  match flight.fix with
  | none => .ok flight
  | some fix =>
    if fix.isPassed then .error (.feederFixPassed flight.callsign)
    else .ok { flight with fix := some (change fix) }

/-- Sets the current estimate at the feeder fix. -/
def updateFixEstimate (flight : Flight) (estimate : Instant) : Except Refusal Flight :=
  flight.updateFix fun fix => { fix with times := { fix.times with estimate } }

/-- Sets the scheduled time at the feeder fix. -/
def scheduleFix (flight : Flight) (time : Instant) : Except Refusal Flight :=
  flight.updateFix fun fix => { fix with times := { fix.times with scheduled := time } }

/-- Records how the feeder fix was crossed. -/
def recordCrossing (flight : Flight) (crossing : Crossing) : Except Refusal Flight :=
  flight.updateFix fun fix => { fix with crossing := some crossing }

/-- Sets the current estimate of the landing. -/
def updateLandingEstimate (flight : Flight) (estimate : Instant) : Flight :=
  { flight with landing := { flight.landing with estimate } }

/-- Sets the landing time; a fix still ahead is scheduled with the same delay. -/
def commitLandingTime (flight : Flight) (time : Instant) : Except Overflow Flight :=
  let committed := { flight with landing := { flight.landing with scheduled := time } }
  match flight.fix with
  | none => .ok committed
  | some fix =>
    if fix.isPassed then .ok committed
    else do
      let scheduled ← fix.times.estimate.plus committed.remainingDelay
      return { committed with fix := some { fix with times := { fix.times with scheduled } } }

/-- Assigns a runway, and records whether a controller chose it. -/
def assignRunway (flight : Flight) (runway : String) (pinned : Bool) : Flight :=
  { flight with assignment := some ⟨runway, pinned⟩ }

/-- Sets landing time and runway; a choice of the controller stays marked as such. -/
def schedule (flight : Flight) (time : Instant) (runway : String) : Except Overflow Flight :=
  (flight.assignRunway runway flight.runwayPinned).commitLandingTime time

/-- Leaves the choice of the runway to the scheduler again. -/
def releaseRunway (flight : Flight) : Flight :=
  { flight with assignment := flight.assignment.map fun assignment =>
      { assignment with pinned := false } }

/-- Sets a landing time that scheduling passes keep. -/
def pinLandingTime (flight : Flight) (time : Instant) : Except Overflow Flight :=
  commitLandingTime { flight with manualLandingTime := true } time

/-- Leaves the choice of the landing time to the scheduler again. -/
def releaseLandingTime (flight : Flight) : Flight := { flight with manualLandingTime := false }

/-- Sequence order: by scheduled landing time, then the more committed first, then by callsign. -/
def sequenceOrder (left right : Flight) : Ordering :=
  (compare left.landing.scheduled right.landing.scheduled).then
    ((compare right.state left.state).then (compare left.callsign right.callsign))

end Flight

end ArrivalManager
