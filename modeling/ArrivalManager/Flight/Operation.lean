import ArrivalManager.Flight

/-! The operations on a single flight as data, so that whole runs of them can be carried out. -/

namespace ArrivalManager.Flight

/-- A flight that operations made ready, unless one of them overflowed. -/
abbrev Prepared := Except Overflow Flight

/-- One operation on a flight. -/
inductive Operation where
  | activate (now : Instant)
  | setState (target : FlightState)
  | resume (now : Instant)
  | promote (now : Instant) (thresholds : Thresholds)
  | setSystemEstimates (entry : Option Instant) (landing : Instant)
  | updateFixEstimate (estimate : Instant)
  | scheduleFix (time : Instant)
  | recordCrossing (crossing : Crossing)
  | updateLandingEstimate (estimate : Instant)
  | schedule (time : Instant) (runway : String)
  | assignRunway (runway : String) (pinned : Bool)
  | releaseRunway
  | setArrival (arrival : Option String)
  | setHighPriority (value : Bool)
  | setNoDelay (value : Bool)
  | pinLandingTime (time : Instant)
  | releaseLandingTime
  | setFlow (flow : FlowControl)
  | updatePosition (position : Position)
  /-- Only looks: how the flight is ordered against another one, once that is ready. -/
  | order (other : Prepared)

/-- What an operation on a flight answers when it is not refused. -/
inductive Answer where
  | done
  /-- The new state, if promotion changed it. -/
  | promoted (state : Option FlightState)
  | ordered (ordering : Ordering)
deriving DecidableEq

/-- An operation that cannot fail and answers nothing. -/
def succeed (flight : Flight) : Except Fault (Answer × Flight) := .ok (.done, flight)

/-- An operation that may be refused and answers nothing. -/
def attempt (result : Except Refusal Flight) : Except Fault (Answer × Flight) := do
  return (.done, ← result)

/-- An operation that may overflow and answers nothing. -/
def onClock (result : Except Overflow Flight) : Except Fault (Answer × Flight) := do
  return (.done, ← result)

/-- The answer of an operation and the flight after it. -/
def answer (flight : Flight) : Operation → Except Fault (Answer × Flight)
  | .activate now => succeed (flight.activate now)
  | .setState target => attempt (flight.setState target)
  | .resume now => attempt (flight.resume now)
  | .promote now thresholds =>
    let promoted := flight.promote now thresholds
    let changed := if promoted.state = flight.state then none else some promoted.state
    .ok (.promoted changed, promoted)
  | .setSystemEstimates entry landing => succeed (flight.setSystemEstimates entry landing)
  | .updateFixEstimate estimate => attempt (flight.updateFixEstimate estimate)
  | .scheduleFix time => attempt (flight.scheduleFix time)
  | .recordCrossing crossing => attempt (flight.recordCrossing crossing)
  | .updateLandingEstimate estimate => succeed (flight.updateLandingEstimate estimate)
  | .schedule time runway => onClock (flight.schedule time runway)
  | .assignRunway runway pinned => succeed (flight.assignRunway runway pinned)
  | .releaseRunway => succeed flight.releaseRunway
  | .setArrival arrival => succeed { flight with arrival }
  | .setHighPriority value => succeed { flight with highPriority := value }
  | .setNoDelay value => succeed { flight with noDelay := value }
  | .pinLandingTime time => onClock (flight.pinLandingTime time)
  | .releaseLandingTime => succeed flight.releaseLandingTime
  | .setFlow flow => succeed { flight with flow }
  | .updatePosition position => succeed { flight with position := some position }
  | .order other => do return (.ordered (flight.sequenceOrder (← other)), flight)

/-- Carries out one operation; a refused one leaves the flight as it was. -/
def perform (flight : Flight) (operation : Operation) :
    Except Overflow (Outcome Flight Answer) :=
  Outcome.ofFaulty flight (flight.answer operation)

/-- Carries out operations one after the other, whatever becomes of each. -/
def performAll (flight : Flight) : List Operation →
    Except Overflow (List (Except Refusal Answer) × Flight)
  | [] => .ok ([], flight)
  | operation :: rest => do
    let outcome ← flight.perform operation
    let (answers, last) ← outcome.after.performAll rest
    return (outcome.answer :: answers, last)

/-- Makes a flight ready by operations, whatever each of them answers. -/
def prepare (flight : Flight) (operations : List Operation) : Prepared := do
  return (← flight.performAll operations).2

end ArrivalManager.Flight
