import ArrivalManager.Sequence
import ArrivalManager.Separation

/-! The search for the earliest landing time on one runway that keeps clear of everything else. -/

namespace ArrivalManager

/-- A landing that is settled, and that flights scheduled later keep clear of. -/
structure Landing where
  callsign : Callsign
  aircraft : Aircraft
  runway : String
  fix : Option String
  time : Instant
  positionIsFixed : Bool
deriving DecidableEq

/-- The landing of a flight, if it has a runway to land on. -/
def Flight.landingOnRunway (flight : Flight) : Option Landing :=
  flight.runway.map fun runway =>
    { callsign := flight.callsign
      aircraft := flight.aircraft
      runway
      fix := flight.fixIdentifier
      time := flight.landing.scheduled
      positionIsFixed := flight.state.positionIsFixed }

/-- One flight on one runway: what the spacing to other landings depends on. -/
structure Approach where
  rule : SeparationRule
  mode : RunwayMode
  aircraft : Aircraft
  runway : String
  fix : Option String
  /-- The least time between arrivals from the flight's fix to the runway. -/
  interval : Option Duration

namespace Approach

/-- A spacing raised to the arrival interval, which concerns flights with runway and fix in common. -/
def raised (approach : Approach) (other : Landing) (separation : Duration) : Duration :=
  match approach.interval with
  | some interval =>
    if other.runway = approach.runway ∧ other.fix = approach.fix then max separation interval
    else separation
  | none => separation

/-- The spacing the flight keeps behind another landing. -/
def spacingBehind (approach : Approach) (leader : Landing) : Option Duration :=
  (requiredSeparation approach.rule approach.mode leader.aircraft leader.runway
    approach.aircraft approach.runway).map (approach.raised leader)

/-- The spacing another landing keeps behind the flight. -/
def spacingAhead (approach : Approach) (trailer : Landing) : Option Duration :=
  (requiredSeparation approach.rule approach.mode approach.aircraft approach.runway
    trailer.aircraft trailer.runway).map (approach.raised trailer)

/-- The earliest time from `proposed` on at which the flight keeps its distance behind a leader. -/
def clearBehind (approach : Approach) (leader : Landing) (proposed : Instant) :
    Except Overflow Instant :=
  match approach.spacingBehind leader with
  | some spacing =>
    -- A negative spacing asks for nothing, but it must not lead back past the first instant.
    if leader.time ≤ proposed then do return max proposed (← leader.time.plus spacing)
    else .ok proposed
  | none => .ok proposed

/-- The earliest time from `proposed` on that lies behind every leader at its distance. -/
def clearBehindAll (approach : Approach) (proposed : Instant) :
    List Landing → Except Overflow Instant
  | [] => .ok proposed
  | leader :: rest => do
    let behindFirst ← approach.clearBehind leader proposed
    let behindRest ← approach.clearBehindAll proposed rest
    return max behindFirst behindRest

/-- Whether a landing is a trailer that a flight at the proposed time would come too close to. -/
def infringes (approach : Approach) (proposed : Instant) (trailer : Landing) : Bool :=
  proposed ≤ trailer.time
    && (approach.spacingAhead trailer).any fun spacing => trailer.time.since proposed < spacing

end Approach

/-- The landing with the earliest time, and the first of several. -/
def earliestLanding? : List Landing → Option Landing
  | [] => none
  | first :: rest =>
    match earliestLanding? rest with
    | some other => if other.time < first.time then some other else some first
    | none => some first

namespace Approach

/-- Gives way to the first trailer that the flight would come too close to, by going behind it. -/
def giveWay (approach : Approach) (landings : List Landing) (proposed : Instant) :
    Except Overflow Instant :=
  -- There is no way to squeeze in ahead: the flight goes behind the trailer it was too close to.
  match earliestLanding? (landings.filter (approach.infringes proposed)) with
  | some trailer => trailer.time.plus ((approach.spacingBehind trailer).getD .zero)
  | none => .ok proposed

end Approach

/-- The end of the first window that holds a time, or else the time itself. -/
def leaveBlockout (blockouts : List Blockout) (proposed : Instant) : Instant :=
  match blockouts.find? (·.contains proposed) with
  | some blockout => blockout.finish
  | none => proposed

namespace Approach

/-- One round of the search: behind the leaders, behind a trailer, and out of a window. -/
def advance (approach : Approach) (landings : List Landing) (blockouts : List Blockout)
    (proposed : Instant) : Except Overflow Instant := do
  let behindLeaders ← approach.clearBehindAll proposed landings
  let behindTrailer ← approach.giveWay landings behindLeaders
  return leaveBlockout blockouts behindTrailer

/-- Repeats rounds until one changes nothing; none if that takes more rounds than allowed. -/
def settle (approach : Approach) (landings : List Landing) (blockouts : List Blockout) :
    Nat → Instant → Except Overflow (Option Instant)
  | 0, _ => .ok none
  | rounds + 1, proposed => do
    let next ← approach.advance landings blockouts proposed
    -- A time that no part of a round moves on is clear of everything.
    if next = proposed then return some proposed
    else approach.settle landings blockouts rounds next

/-- Nothing overtakes a flight that is fixed in its position on the same runway. -/
def startingTime (approach : Approach) (landings : List Landing) (earliest : Instant) : Instant :=
  -- The search only moves on, so it is enough to start no earlier than the last fixed landing.
  ((landings.filter fun landing => landing.positionIsFixed && landing.runway = approach.runway).map
    (·.time)).foldl max earliest

/-- The rounds after which the search for a landing time is given up. -/
def maxAttempts : Nat := 100

/-- The landing time found from `earliest` on, if the search comes to an end. -/
def landingTime (approach : Approach) (landings : List Landing) (blockouts : List Blockout)
    (earliest : Instant) : Except Overflow (Option Instant) :=
  approach.settle landings blockouts maxAttempts (approach.startingTime landings earliest)

end Approach

end ArrivalManager
