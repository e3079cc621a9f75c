import ArrivalManager.Estimate
import ArrivalManager.Schedule
import ArrivalManager.Sequence.Operation
import ArrivalManager.Settings

/-! The sequencing service: sequences of several airports, and the facilities that they share. -/

namespace ArrivalManager

/-- What a flight data update tells about the feeder fix. -/
structure FixUpdate where
  identifier : String
  system : Instant
  /-- The time of the crossing, once it was observed. -/
  actualTimeOver : Option Instant
deriving DecidableEq

/-- The latest flight data and surveillance of one flight. -/
structure FlightUpdate where
  callsign : Callsign
  typeCode : String
  origin : Option String
  destination : String
  fix : Option FixUpdate
  /-- The system estimate of the landing. -/
  landing : Instant
  arrival : Option String
  runway : Option String
  position : Option Position

/-- The facilities that serve every airport. -/
structure Service where
  rule : SeparationRule
  performance : PerformanceLookup
  fixes : FixLookup
  arrivals : ArrivalLookup
  settings : Settings

/-- The sequences under management, and the counts that run through all of them. -/
structure Registry where
  /-- One sequence per airport, ordered by airport. -/
  sequences : List Sequence
  misses : Misses
  /-- The number that the next slot gets. -/
  nextSlot : SlotId

namespace Registry

/-- Nothing under management yet. -/
def empty : Registry := ⟨[], .none, ⟨0⟩⟩

/-- The airports under management, in order. -/
def airports (registry : Registry) : List String := registry.sequences.map (·.airport.identifier)

/-- The sequence of an airport. -/
def sequence? (registry : Registry) (airport : String) : Option Sequence :=
  registry.sequences.find? (·.airport.identifier = airport)

/-- Sequences with one more, placed by its airport. -/
def insertOrdered (sequence : Sequence) : List Sequence → List Sequence
  | [] => [sequence]
  | first :: rest =>
    if sequence.airport.identifier < first.airport.identifier then sequence :: first :: rest
    else first :: insertOrdered sequence rest

/-- Takes an airport under management, with an empty sequence. -/
def create (registry : Registry) (airport : Airport) : Except Refusal Registry := do
  let sequence ← Sequence.ofAirport airport
  if (registry.sequence? airport.identifier).isSome then
    throw (.duplicateAirport airport.identifier)
  else return { registry with sequences := insertOrdered sequence registry.sequences }

/-- Gives up the management of an airport. -/
def remove (registry : Registry) (airport : String) : Except Refusal Registry :=
  if (registry.sequence? airport).isSome then
    .ok { registry with
      sequences := registry.sequences.filter (·.airport.identifier ≠ airport) }
  else .error (.unknownAirport airport)

/-- The registry with a sequence in the place of the one of the same airport. -/
def replace (registry : Registry) (sequence : Sequence) : Registry :=
  { registry with sequences := registry.sequences.map fun other =>
      if other.airport.identifier = sequence.airport.identifier then sequence else other }

/-- Takes airports under management in turn, with the result for each. -/
def createAll (registry : Registry) : List Airport → List (Except Refusal Unit) × Registry
  | [] => ([], registry)
  | airport :: rest =>
    let result := registry.create airport
    let (others, last) := createAll (result.toOption.getD registry) rest
    (result.map (fun _ => ()) :: others, last)

/-- Carries out operations on a tracked flight of an airport, without scheduling or publishing. -/
def onFlight (registry : Registry) (airport : String) (callsign : Callsign)
    (operations : List Flight.Operation) :
    Except Overflow (Except Refusal (List (Except Refusal Flight.Answer)) × Registry) :=
  match registry.sequence? airport with
  | none => .ok (.error (.unknownAirport airport), registry)
  | some sequence => do
    match ← Sequence.performOn sequence.flights callsign operations with
    | none => return (.error (.flightNotFound callsign), registry)
    | some (answers, flights) => return (.ok answers, registry.replace { sequence with flights })

/-- What is published of an airport's sequence at a time. -/
def snapshot (registry : Registry) (airport : String) (now : Instant) : Except Refusal Snapshot :=
  match registry.sequence? airport with
  | some sequence => .ok (sequence.snapshot now)
  | none => .error (.unknownAirport airport)

end Registry

/-- A change of a sequence, with the misses on the way, that may be refused. -/
abbrev Change (α : Type) := Sequence → Estimation (Outcome Sequence α)

namespace Change

/-- A change that is carried out in full or not at all. -/
def ofExcept {α : Type} (change : Sequence → Except Refusal (α × Sequence)) : Change α :=
  fun sequence => return Outcome.ofExcept sequence (change sequence)

/-- A change to one tracked flight. -/
def ofFlight (callsign : Callsign) (change : Flight → Except Overflow Flight) : Change Unit :=
  fun sequence =>
    match sequence.flight? callsign with
    | none => return ⟨.error (.flightNotFound callsign), sequence⟩
    | some flight => do
      let changed ← change flight
      return ⟨.ok (), { sequence with flights := replaceFlight sequence.flights changed }⟩

end Change

namespace FlightUpdate

/--
The flight with the data of an update taken over.

A runway in the data counts only until one is assigned, and a crossing only once.
-/
def applyTo (update : FlightUpdate) (flight : Flight) : Flight :=
  let estimated := flight.setSystemEstimates (update.fix.map (·.system)) update.landing
  let located := { estimated with
    position := update.position.or estimated.position
    arrival := update.arrival.or estimated.arrival
    assignment := estimated.assignment.or (update.runway.map (⟨·, false⟩)) }
  -- A crossing that was recorded or inferred before is not overwritten.
  match update.fix.bind (·.actualTimeOver) with
  | none => located
  | some time =>
    { located with fix := located.fix.map fun fix =>
        if fix.isPassed then fix else { fix with crossing := some (.observed time) } }

end FlightUpdate

namespace Service

/-- The scheduler of the service. -/
def scheduler (service : Service) : Scheduler := ⟨service.rule, service.arrivals⟩

/-- The source of estimates of the service. -/
def estimator (service : Service) : Estimator := ⟨service.fixes, service.arrivals⟩

/-- The flight that an update tells about when it is not known yet. -/
def reportedFlight (service : Service) (update : FlightUpdate) : Flight :=
  { Flight.inbound update.callsign (service.performance.aircraft update.typeCode)
      update.destination update.landing with
    origin := update.origin
    fix := update.fix.map fun fix => FeederFix.ahead fix.identifier fix.system }

/--
Whether a flight is close enough to its feeder fix to be tracked.

A flight with a fix waits for its position; one without, or with a fix in an unknown place, does not
have to come closer.
-/
def inRange (service : Service) (flight : Flight) : Counted Bool :=
  match flight.fix, flight.position with
  | none, _ => return true
  | some _, none => return false
  | some fix, some position => do
    match ← service.estimator.distanceToFix fix.identifier position with
    | some distance => return distance <= service.settings.creationRangeNm
    | none => return true

/-- Whether a flight is past its feeder fix by its estimate although no crossing was recorded. -/
def missedCrossing (flight : Flight) (now : Instant) : Bool :=
  flight.fix.any fun fix => ¬ fix.isPassed ∧ fix.times.estimate < now

/-- A flight in range, past its fix if it should be by now, at the start of its unstable period. -/
def activated (service : Service) (airport : Airport) (flight : Flight) (now : Instant) :
    Estimation Flight := do
  let located ←
    if missedCrossing flight now then
      service.estimator.refresh airport
        { flight with fix := flight.fix.map fun fix =>
            { fix with crossing := some .untracked } } now
    else pure flight
  return located.activate now

/-- Begins to track a reported flight in range, and holds any other one as pending. -/
def trackOrHold (service : Service) (update : FlightUpdate) (now : Instant) : Change Unit :=
  fun sequence => do
    let reported := update.applyTo (service.reportedFlight update)
    let flight ← service.estimator.refresh sequence.airport reported now
    if ← (service.inRange flight : Counted _) then
      let flight ← service.activated sequence.airport flight now
      return (Outcome.ofExcept sequence (sequence.addFlight flight)).map fun _ => ()
    else
      return Outcome.ofExcept sequence do return ((), ← sequence.upsertPending flight)

/-- The flight with the data of an update and the estimates that follow from them. -/
def refreshed (service : Service) (airport : Airport) (update : FlightUpdate) (flight : Flight)
    (now : Instant) : Estimation Flight :=
  service.estimator.refresh airport (update.applyTo flight) now

/-- The sequence with a tracked flight moved to the position of its estimate. -/
def repositioned (sequence : Sequence) (callsign : Callsign) : Sequence :=
  match sequence.reposition callsign false with
  | .ok (_, moved) => moved
  | .error _ => sequence

/--
Takes over the latest data of a flight.

A tracked flight also moves in the sequence unless its position is fixed, a desequenced one stays
where it is, and an unknown one is tracked or held.
-/
def updateFlight (service : Service) (update : FlightUpdate) (now : Instant) : Change Unit :=
  fun sequence =>
    let airport := sequence.airport
    if update.destination ≠ airport.identifier then
      return ⟨.error (.wrongDestination update.callsign update.destination airport.identifier),
        sequence⟩
    else if sequence.isRetired update.callsign then
      return ⟨.error (.flightRetired update.callsign), sequence⟩
    else
      -- The tracked flights are searched first, then the desequenced ones.
      match sequence.flight? update.callsign with
      | some flight => do
        let flight ← service.refreshed airport update flight now
        let after := { sequence with flights := replaceFlight sequence.flights flight }
        return ⟨.ok (),
          if flight.state.positionIsFixed then after else repositioned after update.callsign⟩
      | none =>
        match findFlight sequence.desequenced update.callsign with
        | some flight => do
          let flight ← service.refreshed airport update flight now
          return ⟨.ok (), { sequence with
            desequenced := replaceFlight sequence.desequenced flight }⟩
        | none => service.trackOrHold update now sequence

/-- The landing estimate of a flight that is known by nothing but its place in the sequence. -/
def insertedEstimate (sequence : Sequence) : InsertPosition → Except Refusal Instant
  | .at time => .ok time
  | .before target | .after target =>
    match sequence.flight? target with
    | some flight => .ok flight.landing.scheduled
    | none => .error (.flightNotFound target)

/-- The flight to insert: the pending one, or a new one of a given type. -/
def insertedFlight (service : Service) (sequence : Sequence) (callsign : Callsign)
    (typeCode : Option String) (position : InsertPosition) : Except Refusal Flight :=
  match findFlight sequence.pending callsign, typeCode with
  | some flight, _ => .ok flight
  | none, some typeCode => do
    let estimate ← insertedEstimate sequence position
    return Flight.inbound callsign (service.performance.aircraft typeCode)
      sequence.airport.identifier estimate
  | none, none => .error (.flightNotFound callsign)

/-- Inserts a flight at the request of a controller. -/
def insertFlight (service : Service) (callsign : Callsign) (typeCode : Option String)
    (position : InsertPosition) (now : Instant) : Change Unit :=
  fun sequence =>
    match service.insertedFlight sequence callsign typeCode position with
    | .error refusal => return ⟨.error refusal, sequence⟩
    | .ok flight => do return ← sequence.insertFlight (flight.activate now) position

/-- The mode of this name, if the airport has one. -/
def configuredMode (sequence : Sequence) (mode : String) : Except Refusal RunwayMode :=
  match sequence.airport.mode mode with
  | some configured => .ok configured
  | none =>
    .error (.invalidRunwayModeChange mode (.notConfigured sequence.airport.identifier))

/-- Tracked flights with estimates and states brought up to a time. -/
def progressed (service : Service) (airport : Airport) (now : Instant) :
    List Flight → Estimation (List Flight)
  | [] => return []
  | flight :: rest => do
    let refreshed ← service.estimator.refresh airport flight now
    let others ← service.progressed airport now rest
    return refreshed.promote now service.settings.thresholds :: others

/-- The sequence with every flight that is not fixed moved to the position of its estimate. -/
def reordered (sequence : Sequence) : Sequence :=
  ((sequence.flights.filter fun flight => ¬ flight.state.positionIsFixed).map
    (·.callsign)).foldl repositioned sequence

/-- Drops what is out of date: landed flights, overdue pending flights and old retirements. -/
def retain (service : Service) (sequence : Sequence) (now : Instant) :
    Except Overflow Sequence := do
  let landed ← now.minus service.settings.landedRetention
  let (_, purged) := sequence.purgeLanded landed
  let (_, expired) := purged.expirePending landed
  let retired ← now.minus service.settings.retiredRetention
  return (expired.forgetRetired retired).2

/-- Accounts for the passage of time up to the next scheduling pass. -/
def passTime (service : Service) (now : Instant) (sequence : Sequence) :
    Estimation Sequence := do
  let flights ← service.progressed sequence.airport now sequence.flights
  -- States are promoted before the modes are swapped, and the new order comes last.
  let (_, swapped) := { sequence with flights }.trySwapModes now
  return reordered swapped

end Service

end ArrivalManager
