import ArrivalManager.Airport
import ArrivalManager.Flight

/-! The arrival sequence of one airport: its flights, slots and runway modes. -/

namespace ArrivalManager

/-- A callsign that is no longer sequenced, with the time of its landing. -/
structure RetiredFlight where
  callsign : Callsign
  landing : Instant
deriving DecidableEq

/-- Where a controller inserts a flight. -/
inductive InsertPosition where
  /-- One landing interval ahead of another flight, on its runway. -/
  | before (target : Callsign)
  /-- One landing interval behind another flight, on its runway. -/
  | after (target : Callsign)
  /-- At a landing time of its own. -/
  | at (time : Instant)
deriving DecidableEq

/--
The arrival sequence of one airport.

A flight is tracked, desequenced or pending. Tracked flights stand in sequence order after every
scheduling pass; between passes their order follows the estimates.
-/
structure Sequence where
  airport : Airport
  /-- The tracked flights. -/
  flights : List Flight
  /-- Flights that are known but too far away to be tracked. -/
  pending : List Flight
  /-- Flights that a controller took out for the time being. -/
  desequenced : List Flight
  /-- Flights that landed or were removed; updates for them are refused. -/
  retired : List RetiredFlight
  slots : List Slot
  mode : RunwayMode
  modeChange : Option ModeChange

/-- The tracked part of a sequence as it is published. -/
structure Snapshot where
  airport : String
  time : Instant
  flights : List Flight
  desequenced : List Flight
  slots : List Slot
  mode : String
  nextMode : Option String

/-- The flight of this name in a list. -/
def findFlight (flights : List Flight) (callsign : Callsign) : Option Flight :=
  flights.find? (·.callsign = callsign)

/-- A list of flights with the first one of this name taken out. -/
def eraseFlight (flights : List Flight) (callsign : Callsign) : List Flight :=
  flights.eraseP (·.callsign = callsign)

/-- A list of flights with the first one of the same name replaced by the given flight. -/
def replaceFlight (flights : List Flight) (flight : Flight) : List Flight :=
  match flights with
  | [] => []
  | first :: rest =>
    if first.callsign = flight.callsign then flight :: rest
    else first :: replaceFlight rest flight

/-- A list of slots with the first one of the same number replaced by the given slot. -/
def replaceSlot (slots : List Slot) (slot : Slot) : List Slot :=
  match slots with
  | [] => []
  | first :: rest =>
    if first.id = slot.id then slot :: rest
    else first :: replaceSlot rest slot

/-- Whether two flights compete for a runway; one without a runway competes for all of them. -/
def sharesRunway (left right : Flight) : Bool :=
  match left.runway, right.runway with
  | some left, some right => left = right
  | _, _ => true

/-- The position just behind the last element with a property; the front if there is none. -/
def endOfLast {α : Type} (property : α → Bool) (list : List α) : Nat :=
  list.length - list.reverse.findIdx property

/--
The first position a flight may take among others.

Unless it may displace them, the flight stays behind every flight that is fixed in its position
and shares its runway.
-/
def earliestPosition (displace : Bool) (flight : Flight) (others : List Flight) : Nat :=
  if displace then 0
  else endOfLast (fun other => other.state.positionIsFixed && sharesRunway flight other) others

/-- The position of a flight among others: ahead of the first one that is not expected earlier. -/
def positionByEstimate (displace : Bool) (flight : Flight) (others : List Flight) : Nat :=
  -- Only the flights behind the bound are compared by their estimates.
  let earliest := earliestPosition displace flight others
  earliest + (others.drop earliest).findIdx fun other =>
    flight.landing.estimate ≤ other.landing.estimate

/-- Flights in sequence order. -/
def sortFlights (flights : List Flight) : List Flight :=
  flights.mergeSort fun left right => (left.sequenceOrder right).isLE

namespace Sequence

/-- The empty sequence of an airport, in the first of its modes. -/
def ofAirport (airport : Airport) : Except Refusal Sequence :=
  match airport.modes with
  | [] => .error (.invalidRunwayModeChange airport.identifier .noModes)
  | mode :: _ =>
    .ok {
      airport, mode
      flights := []
      pending := []
      desequenced := []
      retired := []
      slots := []
      modeChange := none }

/-- The tracked flight of this name. -/
def flight? (sequence : Sequence) (callsign : Callsign) : Option Flight :=
  findFlight sequence.flights callsign

/-- Whether a flight is tracked or desequenced. -/
def isTracked (sequence : Sequence) (callsign : Callsign) : Bool :=
  (sequence.flights ++ sequence.desequenced).any (·.callsign = callsign)

/-- Whether a flight landed or was removed. -/
def isRetired (sequence : Sequence) (callsign : Callsign) : Bool :=
  sequence.retired.any (·.callsign = callsign)

/-- A new flight is bound for the airport and neither tracked nor retired. -/
def checkNew (sequence : Sequence) (flight : Flight) : Except Refusal Unit :=
  if flight.destination ≠ sequence.airport.identifier then
    .error (.wrongDestination flight.callsign flight.destination sequence.airport.identifier)
  else if sequence.isTracked flight.callsign then .error (.duplicateCallsign flight.callsign)
  else if sequence.isRetired flight.callsign then .error (.flightRetired flight.callsign)
  else .ok ()

/-- The tracked flights in sequence order. -/
def sort (sequence : Sequence) : Sequence :=
  { sequence with flights := sortFlights sequence.flights }

/--
Moves a tracked flight to the position of its estimate and answers that position.

Unless it may displace them, it stays behind the flights that bound it.
-/
def reposition (sequence : Sequence) (callsign : Callsign) (displace : Bool) :
    Except Refusal (Nat × Sequence) :=
  match sequence.flight? callsign with
  | none => .error (.flightNotFound callsign)
  | some flight =>
    let others := eraseFlight sequence.flights callsign
    let position := positionByEstimate displace flight others
    .ok (position, { sequence with flights := others.insertIdx position flight })

/-- The sequence with a flight no longer pending. -/
def dropPending (sequence : Sequence) (callsign : Callsign) : Sequence :=
  { sequence with pending := sequence.pending.filter (·.callsign ≠ callsign) }

/-- Begins to track a flight at the position of its estimate, and answers that position. -/
def addFlight (sequence : Sequence) (flight : Flight) : Except Refusal (Nat × Sequence) := do
  sequence.checkNew flight
  let waiting := sequence.dropPending flight.callsign
  -- Where the flight is put first does not matter, as it is taken out again to be moved.
  reposition { waiting with flights := waiting.flights ++ [flight] } flight.callsign false

/-- The time that passes between a tracked flight and its neighbours on the same runway. -/
def landingInterval (sequence : Sequence) (target : Flight) : Duration :=
  match target.runway.bind sequence.mode.runway with
  | some runway => runway.landingRate
  | none => sequence.mode.offModeSeparation

/-- The landing time and, if another flight gives it, the runway of an inserted flight. -/
def insertedLanding (sequence : Sequence) :
    InsertPosition → Except Fault (Instant × Option String)
  | .before target =>
    match sequence.flight? target with
    | none => .error (.refused (.flightNotFound target))
    | some leader => do
      let time ← leader.landing.scheduled.minus (sequence.landingInterval leader)
      return (time, leader.runway)
  | .after target =>
    match sequence.flight? target with
    | none => .error (.refused (.flightNotFound target))
    | some leader => do
      let time ← leader.landing.scheduled.plus (sequence.landingInterval leader)
      return (time, leader.runway)
  | .at time => .ok (time, none)

/-- An inserted flight with landing time and runway pinned. -/
def pinInserted (sequence : Sequence) (flight : Flight) (time : Instant)
    (runway : Option String) : Except Overflow Flight :=
  -- A neighbour's runway comes first, then the flight's own, then the first one of the mode.
  let runway := (runway.or flight.runway).or
    (sequence.mode.runways.head?.map (·.identifier))
  let assigned := match runway with
    | some runway => flight.assignRunway runway true
    | none => flight
  assigned.pinLandingTime time

/-- Inserts an admitted flight; the sequence is no longer concerned with its retirement. -/
def insertAdmitted (sequence : Sequence) (flight : Flight) (position : InsertPosition) :
    Except Fault (Unit × Sequence) := do
  sequence.checkNew flight
  let (time, runway) ← sequence.insertedLanding position
  let pinned ← sequence.pinInserted flight time runway
  let waiting := sequence.dropPending flight.callsign
  return ((), sort { waiting with flights := waiting.flights ++ [pinned] })

/--
Inserts a flight where a controller wants it, also one that was retired.

The retirement is forgotten even when the insertion is refused.
-/
def insertFlight (sequence : Sequence) (flight : Flight) (position : InsertPosition) :
    Except Overflow (Outcome Sequence Unit) :=
  let remembered :=
    { sequence with retired := sequence.retired.filter (·.callsign ≠ flight.callsign) }
  Outcome.ofFaulty remembered (remembered.insertAdmitted flight position)

/-- Takes a tracked flight out of the sequence for the time being. -/
def desequence (sequence : Sequence) (callsign : Callsign) : Except Refusal Sequence :=
  match sequence.flight? callsign with
  | none => .error (.flightNotFound callsign)
  | some flight => do
    let parked ← flight.setState .desequenced
    return { sequence with
      flights := eraseFlight sequence.flights callsign
      desequenced := sequence.desequenced ++ [parked] }

/-- Puts a desequenced flight back at the position of its estimate, and answers that position. -/
def resume (sequence : Sequence) (callsign : Callsign) (now : Instant) :
    Except Refusal (Nat × Sequence) :=
  match findFlight sequence.desequenced callsign with
  | none => .error (.flightNotFound callsign)
  | some flight => do
    let resumed ← flight.resume now
    reposition { sequence with
      flights := sequence.flights ++ [resumed]
      desequenced := eraseFlight sequence.desequenced callsign } callsign false

/-- Remembers that a flight is no longer sequenced, with the later of its two landing times. -/
def retire (sequence : Sequence) (flight : Flight) : Sequence :=
  { sequence with retired := sequence.retired ++
      [⟨flight.callsign, max flight.landing.scheduled flight.landing.estimate⟩] }

/-- Takes a flight out of the list that holds it, tracked flights first. -/
def takeOut (sequence : Sequence) (callsign : Callsign) : Option (Flight × Sequence) :=
  match sequence.flight? callsign with
  | some flight =>
    some (flight, { sequence with flights := eraseFlight sequence.flights callsign })
  | none =>
    (findFlight sequence.desequenced callsign).map fun flight =>
      (flight, { sequence with desequenced := eraseFlight sequence.desequenced callsign })

/--
Stops tracking a flight for good, and answers the flight.

It leaves its list before it changes state, so a flight that was removed already is lost.
-/
def remove (sequence : Sequence) (callsign : Callsign) : Outcome Sequence Flight :=
  match sequence.takeOut callsign with
  | none => ⟨.error (.flightNotFound callsign), sequence⟩
  | some (flight, rest) =>
    match flight.setState .removed with
    | .error refusal => ⟨.error refusal, rest⟩
    | .ok removed => ⟨.ok removed, rest.retire removed⟩

/-- Adds a flight that is not tracked yet, or replaces what was known about it. -/
def upsertPending (sequence : Sequence) (flight : Flight) : Except Refusal Sequence := do
  sequence.checkNew flight
  if (findFlight sequence.pending flight.callsign).isSome then
    return { sequence with pending := replaceFlight sequence.pending flight }
  else
    return { sequence with pending := sequence.pending ++ [flight] }

/-- Drops the pending flights that were due to land before a time, and answers them. -/
def expirePending (sequence : Sequence) (cutoff : Instant) : List Flight × Sequence :=
  let (expired, remaining) :=
    sequence.pending.partition fun flight => flight.landing.estimate < cutoff
  (expired, { sequence with pending := remaining })

/-- Takes a flight out of the pending ones. -/
def takePending (sequence : Sequence) (callsign : Callsign) : Option Flight × Sequence :=
  (findFlight sequence.pending callsign,
    { sequence with pending := eraseFlight sequence.pending callsign })

/-- Declares a slot under an unused number. -/
def createSlot (sequence : Sequence) (id : SlotId) (start finish : Instant)
    (runways : List String) : Except Refusal Sequence := do
  let slot ← Slot.declare id start finish runways
  return { sequence with slots := sequence.slots ++ [slot] }

/-- The slot with this number. -/
def slot? (sequence : Sequence) (id : SlotId) : Option Slot := sequence.slots.find? (·.id = id)

/-- Moves a slot to another window. -/
def modifySlot (sequence : Sequence) (id : SlotId) (start finish : Instant) :
    Except Refusal Sequence :=
  match sequence.slot? id with
  | none => .error (.slotNotFound id)
  | some slot => do
    let moved ← slot.reschedule start finish
    return { sequence with slots := replaceSlot sequence.slots moved }

/-- Gives up a slot, and answers it. -/
def deleteSlot (sequence : Sequence) (id : SlotId) : Except Refusal (Slot × Sequence) :=
  match sequence.slot? id with
  | none => .error (.slotNotFound id)
  | some slot => .ok (slot, { sequence with slots := sequence.slots.eraseP (·.id = id) })

/-- Goes over to a mode at once; a planned change is given up. -/
def changeMode (sequence : Sequence) (mode : RunwayMode) : Sequence :=
  { sequence with mode, modeChange := none }

/-- Plans a change of the mode in place of the one planned before. -/
def scheduleModeChange (sequence : Sequence) (change : ModeChange) : Sequence :=
  { sequence with modeChange := some change }

/-- Carries out the planned change of the mode once its first landing time has come. -/
def trySwapModes (sequence : Sequence) (now : Instant) : Bool × Sequence :=
  match sequence.modeChange with
  | some change =>
    -- Until the first landing of the next mode, the sequence stays in the current one.
    if change.firstLanding ≤ now then (true, sequence.changeMode change.mode)
    else (false, sequence)
  | none => (false, sequence)

/-- The mode that accepts landings at a time. -/
def modeAt (sequence : Sequence) (time : Instant) : RunwayMode :=
  match sequence.modeChange with
  | some change => if change.firstLanding ≤ time then change.mode else sequence.mode
  | none => sequence.mode

/-- The windows in which nothing lands on a runway: its slots, then the change of the mode. -/
def blockoutsFor (sequence : Sequence) (runway : String) : List Blockout :=
  (sequence.slots.filter (·.appliesTo runway)).map (·.period)
    ++ (sequence.modeChange.bind (·.changeover)).toList

/-- Whether a flight landed before a time. -/
def hasLandedBefore (cutoff : Instant) (flight : Flight) : Bool :=
  flight.state = .landed && flight.landing.scheduled < cutoff

/-- Retires the flights that landed before a time, and answers them. -/
def purgeLanded (sequence : Sequence) (cutoff : Instant) : List Flight × Sequence :=
  let (landed, remaining) := sequence.flights.partition (hasLandedBefore cutoff)
  (landed, landed.foldl retire { sequence with flights := remaining })

/-- Accepts retired flights that landed before a time again, and answers how many those are. -/
def forgetRetired (sequence : Sequence) (cutoff : Instant) : Nat × Sequence :=
  let remembered := sequence.retired.filter fun retired => cutoff ≤ retired.landing
  (sequence.retired.length - remembered.length, { sequence with retired := remembered })

/-- What is published of the sequence at a time. -/
def snapshot (sequence : Sequence) (time : Instant) : Snapshot :=
  { airport := sequence.airport.identifier
    time
    flights := sequence.flights
    desequenced := sequence.desequenced
    slots := sequence.slots
    mode := sequence.mode.identifier
    nextMode := sequence.modeChange.map (·.mode.identifier) }

end Sequence

end ArrivalManager
