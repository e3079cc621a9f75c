import ArrivalManager.Flight.Operation
import ArrivalManager.Schedule

/-! The operations on a sequence as data, so that whole runs of them can be carried out. -/

namespace ArrivalManager.Sequence

/-- One operation on a sequence. -/
inductive Operation where
  | addFlight (flight : Flight)
  /-- Adds flights, each made ready in its turn, up to the first one that is refused. -/
  | addFlights (flights : List Flight.Prepared)
  | insertFlight (flight : Flight) (position : InsertPosition)
  | reposition (callsign : Callsign) (displace : Bool)
  | desequence (callsign : Callsign)
  | resume (callsign : Callsign) (now : Instant)
  | remove (callsign : Callsign)
  | upsertPending (flight : Flight)
  | expirePending (cutoff : Instant)
  | takePending (callsign : Callsign)
  /-- The slot gets a number that was never used before. -/
  | createSlot (id : SlotId) (start finish : Instant) (runways : List String)
  | modifySlot (id : SlotId) (start finish : Instant)
  | deleteSlot (id : SlotId)
  | changeMode (mode : RunwayMode)
  | scheduleModeChange (mode : RunwayMode) (lastLanding firstLanding : Instant)
  | trySwapModes (now : Instant)
  | sort
  | purgeLanded (cutoff : Instant)
  | forgetRetired (cutoff : Instant)
  /-- Carries out operations on a tracked flight. -/
  | onFlight (callsign : Callsign) (operations : List Flight.Operation)
  /-- Carries out operations on a desequenced flight. -/
  | onDesequenced (callsign : Callsign) (operations : List Flight.Operation)
  /-- Carries out operations on a pending flight. -/
  | onPending (callsign : Callsign) (operations : List Flight.Operation)
  /-- Carries out operations on every tracked flight. -/
  | onAllFlights (operations : List Flight.Operation)
  /-- Runs a scheduling pass. -/
  | schedule

/-- What an operation on a sequence answers when it is not refused. -/
inductive Answer where
  | done
  | position (index : Nat)
  | removed (flight : Flight)
  | dropped (flights : List Flight)
  | taken (flight : Option Flight)
  | created (slot : SlotId)
  | deleted (slot : Slot)
  | swapped (swapped : Bool)
  | forgotten (count : Nat)
  /-- The answers of the operations on a flight, if the flight was found. -/
  | flightAnswers (answers : Option (List (Except Refusal Flight.Answer)))

/-- Operations on the flight of a name in a list. -/
def performOn (flights : List Flight) (callsign : Callsign) (operations : List Flight.Operation) :
    Except Overflow (Option (List (Except Refusal Flight.Answer) × List Flight)) :=
  match findFlight flights callsign with
  | none => .ok none
  | some flight => do
    let (answers, changed) ← flight.performAll operations
    return some (answers, replaceFlight flights changed)

/-- A restated result of an operation that leaves everything as it was when it is refused. -/
def settled (sequence : Sequence) (result : Except Refusal (Answer × Sequence)) :
    Except Overflow (Outcome Sequence Answer) :=
  .ok (Outcome.ofExcept sequence result)

/-- An operation that cannot be refused. -/
def succeeded (answer : Answer) (after : Sequence) : Except Overflow (Outcome Sequence Answer) :=
  .ok ⟨.ok answer, after⟩

/--
Adds flights in turn; the first refusal ends it, and those added before stay.

A flight that could not be made ready matters only when its turn comes.
-/
def addFlights (sequence : Sequence) :
    List Flight.Prepared → Except Overflow (Outcome Sequence Answer)
  | [] => .ok ⟨.ok .done, sequence⟩
  | .error overflow :: _ => .error overflow
  | .ok flight :: rest =>
    match sequence.addFlight flight with
    | .ok (_, after) => after.addFlights rest
    | .error refusal => .ok ⟨.error refusal, sequence⟩

/-- Carries out one operation. -/
def perform (scheduler : Scheduler) (sequence : Sequence) :
    Operation → Except Overflow (Outcome Sequence Answer)
  | .addFlight flight => sequence.settled do
    let (index, after) ← sequence.addFlight flight
    return (.position index, after)
  | .addFlights flights => sequence.addFlights flights
  | .insertFlight flight position => do
    return (← sequence.insertFlight flight position).map fun _ => .done
  | .reposition callsign displace => sequence.settled do
    let (index, after) ← sequence.reposition callsign displace
    return (.position index, after)
  | .desequence callsign => sequence.settled do return (.done, ← sequence.desequence callsign)
  | .resume callsign now => sequence.settled do
    let (index, after) ← sequence.resume callsign now
    return (.position index, after)
  | .remove callsign => .ok ((sequence.remove callsign).map .removed)
  | .upsertPending flight => sequence.settled do return (.done, ← sequence.upsertPending flight)
  | .expirePending cutoff =>
    let (expired, after) := sequence.expirePending cutoff
    succeeded (.dropped expired) after
  | .takePending callsign =>
    let (flight, after) := sequence.takePending callsign
    succeeded (.taken flight) after
  | .createSlot id start finish runways => sequence.settled do
    return (.created id, ← sequence.createSlot id start finish runways)
  | .modifySlot id start finish => sequence.settled do
    return (.done, ← sequence.modifySlot id start finish)
  | .deleteSlot id => sequence.settled do
    let (slot, after) ← sequence.deleteSlot id
    return (.deleted slot, after)
  | .changeMode mode => succeeded .done (sequence.changeMode mode)
  | .scheduleModeChange mode lastLanding firstLanding => sequence.settled do
    let change ← ModeChange.plan mode lastLanding firstLanding
    return (.done, sequence.scheduleModeChange change)
  | .trySwapModes now =>
    let (swapped, after) := sequence.trySwapModes now
    succeeded (.swapped swapped) after
  | .sort => succeeded .done sequence.sort
  | .purgeLanded cutoff =>
    let (landed, after) := sequence.purgeLanded cutoff
    succeeded (.dropped landed) after
  | .forgetRetired cutoff =>
    let (count, after) := sequence.forgetRetired cutoff
    succeeded (.forgotten count) after
  | .onFlight callsign operations => do
    match ← performOn sequence.flights callsign operations with
    | none => return ⟨.error (.flightNotFound callsign), sequence⟩
    | some (answers, flights) =>
      return ⟨.ok (.flightAnswers (some answers)), { sequence with flights }⟩
  | .onDesequenced callsign operations => do
    match ← performOn sequence.desequenced callsign operations with
    | none => return ⟨.ok (.flightAnswers none), sequence⟩
    | some (answers, desequenced) =>
      return ⟨.ok (.flightAnswers (some answers)), { sequence with desequenced }⟩
  | .onPending callsign operations => do
    match ← performOn sequence.pending callsign operations with
    | none => return ⟨.ok (.flightAnswers none), sequence⟩
    | some (answers, pending) =>
      return ⟨.ok (.flightAnswers (some answers)), { sequence with pending }⟩
  | .onAllFlights operations => do
    let flights ← sequence.flights.mapM fun flight => flight.prepare operations
    return ⟨.ok .done, { sequence with flights }⟩
  | .schedule => do
    return (← scheduler.schedule sequence).map fun _ => .done

end ArrivalManager.Sequence
