import ArrivalManager.Sequence.Operation

/-! Operations on a sequence as the steps by which they change it, one part after the other. -/

namespace ArrivalManager.Sequence

/-- Steps on a sequence; what the steps before a refusal changed stays changed. -/
abbrev InPlace := ExceptT Refusal (StateT Sequence (Except Overflow))

namespace InPlace

/-- What steps answer on a sequence, and what they leave behind, refused or not. -/
def outcome {α : Type} (steps : InPlace α) (sequence : Sequence) :
    Except Overflow (Outcome Sequence α) := do
  let (answer, after) ← StateT.run (ExceptT.run steps) sequence
  return ⟨answer, after⟩

/-- A step that only looks at the sequence, and may be refused or overflow for what it finds. -/
def look {α : Type} (find : Sequence → Except Fault α) : InPlace α := do
  match find (← get) with
  | .ok found => return found
  | .error (.refused refusal) => throw refusal
  | .error (.overflowed overflow) => throwThe Overflow overflow

/-- The tracked flight of a name. -/
def tracked (callsign : Callsign) : InPlace Flight :=
  look fun sequence =>
    match sequence.flight? callsign with
    | some flight => return flight
    | none => throw (.refused (.flightNotFound callsign))

/-- Takes a tracked flight out of its place, and puts it where its estimate belongs. -/
def reposition (callsign : Callsign) (displace : Bool) : InPlace Nat := do
  let flight ← tracked callsign
  modify fun sequence => { sequence with flights := eraseFlight sequence.flights callsign }
  let position := positionByEstimate displace flight (← get).flights
  modify fun sequence => { sequence with flights := sequence.flights.insertIdx position flight }
  return position

/-- Puts a flight behind the tracked ones. -/
def track (flight : Flight) : InPlace Unit :=
  modify fun sequence => { sequence with flights := sequence.flights ++ [flight] }

/-- Checks a flight, and then tracks it at the position of its estimate. -/
def addFlight (flight : Flight) : InPlace Nat := do
  look fun sequence => do sequence.checkNew flight
  modify (·.dropPending flight.callsign)
  track flight
  reposition flight.callsign false

/-- Checks a flight and where it goes, and then tracks it with its landing pinned. -/
def insertAdmitted (flight : Flight) (position : InsertPosition) : InPlace Unit := do
  look fun sequence => do sequence.checkNew flight
  let (time, runway) ← look (·.insertedLanding position)
  let pinned ← look fun sequence => do sequence.pinInserted flight time runway
  modify (·.dropPending flight.callsign)
  track pinned
  modify (·.sort)

/-- Forgets the retirement of a flight, and only then checks the flight and inserts it. -/
def insertFlight (flight : Flight) (position : InsertPosition) : InPlace Unit := do
  modify fun sequence =>
    { sequence with retired := sequence.retired.filter (·.callsign ≠ flight.callsign) }
  insertAdmitted flight position

/-- Marks a tracked flight, and then moves it over to the ones that are taken out. -/
def desequence (callsign : Callsign) : InPlace Unit := do
  let flight ← tracked callsign
  let parked ← look fun _ => do flight.setState .desequenced
  modify fun sequence => { sequence with flights := replaceFlight sequence.flights parked }
  modify fun sequence => { sequence with flights := eraseFlight sequence.flights callsign }
  modify fun sequence => { sequence with desequenced := sequence.desequenced ++ [parked] }

/-- Marks a flight that is taken out, and then moves it back to the tracked ones. -/
def resume (callsign : Callsign) (now : Instant) : InPlace Nat := do
  let flight ← look fun sequence =>
    match findFlight sequence.desequenced callsign with
    | some flight => return flight
    | none => throw (.refused (.flightNotFound callsign))
  let resumed ← look fun _ => do flight.resume now
  modify fun sequence => { sequence with desequenced := replaceFlight sequence.desequenced resumed }
  modify fun sequence => { sequence with desequenced := eraseFlight sequence.desequenced callsign }
  track resumed
  reposition callsign false

/-- Takes a flight out of its list, and only then marks and retires it. -/
def remove (callsign : Callsign) : InPlace Flight := do
  let (flight, rest) ← look fun sequence =>
    match sequence.takeOut callsign with
    | some found => return found
    | none => throw (.refused (.flightNotFound callsign))
  set rest
  let removed ← look fun _ => do flight.setState .removed
  modify (·.retire removed)
  return removed

/-- Checks a flight, and then overwrites what was known of it or adds it to the pending ones. -/
def upsertPending (flight : Flight) : InPlace Unit := do
  look fun sequence => do sequence.checkNew flight
  if (findFlight (← get).pending flight.callsign).isSome then
    modify fun sequence => { sequence with pending := replaceFlight sequence.pending flight }
  else
    modify fun sequence => { sequence with pending := sequence.pending ++ [flight] }

/-- Makes a slot, and then adds it. -/
def createSlot (id : SlotId) (start finish : Instant) (runways : List String) : InPlace Unit := do
  let slot ← look fun _ => do Slot.declare id start finish runways
  modify fun sequence => { sequence with slots := sequence.slots ++ [slot] }

/-- The slot with a number. -/
def numbered (id : SlotId) : InPlace Slot :=
  look fun sequence =>
    match sequence.slot? id with
    | some slot => return slot
    | none => throw (.refused (.slotNotFound id))

/-- Finds a slot, and then moves it to another window. -/
def modifySlot (id : SlotId) (start finish : Instant) : InPlace Unit := do
  let slot ← numbered id
  let moved ← look fun _ => do slot.reschedule start finish
  modify fun sequence => { sequence with slots := replaceSlot sequence.slots moved }

/-- Finds a slot, and then takes it out. -/
def deleteSlot (id : SlotId) : InPlace Slot := do
  let slot ← numbered id
  modify fun sequence => { sequence with slots := sequence.slots.eraseP (·.id = id) }
  return slot

end InPlace

/-- The steps of the operations that track, move or take out flights, and of those on slots. -/
def Operation.inPlace : Operation → Option (InPlace Answer)
  | .addFlight flight => some do return .position (← InPlace.addFlight flight)
  | .insertFlight flight position => some do
    InPlace.insertFlight flight position
    return .done
  | .reposition callsign displace => some do
    return .position (← InPlace.reposition callsign displace)
  | .desequence callsign => some do
    InPlace.desequence callsign
    return .done
  | .resume callsign now => some do return .position (← InPlace.resume callsign now)
  | .remove callsign => some do return .removed (← InPlace.remove callsign)
  | .upsertPending flight => some do
    InPlace.upsertPending flight
    return .done
  | .createSlot id start finish runways => some do
    InPlace.createSlot id start finish runways
    return .created id
  | .modifySlot id start finish => some do
    InPlace.modifySlot id start finish
    return .done
  | .deleteSlot id => some do return .deleted (← InPlace.deleteSlot id)
  | _ => none

end ArrivalManager.Sequence
