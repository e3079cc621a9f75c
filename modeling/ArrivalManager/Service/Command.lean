import ArrivalManager.Service

/-! The commands that an airport accepts: each changes its sequence, schedules it and publishes. -/

namespace ArrivalManager

/-- A command to the sequence of one airport. -/
inductive Command where
  | updateFlight (update : FlightUpdate)
  | insertFlight (callsign : Callsign) (typeCode : Option String) (position : InsertPosition)
  /-- Pins the flight to a runway, or leaves the choice to the scheduler again. -/
  | changeRunway (callsign : Callsign) (runway : Option String)
  | desequence (callsign : Callsign)
  | resume (callsign : Callsign)
  | remove (callsign : Callsign)
  | setHighPriority (callsign : Callsign) (value : Bool)
  | setNoDelay (callsign : Callsign) (value : Bool)
  | changeLandingTime (callsign : Callsign) (time : Instant)
  | releaseLandingTime (callsign : Callsign)
  | createSlot (start finish : Instant) (runways : List String)
  | modifySlot (slot : SlotId) (start finish : Instant)
  | deleteSlot (slot : SlotId)
  | changeMode (mode : String)
  | scheduleModeChange (mode : String) (lastLanding firstLanding : Instant)
  /-- Accounts for the passage of time. -/
  | recompute

/-- What a command leads to: its answer, the registry after it, and what it published. -/
structure Reply where
  /-- The number of the slot, where one was created. -/
  answer : Except Refusal (Option SlotId)
  registry : Registry
  published : Option Snapshot

namespace Service

/-- The change that a command makes before the scheduling pass; a new slot gets the given number. -/
def change (service : Service) (now : Instant) (fresh : SlotId) :
    Command → Change (Option SlotId)
  | .updateFlight update => fun sequence =>
    return (← service.updateFlight update now sequence).map fun _ => none
  | .insertFlight callsign typeCode position => fun sequence =>
    return (← service.insertFlight callsign typeCode position now sequence).map fun _ => none
  | .changeRunway callsign runway =>
    onFlight callsign fun flight => .ok <| match runway with
      | some runway => flight.assignRunway runway true
      | none => flight.releaseRunway
  | .desequence callsign =>
    Change.ofExcept fun sequence => do return (none, ← sequence.desequence callsign)
  | .resume callsign =>
    Change.ofExcept fun sequence => do
      let (_, resumed) ← sequence.resume callsign now
      return (none, resumed)
  | .remove callsign => fun sequence => return (sequence.remove callsign).map fun _ => none
  | .setHighPriority callsign value =>
    onFlight callsign fun flight => .ok { flight with highPriority := value }
  | .setNoDelay callsign value =>
    onFlight callsign fun flight => .ok { flight with noDelay := value }
  | .changeLandingTime callsign time => fun sequence => do
    let outcome ← onFlight callsign (·.pinLandingTime time) sequence
    return match outcome.answer with
      | .ok _ => { outcome with after := outcome.after.sort }
      | .error _ => outcome
  | .releaseLandingTime callsign =>
    onFlight callsign fun flight => .ok flight.releaseLandingTime
  | .createSlot start finish runways =>
    Change.ofExcept fun sequence => do
      return (some fresh, ← sequence.createSlot fresh start finish runways)
  | .modifySlot slot start finish =>
    Change.ofExcept fun sequence => do return (none, ← sequence.modifySlot slot start finish)
  | .deleteSlot slot =>
    Change.ofExcept fun sequence => do
      let (_, rest) ← sequence.deleteSlot slot
      return (none, rest)
  | .changeMode mode =>
    Change.ofExcept fun sequence => do
      return (none, sequence.changeMode (← configuredMode sequence mode))
  | .scheduleModeChange mode lastLanding firstLanding =>
    Change.ofExcept fun sequence => do
      let configured ← configuredMode sequence mode
      return (none, sequence.scheduleModeChange
        (← ModeChange.plan configured lastLanding firstLanding))
  | .recompute => fun sequence => do
    return ⟨.ok none, ← service.passTime now sequence⟩
where
  /-- A change to one tracked flight that creates no slot. -/
  onFlight (callsign : Callsign) (change : Flight → Except Overflow Flight) :
      Change (Option SlotId) := fun sequence =>
    return (← Change.ofFlight callsign change sequence).map fun _ => none

/-- What remains of a sequence after the pass of a command: a recomputation drops what is old. -/
def kept (service : Service) (now : Instant) (command : Command) (sequence : Sequence) :
    Except Overflow Sequence :=
  match command with
  | .recompute => service.retain sequence now
  | _ => .ok sequence

/-- The number for the next slot, once a change may have used the one at hand. -/
def slotAfter (fresh : SlotId) : Except Refusal (Option SlotId) → SlotId
  | .ok (some _) => ⟨fresh.number + 1⟩
  | _ => fresh

/--
Carries out a command for an airport.

A refused change is not scheduled and publishes nothing. A flight that could not be scheduled is
reported after the sequence was published all the same.
-/
def execute (service : Service) (registry : Registry) (airport : String) (now : Instant)
    (command : Command) : Except Overflow Reply :=
  match registry.sequence? airport with
  | none => .ok ⟨.error (.unknownAirport airport), registry, none⟩
  | some sequence => do
    let counted := (service.change now registry.nextSlot command sequence).run
    let changed ← counted.result
    -- Misses count even if the change is refused, but then no slot number is used up.
    let counters := { registry with
      misses := registry.misses + counted.misses
      nextSlot := slotAfter registry.nextSlot changed.answer }
    match changed.answer with
    | .error refusal => return ⟨.error refusal, counters.replace changed.after, none⟩
    | .ok slot =>
      -- A flight that can not be scheduled takes nothing back of what was changed.
      let scheduled ← service.scheduler.schedule changed.after
      let after ← service.kept now command scheduled.after
      return {
        answer := scheduled.answer.map fun _ => slot
        registry := counters.replace after
        published := some (after.snapshot now) }

/-- What a recomputation answers that is given up while another command holds the sequence. -/
def abandoned (registry : Registry) (airport : String) : Refusal :=
  if (registry.sequence? airport).isSome then .cancelled airport else .unknownAirport airport

end Service

end ArrivalManager
