import ArrivalManager.FlightState
import ArrivalManager.Time.Calendar

/-! The reasons for which sequencing operations are refused, and what an operation leaves behind. -/

namespace ArrivalManager

/-- The name under which a flight is tracked. -/
abbrev Callsign := String

/-- The number of a slot; no two slots share one. -/
structure SlotId where
  number : Nat
deriving DecidableEq

/-- The text that names a slot. -/
def SlotId.display (slot : SlotId) : String := "#" ++ toString slot.number

/-- What is wrong with a runway mode or with the plan to change to it. -/
inductive ModeFault where
  /-- The next mode would begin before the current one ends. -/
  | reversed
  /-- There is no mode to begin with. -/
  | noModes
  /-- The airport has no mode of that name. -/
  | notConfigured (airport : String)
deriving DecidableEq

/-- The text that explains a fault of a runway mode. -/
def ModeFault.message : ModeFault → String
  | .reversed =>
    "first landing in the new mode precedes the last landing in the current mode"
  | .noModes => "the airport has no runway modes"
  | .notConfigured airport => "not a runway mode of " ++ airport

/-- Where a landing time was looked for. -/
inductive SearchedRunways where
  /-- On one runway, by conflict resolution. -/
  | one (runway : String)
  /-- On every runway of a mode that has none. -/
  | anyOf (mode : String)
deriving DecidableEq

/-- The text that names the runways searched. -/
def SearchedRunways.display : SearchedRunways → String
  | .one runway => runway
  | .anyOf mode => "any runway in " ++ mode

/-- Why a sequencing operation was refused, or a flight not scheduled. -/
inductive Refusal where
  | duplicateCallsign (callsign : Callsign)
  | wrongDestination (callsign : Callsign) (destination airport : String)
  | flightNotFound (callsign : Callsign)
  | slotNotFound (slot : SlotId)
  | invalidSlotTimes (start finish : Instant)
  | feederFixPassed (callsign : Callsign)
  | flightRemoved (callsign : Callsign)
  | invalidStateTransition (callsign : Callsign) (source target : FlightState)
  | flightRetired (callsign : Callsign)
  | invalidRunwayModeChange (mode : String) (fault : ModeFault)
  | unknownAirport (airport : String)
  | duplicateAirport (airport : String)
  | unsatisfiableSchedule (callsign : Callsign) (searched : SearchedRunways) (attempts : Nat)
  | cancelled (airport : String)
deriving DecidableEq

namespace Refusal

/-- The name of the kind of refusal. -/
def kind : Refusal → String
  | .duplicateCallsign .. => "DuplicateCallsign"
  | .wrongDestination .. => "WrongDestination"
  | .flightNotFound .. => "FlightNotFound"
  | .slotNotFound .. => "SlotNotFound"
  | .invalidSlotTimes .. => "InvalidSlotTimes"
  | .feederFixPassed .. => "FeederFixPassed"
  | .flightRemoved .. => "FlightRemoved"
  | .invalidStateTransition .. => "InvalidStateTransition"
  | .flightRetired .. => "FlightRetired"
  | .invalidRunwayModeChange .. => "InvalidRunwayModeChange"
  | .unknownAirport .. => "UnknownAirport"
  | .duplicateAirport .. => "DuplicateAirport"
  | .unsatisfiableSchedule .. => "UnsatisfiableSchedule"
  | .cancelled .. => "Cancelled"

/-- The text reported for a refusal. -/
def message : Refusal → String
  | .duplicateCallsign callsign => "flight " ++ callsign ++ " is already in the sequence"
  | .wrongDestination callsign destination airport =>
    "flight " ++ callsign ++ " is inbound to " ++ destination ++ ", not " ++ airport
  | .flightNotFound callsign => "flight " ++ callsign ++ " not found"
  | .slotNotFound slot => "slot " ++ slot.display ++ " not found"
  | .invalidSlotTimes start finish =>
    "slot must start before it ends (start " ++ start.display ++ ", end " ++ finish.display ++ ")"
  | .feederFixPassed callsign => "flight " ++ callsign ++ " has already passed its feeder fix"
  | .flightRemoved callsign =>
    "flight " ++ callsign ++ " has been removed and can no longer change state"
  | .invalidStateTransition callsign source target =>
    "flight " ++ callsign ++ " cannot go from " ++ source.name ++ " to " ++ target.name
  | .flightRetired callsign =>
    "flight " ++ callsign ++ " is no longer sequenced and ignores updates"
  | .invalidRunwayModeChange mode fault =>
    "runway mode change to " ++ mode ++ " is invalid: " ++ fault.message
  | .unknownAirport airport => "no sequence exists for " ++ airport
  | .duplicateAirport airport => "a sequence already exists for " ++ airport
  | .unsatisfiableSchedule callsign searched attempts =>
    "unable to schedule " ++ callsign ++ " on runway " ++ searched.display ++ " within "
      ++ toString attempts ++ " attempts"
  | .cancelled airport => "gave up waiting for the " ++ airport ++ " sequence"

end Refusal

/-- What stops an operation: a refusal, which its caller can act on, or a clock that overflowed. -/
inductive Fault where
  | refused (refusal : Refusal)
  | overflowed (overflow : Overflow)
deriving DecidableEq

instance : MonadLift (Except Refusal) (Except Fault) := ⟨fun result => result.mapError .refused⟩
instance : MonadLift (Except Overflow) (Except Fault) :=
  ⟨fun result => result.mapError .overflowed⟩

/-- An operation's answer, refused or not, and the state it leaves behind in either case. -/
structure Outcome (σ α : Type) where
  answer : Except Refusal α
  after : σ

namespace Outcome

/-- The outcome of an operation that leaves everything as it was when it is refused. -/
def ofExcept {σ α : Type} (before : σ) : Except Refusal (α × σ) → Outcome σ α
  | .ok (answer, after) => ⟨.ok answer, after⟩
  | .error refusal => ⟨.error refusal, before⟩

/-- The same outcome with its answer put in other terms. -/
def map {σ α β : Type} (restate : α → β) (outcome : Outcome σ α) : Outcome σ β :=
  ⟨outcome.answer.map restate, outcome.after⟩

end Outcome

/-- A refusal is an outcome that changes nothing; an overflow ends the operation without one. -/
def Outcome.ofFaulty {σ α : Type} (before : σ) :
    Except Fault (α × σ) → Except Overflow (Outcome σ α)
  | .ok (answer, after) => .ok ⟨.ok answer, after⟩
  | .error (.refused refusal) => .ok ⟨.error refusal, before⟩
  | .error (.overflowed overflow) => .error overflow

end ArrivalManager
