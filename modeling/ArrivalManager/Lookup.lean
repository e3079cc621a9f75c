import ArrivalManager.Airport
import ArrivalManager.Position

/-! What the sequencer looks up elsewhere. Every lookup may miss, and its user falls back. -/

namespace ArrivalManager

/-- The performance of an aircraft type, where it is known. -/
abbrev PerformanceLookup := String → Option Performance

/-- The aircraft of a type; an unknown type counts as a medium jet. -/
def PerformanceLookup.aircraft (lookup : PerformanceLookup) (typeCode : String) : Aircraft :=
  { (lookup typeCode).getD ⟨.medium, true⟩ with typeCode }

/-- The place of a fix, where it is known. -/
abbrev FixLookup := String → Option Coordinate

/-- The specific spacing of a leader and its trailer in a runway mode, where a rule gives one. -/
abbrev SeparationRule := Aircraft → Aircraft → RunwayMode → Option Duration

/-- The arrival procedures of airports and the times that flying them takes. -/
structure ArrivalLookup where
  /-- The time from a feeder fix to touchdown, by airport, fix, procedure, runway and aircraft. -/
  timeToGo : String → String → Option String → String → Aircraft → Option Duration
  /-- The average time from a feeder fix to touchdown; summing up the times may overflow. -/
  averageTimeToGo : String → String → Except Overflow (Option Duration)
  /-- The least time between arrivals, by airport, feeder fix, runway and aircraft. -/
  arrivalInterval : String → String → String → Aircraft → Option Duration

end ArrivalManager
