/-! The stages a flight goes through on its way to landing, and the two ways out of them. -/

namespace ArrivalManager

/-- How firmly a flight is committed to its place in the sequence. -/
inductive FlightState where
  /-- Tracked, and not scheduled yet. -/
  | new
  /-- Scheduled anew by every pass. -/
  | unstable
  /-- No longer scheduled anew, though its place may still move with its estimate. -/
  | stable
  /-- Past the time it was first expected at the feeder fix, and fixed in its place. -/
  | superStable
  /-- About to land. -/
  | frozen
  /-- Past its scheduled landing time. -/
  | landed
  /-- Taken out of the sequence by a controller, who may bring it back. -/
  | desequenced
  /-- Taken out for good. -/
  | removed
deriving DecidableEq

namespace FlightState

/-- The name of a state. -/
def name : FlightState → String
  | .new => "New"
  | .unstable => "Unstable"
  | .stable => "Stable"
  | .superStable => "SuperStable"
  | .frozen => "Frozen"
  | .landed => "Landed"
  | .desequenced => "Desequenced"
  | .removed => "Removed"

/-- The state with this name. -/
def ofName? (name : String) : Option FlightState :=
  [new, unstable, stable, superStable, frozen, landed, desequenced, removed].find? (·.name = name)

/-- The place of a state in the total order: first the chain of promotions, then the ways out. -/
def rank : FlightState → Nat
  | .new => 0
  | .unstable => 1
  | .stable => 2
  | .superStable => 3
  | .frozen => 4
  | .landed => 5
  | .desequenced => 6
  | .removed => 7

instance : LE FlightState := ⟨fun left right => left.rank ≤ right.rank⟩
instance : LT FlightState := ⟨fun left right => left.rank < right.rank⟩
instance (left right : FlightState) : Decidable (left ≤ right) :=
  inferInstanceAs (Decidable (left.rank ≤ right.rank))
instance (left right : FlightState) : Decidable (left < right) :=
  inferInstanceAs (Decidable (left.rank < right.rank))
instance : Ord FlightState := ⟨fun left right => compare left.rank right.rank⟩

/-- The states in which a new estimate no longer moves a flight in the sequence. -/
def positionIsFixed : FlightState → Bool
  | .superStable | .frozen | .landed => true
  | _ => false

/-- The states of the chain; a flight outside it takes no part in scheduling. -/
def isSequenced : FlightState → Bool
  | .desequenced | .removed => false
  | _ => true

/-- The states in which a pass chooses the landing time. -/
def isSchedulable : FlightState → Bool
  | .new | .unstable => true
  | _ => false

/-- The states in which a flight keeps its landing, and others are fitted around it. -/
def isAnchored : FlightState → Bool
  | .stable | .superStable | .frozen | .landed => true
  | _ => false

end FlightState

end ArrivalManager
