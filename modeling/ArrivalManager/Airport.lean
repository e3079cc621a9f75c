import ArrivalManager.Aircraft
import ArrivalManager.Slot

/-! Runways, the modes in which an airport operates them, and planned changes of the mode. -/

namespace ArrivalManager

/-- The stagger a runway keeps against landings on another one. -/
structure RunwayDependency where
  runway : String
  separation : Duration
deriving DecidableEq

/-- A runway as one mode uses it. -/
structure Runway where
  identifier : String
  /-- The least time between two landings on the runway. -/
  landingRate : Duration
  dependencies : List RunwayDependency
  /-- The wake categories the runway is preferred for. -/
  preferredWakes : List WakeCategory
  /-- The feeder fixes whose traffic the runway is preferred for. -/
  preferredFixes : List String
deriving DecidableEq

/-- The first dependency of a runway on another one. -/
def Runway.dependencyOn (runway : Runway) (other : String) : Option RunwayDependency :=
  runway.dependencies.find? (·.runway = other)

/-- A named set of runways that accept arrivals together. -/
structure RunwayMode where
  identifier : String
  runways : List Runway
  /-- The spacing of two landings when one of them is on a runway outside the mode. -/
  offModeSeparation : Duration
deriving DecidableEq

namespace RunwayMode

/-- The first runway of the mode with this name. -/
def runway (mode : RunwayMode) (identifier : String) : Option Runway :=
  mode.runways.find? (·.identifier = identifier)

/-- Whether the mode uses a runway. -/
def contains (mode : RunwayMode) (identifier : String) : Bool :=
  (mode.runway identifier).isSome

end RunwayMode

/-- A plan to go over to another mode; nothing lands between its two times. -/
structure ModeChange where
  mode : RunwayMode
  /-- The current mode accepts landings before this time. -/
  lastLanding : Instant
  /-- The next mode accepts landings from this time on. -/
  firstLanding : Instant
  /-- The modes do not overlap. -/
  last_le_first : lastLanding ≤ firstLanding
deriving DecidableEq

namespace ModeChange

/-- The plan to go over to a mode, if its times are in order. -/
def plan (mode : RunwayMode) (lastLanding firstLanding : Instant) : Except Refusal ModeChange :=
  if ordered : lastLanding ≤ firstLanding then .ok ⟨mode, lastLanding, firstLanding, ordered⟩
  else .error (.invalidRunwayModeChange mode.identifier .reversed)

/-- The window in which neither mode accepts landings, unless the change is instantaneous. -/
def changeover (change : ModeChange) : Option Blockout :=
  (Blockout.between change.lastLanding change.firstLanding).toOption

end ModeChange

/-- A managed airport. -/
structure Airport where
  identifier : String
  /-- The modes to choose from; the first one is in effect at the beginning. -/
  modes : List RunwayMode
  feederFixes : List String
  /-- The distance to a feeder fix beyond which surveillance does not refine the estimate. -/
  radarRangeNm : Float

/-- The first mode of an airport with this name. -/
def Airport.mode (airport : Airport) (identifier : String) : Option RunwayMode :=
  airport.modes.find? (·.identifier = identifier)

end ArrivalManager
