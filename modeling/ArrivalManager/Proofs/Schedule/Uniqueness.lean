import ArrivalManager.Proofs.Schedule.Trail
import ArrivalManager.Proofs.Schedule.Turn

/-! The best landing of a flight is unique, and a search reads only some of what is known. -/

namespace ArrivalManager

/-- Of suitable runways, at most one is preferred. -/
theorem Preferred.unique {runways : List Runway} {aircraft : Aircraft} {fix : Option String}
    {suitable : Runway → Prop} {left right : Runway}
    (first : Preferred runways aircraft fix suitable left)
    (second : Preferred runways aircraft fix suitable right) (leftSuits : suitable left)
    (rightSuits : suitable right) : left = right := by
  obtain ⟨place, listed, best⟩ := first
  obtain ⟨place', listed', best'⟩ := second
  -- Neither has a better score than the other one, and neither is listed before the other one.
  obtain ⟨below, early⟩ := best place' right listed' rightSuits
  obtain ⟨above, late⟩ := best' place left listed leftSuits
  have score := le_antisymm below above
  obtain rfl := le_antisymm (early score) (late score.symm)
  exact Option.some.inj (listed.symm.trans listed')

/-- Sequences of one airport with one mode, one planned change, and the same slots in any order. -/
structure Sequence.SameSetting (left right : Sequence) : Prop where
  airport : right.airport.identifier = left.airport.identifier
  mode : right.mode = left.mode
  modeChange : right.modeChange = left.modeChange
  slots : right.slots.Perm left.slots

namespace Sequence.SameSetting

/-- Every sequence has the same setting as itself. -/
theorem refl (sequence : Sequence) : sequence.SameSetting sequence := ⟨rfl, rfl, rfl, .refl _⟩

variable {left right : Sequence} (setting : left.SameSetting right)
include setting

/-- The sequences are alike in either direction. -/
theorem symm : right.SameSetting left :=
  ⟨setting.airport.symm, setting.mode.symm, setting.modeChange.symm, setting.slots.symm⟩

/-- The same mode is in effect at every time. -/
theorem modeAt (time : Instant) : right.modeAt time = left.modeAt time := by
  simp only [Sequence.modeAt, setting.mode, setting.modeChange]

/-- The same windows are closed on every runway. -/
theorem mem_blockoutsFor {runway : String} {blockout : Blockout} :
    blockout ∈ right.blockoutsFor runway ↔ blockout ∈ left.blockoutsFor runway := by
  unfold blockoutsFor
  rw [setting.modeChange]
  exact (((setting.slots.filter _).map _).append_right _).mem_iff

end Sequence.SameSetting

namespace Flight

/-- What the search for a landing reads of a flight, besides the time it starts from. -/
structure SameDemand (left right : Flight) : Prop where
  aircraft : right.aircraft = left.aircraft
  fixIdentifier : right.fixIdentifier = left.fixIdentifier
  runwayPinned : right.runwayPinned = left.runwayPinned
  /-- A runway matters only if a controller chose it. -/
  pinned : left.runwayPinned = true → right.runway = left.runway

namespace SameDemand

variable {left right : Flight}

/-- A flight has the same demand as itself. -/
theorem refl (flight : Flight) : flight.SameDemand flight := ⟨rfl, rfl, rfl, fun _ => rfl⟩

variable (demand : left.SameDemand right)
include demand

/-- The demands are the same in either direction. -/
theorem symm : right.SameDemand left where
  aircraft := demand.aircraft.symm
  fixIdentifier := demand.fixIdentifier.symm
  runwayPinned := demand.runwayPinned.symm
  pinned chosen := (demand.pinned (demand.runwayPinned.symm.trans chosen)).symm

/-- The flights may use the same runways. -/
theorem mayUse {mode : RunwayMode} {runway : String} :
    right.MayUse mode runway ↔ left.MayUse mode runway := by
  cases pinned : left.runwayPinned with
  | false =>
    rw [mayUse_iff_of_unpinned pinned, mayUse_iff_of_unpinned (demand.runwayPinned.trans pinned)]
  | true =>
    rw [mayUse_iff_of_pinned pinned, mayUse_iff_of_pinned (demand.runwayPinned.trans pinned),
      demand.pinned pinned]

end SameDemand

/-- What a pass reads of a flight: two records that agree in it are alike to the pass. -/
structure SameRequest (left right : Flight) : Prop where
  callsign : right.callsign = left.callsign
  aircraft : right.aircraft = left.aircraft
  state : right.state = left.state
  fixIdentifier : right.fixIdentifier = left.fixIdentifier
  estimate : right.landing.estimate = left.landing.estimate
  highPriority : right.highPriority = left.highPriority
  noDelay : right.noDelay = left.noDelay
  manualLandingTime : right.manualLandingTime = left.manualLandingTime
  runwayPinned : right.runwayPinned = left.runwayPinned
  /-- A runway matters only if a controller chose it. -/
  pinned : left.runwayPinned = true → right.assignment = left.assignment

namespace SameRequest

variable {left right : Flight}

/-- A record is alike to itself. -/
theorem refl (flight : Flight) : flight.SameRequest flight :=
  ⟨rfl, rfl, rfl, rfl, rfl, rfl, rfl, rfl, rfl, fun _ => rfl⟩

variable (request : left.SameRequest right)
include request

/-- The records are alike in either direction. -/
theorem symm : right.SameRequest left where
  callsign := request.callsign.symm
  aircraft := request.aircraft.symm
  state := request.state.symm
  fixIdentifier := request.fixIdentifier.symm
  estimate := request.estimate.symm
  highPriority := request.highPriority.symm
  noDelay := request.noDelay.symm
  manualLandingTime := request.manualLandingTime.symm
  runwayPinned := request.runwayPinned.symm
  pinned chosen := (request.pinned (request.runwayPinned.symm.trans chosen)).symm

/-- The flights are in the same group of a pass. -/
theorem priority : right.priority = left.priority := by
  simp only [Flight.priority, request.noDelay, request.manualLandingTime, request.highPriority]

/-- The flights have the same demand. -/
theorem demand : left.SameDemand right where
  aircraft := request.aircraft
  fixIdentifier := request.fixIdentifier
  runwayPinned := request.runwayPinned
  pinned chosen := by simp only [Flight.runway, request.pinned chosen]

/-- A landing is looked for both or neither of the flights. -/
theorem resolvable : right.Resolvable ↔ left.Resolvable := by
  simp only [Resolvable, request.noDelay, request.manualLandingTime]

end SameRequest

end Flight

namespace Scheduler

variable {scheduler : Scheduler} {sequence left right : Sequence} {flight leftFlight rightFlight : Flight}
  {landings leftLandings rightLandings : List Landing} {mode : RunwayMode}
  {time otherTime : Instant} {runway otherRunway : String}

/-- What a flight is allowed is allowed with the same demand, if no more landings are settled. -/
theorem Allows.mono (setting : left.SameSetting right) (demand : leftFlight.SameDemand rightFlight)
    (fewer : ∀ landing ∈ rightLandings, landing ∈ leftLandings)
    (allowed : scheduler.Allows left leftFlight leftLandings mode runway time) :
    scheduler.Allows right rightFlight rightLandings mode runway time := by
  unfold Allows at *
  rw [setting.airport, approach_congr demand.aircraft demand.fixIdentifier]
  refine ⟨⟨fun other member => ?_, fun blockout member => ?_⟩, fun other member => ?_⟩
  · exact allowed.clear other (fewer other member)
  · exact allowed.unblocked blockout (setting.mem_blockoutsFor.mp member)
  · exact allowed.behindFixed other (fewer other member)

/-- Of two flights with the same demand, the one that waits no longer and for no more lands first. -/
theorem Resolves.notLater (first : scheduler.Resolves left leftFlight leftLandings time runway)
    (second : scheduler.Resolves right rightFlight rightLandings otherTime otherRunway)
    (setting : left.SameSetting right) (demand : leftFlight.SameDemand rightFlight)
    (sooner : leftFlight.landing.estimate ≤ rightFlight.landing.estimate)
    (fewer : ∀ landing ∈ leftLandings, landing ∈ rightLandings) : time ≤ otherTime := by
  by_contra overtaken
  -- The landing of the second flight would be allowed to the first one, and it would be earlier.
  have allowed := second.allowed.mono setting.symm demand.symm fewer
  have usable := demand.mayUse.mp second.mayUse
  rw [setting.modeAt] at allowed usable
  exact first.least otherTime (sooner.trans second.notEarly) (not_le.mp overtaken) otherRunway usable
    allowed

/-- The landing that resolves a flight is unique, with its time and its runway. -/
theorem Resolves.unique (first : scheduler.Resolves sequence flight landings time runway)
    (second : scheduler.Resolves sequence flight landings otherTime otherRunway) :
    time = otherTime ∧ runway = otherRunway := by
  -- Neither time lies before the other one, as each of them is the first.
  obtain rfl : time = otherTime :=
    le_antisymm (first.notLater second (.refl _) (.refl _) le_rfl fun _ member => member)
      (second.notLater first (.refl _) (.refl _) le_rfl fun _ member => member)
  refine ⟨rfl, ?_⟩
  cases pinned : flight.runwayPinned with
  | false =>
    obtain ⟨chosen, rfl, preferred⟩ := first.preferred pinned
    obtain ⟨other, rfl, otherPreferred⟩ := second.preferred pinned
    rw [preferred.unique otherPreferred first.allowed second.allowed]
  | true =>
    -- A pinned flight may use one runway only.
    have one := (Flight.mayUse_iff_of_pinned pinned).mp first.mayUse
    have two := (Flight.mayUse_iff_of_pinned pinned).mp second.mayUse
    exact Option.some.inj (one.symm.trans two)

variable (setting : left.SameSetting right) (demand : leftFlight.SameDemand rightFlight)
  (settled : ∀ landing, landing ∈ rightLandings ↔ landing ∈ leftLandings)
include setting demand settled

/-- Of two flights with the same demand, neither is allowed what the other one is not. -/
theorem allows_iff : scheduler.Allows right rightFlight rightLandings mode runway time
    ↔ scheduler.Allows left leftFlight leftLandings mode runway time :=
  -- What is allowed depends on settled landings and closed windows, not on their order.
  ⟨Allows.mono setting.symm demand.symm fun landing => (settled landing).mpr,
    Allows.mono setting demand fun landing => (settled landing).mp⟩

/-- The landing that resolves a flight resolves every one with the same demand and estimate. -/
theorem Resolves.congr (resolves : scheduler.Resolves left leftFlight leftLandings time runway)
    (estimate : rightFlight.landing.estimate = leftFlight.landing.estimate) :
    scheduler.Resolves right rightFlight rightLandings time runway where
  mayUse := by
    rw [setting.modeAt, demand.mayUse]
    exact resolves.mayUse
  notEarly := by
    rw [estimate]
    exact resolves.notEarly
  allowed := by
    rw [setting.modeAt]
    exact resolves.allowed.mono setting demand fun landing => (settled landing).mp
  least sooner notEarly earlier other usable allowed := by
    rw [estimate] at notEarly
    rw [setting.modeAt, demand.mayUse] at usable
    rw [setting.modeAt, allows_iff setting demand settled] at allowed
    exact resolves.least sooner notEarly earlier other usable allowed
  preferred unpinned := by
    -- The runways are ranked alike, and the same ones of them are suitable.
    simp only [setting.modeAt, demand.aircraft, demand.fixIdentifier,
      allows_iff setting demand settled]
    exact resolves.preferred (demand.runwayPinned.symm.trans unpinned)
  boundary change planned := resolves.boundary change (setting.modeChange.symm.trans planned)

end Scheduler

end ArrivalManager
