import ArrivalManager.Lookup.Table
import ArrivalManager.Proofs.Flight
import ArrivalManager.Proofs.Schedule.Conflict
import ArrivalManager.Schedule

/-! Flights that keep their distance: the relation holds both ways round, and outlasts new data. -/

namespace ArrivalManager

/-- The landing of a flight on a runway. -/
def Flight.landingOn (flight : Flight) (runway : String) : Landing :=
  { callsign := flight.callsign
    aircraft := flight.aircraft
    runway
    fix := flight.fixIdentifier
    time := flight.landing.scheduled
    positionIsFixed := flight.state.positionIsFixed }

/-- A flight lands exactly if it has a runway, and then on that one. -/
theorem Flight.landingOnRunway_eq_some {flight : Flight} {landing : Landing} :
    flight.landingOnRunway = some landing
      ↔ ∃ runway, flight.runway = some runway ∧ flight.landingOn runway = landing :=
  Option.map_eq_some_iff

/-- Landings that agree in aircraft, runway, fix and time need the same distance. -/
theorem Approach.ClearOf.congr {approach : Approach} {left right : Landing} {time : Instant}
    (clear : approach.ClearOf left time) (aircraft : left.aircraft = right.aircraft)
    (runway : left.runway = right.runway) (fix : left.fix = right.fix)
    (same : left.time = right.time) : approach.ClearOf right time := by
  have raised : approach.raised left = approach.raised right := by
    funext separation
    simp only [Approach.raised, runway, fix]
  have behind : approach.spacingBehind left = approach.spacingBehind right := by
    simp only [spacingBehind, aircraft, runway, raised]
  have ahead : approach.spacingAhead left = approach.spacingAhead right := by
    simp only [spacingAhead, aircraft, runway, raised]
  exact ⟨same ▸ behind ▸ clear.behind, same ▸ ahead ▸ clear.ahead⟩

namespace Scheduler

variable {scheduler : Scheduler} {flight other after neighbour : Flight} {mode : RunwayMode}
  {airport runway otherRunway : String}

/-- To the search, flights of one aircraft and one fix are alike. -/
theorem approach_congr (aircraft : flight.aircraft = other.aircraft)
    (fix : flight.fixIdentifier = other.fixIdentifier) :
    scheduler.approach airport flight mode runway = scheduler.approach airport other mode runway := by
  simp only [approach, aircraft, fix]

/-- A flight keeps the spacings of a mode to the landing of another one, if both have a runway. -/
def Separates (scheduler : Scheduler) (airport : String) (mode : RunwayMode)
    (flight other : Flight) : Prop :=
  ∀ runway, flight.runway = some runway → ∀ landing, other.landingOnRunway = some landing →
    (scheduler.approach airport flight mode runway).ClearOf landing flight.landing.scheduled

/-- Intervals between arrivals that are the same for every aircraft. -/
def Uniform (scheduler : Scheduler) : Prop :=
  ∀ airport fix runway left right, scheduler.arrivals.arrivalInterval airport fix runway left
    = scheduler.arrivals.arrivalInterval airport fix runway right

/-- The intervals of a table are the same for every aircraft. -/
theorem uniform_of_table {table : ArrivalTable} (tabled : scheduler.arrivals = table.lookup) :
    scheduler.Uniform := by
  intro airport fix runway left right
  rw [tabled]
  rfl

/-- A spacing to another flight is raised to the interval of what both have in common. -/
theorem raised_landingOn (scheduler : Scheduler) (airport : String) (mode : RunwayMode)
    (flight other : Flight) (runway otherRunway : String) (separation : Duration) :
    (scheduler.approach airport flight mode runway).raised (other.landingOn otherRunway) separation
      = match flight.fixIdentifier.bind fun fix =>
            scheduler.arrivals.arrivalInterval airport fix runway flight.aircraft with
        | some interval =>
          if otherRunway = runway ∧ other.fixIdentifier = flight.fixIdentifier then
            max separation interval
          else separation
        | none => separation := rfl

/-- The interval that raises a spacing is the same from the side of either flight. -/
theorem raised_comm (uniform : scheduler.Uniform) (airport : String) (mode : RunwayMode)
    (flight other : Flight) (runway otherRunway : String) :
    (scheduler.approach airport flight mode runway).raised (other.landingOn otherRunway)
      = (scheduler.approach airport other mode otherRunway).raised (flight.landingOn runway) := by
  funext separation
  rw [raised_landingOn, raised_landingOn]
  by_cases shared : otherRunway = runway ∧ other.fixIdentifier = flight.fixIdentifier
  · -- With runway and fix in common, both look up the same interval.
    obtain ⟨rfl, sameFix⟩ := shared
    rw [sameFix]
    cases flight.fixIdentifier with
    | none => rfl
    | some fix =>
      simp only [Option.bind_some, and_self, if_true]
      rw [uniform airport fix otherRunway flight.aircraft other.aircraft]
  · have reverse : ¬ (runway = otherRunway ∧ flight.fixIdentifier = other.fixIdentifier) :=
      fun same => shared ⟨same.1.symm, same.2.symm⟩
    simp only [if_neg shared, if_neg reverse]
    split <;> split <;> rfl

namespace Separates

/-- With their runways known, the flight keeps clear of the other one's landing. -/
theorem clear (separates : scheduler.Separates airport mode flight other)
    (assigned : flight.runway = some runway) (placed : other.runway = some otherRunway) :
    (scheduler.approach airport flight mode runway).ClearOf (other.landingOn otherRunway)
      flight.landing.scheduled :=
  separates runway assigned _ (Flight.landingOnRunway_eq_some.mpr ⟨otherRunway, placed, rfl⟩)

/-- A flight that keeps its distance from another one is kept at a distance by it. -/
theorem symm (separates : scheduler.Separates airport mode flight other)
    (uniform : scheduler.Uniform) : scheduler.Separates airport mode other flight := by
  intro otherRunway placed landing lands
  obtain ⟨runway, assigned, rfl⟩ := Flight.landingOnRunway_eq_some.mp lands
  -- Both flights have runways, so there is a landing to keep clear of.
  have clear := separates.clear assigned placed
  have same := raised_comm uniform airport mode flight other runway otherRunway
  -- What one of them keeps behind the other is what that one keeps ahead of it.
  have behind : (scheduler.approach airport other mode otherRunway).spacingBehind
      (flight.landingOn runway) = (scheduler.approach airport flight mode runway).spacingAhead
        (other.landingOn otherRunway) := by
    simp only [Approach.spacingBehind, Approach.spacingAhead, same]
    rfl
  have ahead : (scheduler.approach airport other mode otherRunway).spacingAhead
      (flight.landingOn runway) = (scheduler.approach airport flight mode runway).spacingBehind
        (other.landingOn otherRunway) := by
    simp only [Approach.spacingBehind, Approach.spacingAhead, same]
    rfl
  refine ⟨fun leads spacing needed => ?_, fun trails spacing needed => ?_⟩
  · exact clear.ahead leads spacing (behind ▸ needed)
  · exact clear.behind trails spacing (ahead ▸ needed)

/-- New data of flights with a runway leaves them at their distance. -/
theorem keeps (separates : scheduler.Separates airport mode flight other)
    (first : flight.Keeps after) (second : other.Keeps neighbour)
    (assigned : flight.runway = some runway) (placed : other.runway = some otherRunway) :
    scheduler.Separates airport mode after neighbour := by
  intro name named landing lands
  obtain ⟨place, found, rfl⟩ := Flight.landingOnRunway_eq_some.mp lands
  obtain rfl : runway = name := Option.some.inj ((first.runway_eq assigned).symm.trans named)
  obtain rfl : otherRunway = place := Option.some.inj ((second.runway_eq placed).symm.trans found)
  -- Neither the search nor the landing depends on anything that new data changes.
  rw [approach_congr first.aircraft first.fixIdentifier, first.scheduled]
  exact (separates.clear assigned placed).congr second.aircraft.symm rfl second.fixIdentifier.symm
    second.scheduled.symm

end Separates

end Scheduler

/-- A leader and its trailer on runways of a mode, with every distance that is asked for between them. -/
structure InTrail (rule : SeparationRule) (table : ArrivalTable) (airport : String)
    (mode : RunwayMode) (leader trailer : Flight) (ahead behind : Runway) : Prop where
  leads : leader.runway = some ahead.identifier
  trails : trailer.runway = some behind.identifier
  aheadUsed : mode.runway ahead.identifier = some ahead
  behindUsed : mode.runway behind.identifier = some behind
  required : ∀ spacing, requiredSeparation rule mode leader.aircraft ahead.identifier
      trailer.aircraft behind.identifier = some spacing →
    spacing ≤ trailer.landing.scheduled.since leader.landing.scheduled
  rate : ahead.identifier = behind.identifier →
    ahead.landingRate ≤ trailer.landing.scheduled.since leader.landing.scheduled
  wake : ahead.identifier = behind.identifier →
    ∀ needed, rule leader.aircraft trailer.aircraft mode = some needed →
      needed ≤ trailer.landing.scheduled.since leader.landing.scheduled
  interval : ahead.identifier = behind.identifier → leader.fixIdentifier = trailer.fixIdentifier →
    ∀ fix, trailer.fixIdentifier = some fix →
      ∀ interval, table.intervals.find? ⟨airport, fix, behind.identifier⟩ = some interval →
        interval ≤ trailer.landing.scheduled.since leader.landing.scheduled
  /-- The stagger that the trailer's runway asks for, or else the one that the leader's does. -/
  dependency : ahead.identifier ≠ behind.identifier →
    ∀ dependency, (behind.dependencyOn ahead.identifier).or (ahead.dependencyOn behind.identifier)
        = some dependency →
      dependency.separation ≤ trailer.landing.scheduled.since leader.landing.scheduled

/-- A trailer that keeps its distance keeps each of the distances that are asked for. -/
theorem Scheduler.Separates.inTrail {scheduler : Scheduler} {table : ArrivalTable} {airport : String}
    {mode : RunwayMode} {leader trailer : Flight} {ahead behind : Runway}
    (separates : scheduler.Separates airport mode trailer leader)
    (tabled : scheduler.arrivals = table.lookup)
    (leads : leader.runway = some ahead.identifier) (trails : trailer.runway = some behind.identifier)
    (aheadUsed : mode.runway ahead.identifier = some ahead)
    (behindUsed : mode.runway behind.identifier = some behind)
    (order : leader.landing.scheduled ≤ trailer.landing.scheduled) :
    InTrail scheduler.rule table airport mode leader trailer ahead behind := by
  have clear := separates.clear trails leads
  -- The distance that is kept is the required one, raised to the interval in common.
  have raised (separation : Duration)
      (needed : requiredSeparation scheduler.rule mode leader.aircraft ahead.identifier
        trailer.aircraft behind.identifier = some separation) :
      (scheduler.approach airport trailer mode behind.identifier).raised
          (leader.landingOn ahead.identifier) separation
        ≤ trailer.landing.scheduled.since leader.landing.scheduled :=
    clear.behind order _ (Option.map_eq_some_iff.mpr ⟨separation, needed, rfl⟩)
  have required (separation : Duration)
      (needed : requiredSeparation scheduler.rule mode leader.aircraft ahead.identifier
        trailer.aircraft behind.identifier = some separation) :
      separation ≤ trailer.landing.scheduled.since leader.landing.scheduled :=
    (Approach.le_raised _ _ _).trans (raised separation needed)
  -- On one runway some distance is always required, and the rate and the rule are part of it.
  have shared (same : ahead.identifier = behind.identifier) :
      ∃ spacing, requiredSeparation scheduler.rule mode leader.aircraft ahead.identifier
          trailer.aircraft behind.identifier = some spacing
        ∧ ahead.landingRate ≤ spacing ∧ leastSeparation ≤ spacing
        ∧ ∀ needed, scheduler.rule leader.aircraft trailer.aircraft mode = some needed →
          needed ≤ spacing := by
    rw [← same]
    exact requiredSeparation_same scheduler.rule leader.aircraft trailer.aircraft aheadUsed
  refine ⟨leads, trails, aheadUsed, behindUsed, required, fun same => ?_, fun same needed ruled => ?_,
    fun same fixes fix named interval listed => ?_, fun differ dependency asked => ?_⟩
  · -- The landing rate is part of the distance on one runway.
    obtain ⟨spacing, needed, rate, _⟩ := shared same
    exact rate.trans (required spacing needed)
  · -- So is the distance of the rule.
    obtain ⟨spacing, asked, _, _, wake⟩ := shared same
    exact (wake needed ruled).trans (required spacing asked)
  · -- The interval in common raises the distance that is kept.
    obtain ⟨spacing, needed, _⟩ := shared same
    have distance := raised spacing needed
    have looked : scheduler.arrivals.arrivalInterval airport fix behind.identifier trailer.aircraft
        = some interval := by
      rw [tabled]
      exact listed
    rw [Scheduler.raised_landingOn, named, Option.bind_some, looked] at distance
    simp only [same, fixes, named, and_self, if_true] at distance
    exact (le_max_right _ _).trans distance
  · -- On two runways, the required spacing is the stagger or longer.
    refine (le_max_left dependency.separation leastSeparation).trans (required _ ?_)
    rw [requiredSeparation_cross differ aheadUsed behindUsed, asked]
    rfl

end ArrivalManager
