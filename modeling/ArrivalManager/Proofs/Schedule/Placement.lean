import ArrivalManager.Proofs.Schedule.Spacing

/-! Where a pass places the flights that it resolves: never needlessly late, and in the right mode. -/

namespace ArrivalManager.Scheduler

variable {scheduler : Scheduler} {sequence : Sequence} {turns : List Turn} {turn : Turn}
  {runway : String} {outcome : Outcome Sequence Unit}

/-- A placement that delays a flight no more than needed, on the best of its runways. -/
structure Timely (scheduler : Scheduler) (sequence : Sequence) (turn : Turn) (runway : String) :
    Prop where
  assigned : turn.result.runway = some runway
  mayUse : turn.flight.MayUse (sequence.modeAt turn.result.landing.scheduled) runway
  allowed : scheduler.Allows sequence turn.flight turn.landings
    (sequence.modeAt turn.result.landing.scheduled) runway turn.result.landing.scheduled
  /-- Every earlier time is obstructed, on every runway that the flight may use at that time. -/
  obstructed : ∀ sooner, turn.flight.landing.estimate ≤ sooner →
    sooner < turn.result.landing.scheduled →
    ∀ other, turn.flight.MayUse (sequence.modeAt sooner) other →
      (scheduler.approach sequence.airport.identifier turn.flight (sequence.modeAt sooner)
        other).Obstructed turn.landings (sequence.blockoutsFor other) sooner
  /-- A flight that is not pinned gets the first preference among the runways that allow its time. -/
  preferred : turn.flight.runwayPinned = false → ∃ chosen, chosen.identifier = runway ∧
    Preferred (sequence.modeAt turn.result.landing.scheduled).runways turn.flight.aircraft
      turn.flight.fixIdentifier
      (fun other => scheduler.Allows sequence turn.flight turn.landings
        (sequence.modeAt turn.result.landing.scheduled) other.identifier
        turn.result.landing.scheduled) chosen

/-- What a turn commits is timely. -/
theorem Commits.timely (commits : scheduler.Commits sequence turn runway) :
    scheduler.Timely sequence turn runway where
  assigned := commits.assigned
  mayUse := commits.resolves.mayUse
  allowed := commits.resolves.allowed
  -- No earlier time was allowed, and what is not allowed is obstructed.
  obstructed sooner notEarly earlier other usable :=
    Approach.not_permits_iff.mp (commits.resolves.least sooner notEarly earlier other usable)
  preferred := commits.resolves.preferred

/-- A flight that a pass resolves is not delayed without need. -/
theorem schedule_timely (passed : scheduler.schedule sequence = .ok outcome) :
    ∃ turns, scheduler.Pass sequence outcome turns ∧
      ∀ turn ∈ turns, turn.flight.Resolvable → turn.handled.failure = none →
        ∃ runway, scheduler.Timely sequence turn runway := by
  obtain ⟨turns, pass⟩ := exists_pass passed
  refine ⟨turns, pass, fun turn member resolvable succeeds => ?_⟩
  obtain ⟨runway, commits⟩ := pass.commits member resolvable succeeds
  exact ⟨runway, commits.timely⟩

/-- The only flight that waits at a pair is resolved without needless delay. -/
theorem schedule_timely_samplePair :
    ∃ outcome, sample.schedule .samplePair = .ok outcome ∧
      ∃ (turn : Turn) (runway : String), turn.flight = .sampleArrival
        ∧ turn.result ∈ outcome.after.flights ∧ sample.Timely .samplePair turn runway := by
  obtain ⟨outcome, passed, answered⟩ : sample.Succeeds .samplePair := by decide +kernel
  obtain ⟨turns, pass, timely⟩ := schedule_timely passed
  obtain ⟨turn, member, named, resolvable, succeeds⟩ := pass.turn_of_samplePair answered
  obtain ⟨runway, timely⟩ := timely turn member resolvable succeeds
  exact ⟨outcome, passed, turn, runway, named, pass.mem_after.mpr (.inr ⟨turn, member, rfl⟩), timely⟩

/-- A flight as it is placed on a runway of a sequence, around slots, fixed flights and modes. -/
structure Placed (sequence : Sequence) (before after : Flight) (runway : String) : Prop where
  assigned : after.runway = some runway
  notEarly : before.landing.estimate ≤ after.landing.scheduled
  outsideSlots : ∀ slot ∈ sequence.slots, slot.appliesTo runway = true →
    slot.period.contains after.landing.scheduled = false
  outsideChangeover : ∀ change ∈ sequence.modeChange, ∀ window ∈ change.changeover,
    window.contains after.landing.scheduled = false
  behindFixed : ∀ other ∈ sequence.flights, other.state.positionIsFixed = true →
    other.runway = some runway → other.landing.scheduled ≤ after.landing.scheduled
  /-- A runway that is pinned is one that the flight may use in any mode. -/
  inOnlyMode : sequence.modeChange = none → before.MayUse sequence.mode runway
  inEitherMode : ∀ change ∈ sequence.modeChange,
    after.landing.scheduled < change.lastLanding ∧ before.MayUse sequence.mode runway
      ∨ change.firstLanding ≤ after.landing.scheduled ∧ before.MayUse change.mode runway
  fixFollows : FixFollows (after.landing.scheduled.since before.landing.estimate) before.fix after.fix
  flow : after.flow = .reduceSpeed
    ↔ before.aircraft.jet = true ∧ before.landing.estimate < after.landing.scheduled

/-- What a turn commits is placed as it should be. -/
theorem Commits.placed (commits : scheduler.Commits sequence turn runway)
    (pass : scheduler.Pass sequence outcome turns) (member : turn ∈ turns) :
    Placed sequence turn.flight turn.result runway := by
  have resolves := commits.resolves
  have unblocked := resolves.allowed.unblocked
  refine ⟨commits.assigned, resolves.notEarly, ?_, ?_, ?_, ?_, ?_, commits.fixFollows, ?_⟩
  · -- The slots that apply to the runway are among its windows, and so is the changeover.
    intro slot listed applies
    refine unblocked slot.period (List.mem_append_left _ (List.mem_map_of_mem ?_))
    exact List.mem_filter.mpr ⟨listed, applies⟩
  · intro change planned window lasts
    refine unblocked window (List.mem_append_right _ ?_)
    simp [Option.mem_def.mp planned, Option.mem_def.mp lasts]
  · intro other tracked fixed lands
    -- A flight that is fixed keeps its landing, which is settled before the first turn.
    have anchored := FlightState.isAnchored_of_positionIsFixed fixed
    have settled := pass.anchor_mem_landings member tracked anchored (by
      rw [Flight.landingOnRunway, lands]
      rfl)
    exact resolves.allowed.behindFixed _ settled fixed rfl
  · intro unplanned
    exact Sequence.modeAt_unplanned unplanned _ ▸ resolves.mayUse
  · -- The landing falls before the last time of one mode or from the first time of the other on.
    intro change planned
    have usable := resolves.mayUse
    rcases resolves.boundary change planned with before | after
    · rw [Sequence.modeAt_before planned (before.trans_le change.last_le_first)] at usable
      exact .inl ⟨before, usable⟩
    · rw [Sequence.modeAt_from planned after] at usable
      exact .inr ⟨after, usable⟩
  · -- Speed is reduced exactly under the condition under which it is restricted.
    rw [commits.flow]
    unfold flowFor
    split
    · rename_i slowed
      simpa using slowed
    · rename_i kept
      simpa using kept

/-- A flight that a pass resolves is placed outside all windows, behind fixed flights, and in a mode. -/
theorem schedule_placed (passed : scheduler.schedule sequence = .ok outcome) :
    ∃ turns, scheduler.Pass sequence outcome turns ∧
      ∀ turn ∈ turns, turn.flight.Resolvable → turn.handled.failure = none →
        ∃ runway, Placed sequence turn.flight turn.result runway := by
  obtain ⟨turns, pass⟩ := exists_pass passed
  refine ⟨turns, pass, fun turn member resolvable succeeds => ?_⟩
  obtain ⟨runway, commits⟩ := pass.commits member resolvable succeeds
  exact ⟨runway, commits.placed pass member⟩

/-- The only flight that waits at a pair is placed. -/
theorem schedule_placed_samplePair :
    ∃ outcome, sample.schedule .samplePair = .ok outcome ∧
      ∃ (turn : Turn) (runway : String), turn.flight = .sampleArrival
        ∧ turn.result ∈ outcome.after.flights ∧ Placed .samplePair turn.flight turn.result runway := by
  obtain ⟨outcome, passed, answered⟩ : sample.Succeeds .samplePair := by decide +kernel
  obtain ⟨turns, pass, placed⟩ := schedule_placed passed
  obtain ⟨turn, member, named, resolvable, succeeds⟩ := pass.turn_of_samplePair answered
  obtain ⟨runway, placed⟩ := placed turn member resolvable succeeds
  exact ⟨outcome, passed, turn, runway, named, pass.mem_after.mpr (.inr ⟨turn, member, rfl⟩), placed⟩

end ArrivalManager.Scheduler
