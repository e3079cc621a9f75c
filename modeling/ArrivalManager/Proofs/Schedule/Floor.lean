import ArrivalManager.Proofs.Schedule.Spacing

/-! The least spacing: computed in every case but one, and kept by a pass where it is computed. -/

namespace ArrivalManager

variable {rule : SeparationRule} {mode : RunwayMode} {leader trailer : Aircraft}
  {leaderRunway trailerRunway : String} {spacing : Duration}

/-- A spacing is below the least one exactly if the mode's own spacing is, and that is what applies. -/
theorem requiredSeparation_least_iff (needed : requiredSeparation rule mode leader leaderRunway
      trailer trailerRunway = some spacing) :
    leastSeparation ≤ spacing
      ↔ (mode.contains leaderRunway = true ∧ mode.contains trailerRunway = true)
        ∨ leastSeparation ≤ mode.offModeSeparation := by
  by_cases inside : mode.contains leaderRunway = true ∧ mode.contains trailerRunway = true
  · exact iff_of_true (requiredSeparation_inside inside.1 inside.2 needed) (.inl inside)
  · -- With one of the runways outside, the mode's own spacing is not raised to anything.
    have outside : mode.runway leaderRunway = none ∨ mode.runway trailerRunway = none := by
      simpa [RunwayMode.contains, -not_and, not_and_or] using inside
    rw [requiredSeparation_off_mode outside] at needed
    obtain rfl := Option.some.inj needed
    simp only [inside, false_or]

/-- What landings on one runway keep at least: the least spacing, or outside the mode the mode's own. -/
def RunwayMode.floor (mode : RunwayMode) (runway : String) : Duration :=
  if mode.contains runway then leastSeparation else mode.offModeSeparation

/-- On one runway, a spacing is always needed, and it is no shorter than the floor. -/
theorem requiredSeparation_floor (rule : SeparationRule) (mode : RunwayMode)
    (leader trailer : Aircraft) (runway : String) :
    ∃ spacing, requiredSeparation rule mode leader runway trailer runway = some spacing
      ∧ mode.floor runway ≤ spacing := by
  unfold RunwayMode.floor RunwayMode.contains
  -- The mode's own spacing applies as it is, and any other one is raised to the least.
  cases used : mode.runway runway with
  | none => exact ⟨_, requiredSeparation_off_mode (.inl used), le_rfl⟩
  | some found =>
    obtain ⟨spacing, needed, _, least, _⟩ := requiredSeparation_same rule leader trailer used
    exact ⟨spacing, needed, least⟩

/-- Two times that lie at least a span apart, whichever of them comes first. -/
def Instant.Apart (left right : Instant) (span : Duration) : Prop :=
  (left ≤ right → span ≤ right.since left) ∧ (right ≤ left → span ≤ left.since right)

/-- A landing that is clear of another one on its runway keeps the floor to it. -/
theorem Approach.ClearOf.apart {approach : Approach} {other : Landing} {time : Instant}
    (clear : approach.ClearOf other time) (same : other.runway = approach.runway) :
    time.Apart other.time (approach.mode.floor approach.runway) := by
  constructor
  · intro trails
    obtain ⟨spacing, needed, least⟩ := requiredSeparation_floor approach.rule approach.mode
      approach.aircraft other.aircraft approach.runway
    have ahead := clear.ahead trails _ (by rw [spacingAhead, same, needed]; rfl)
    -- An interval between arrivals only makes the distance longer.
    exact (least.trans (approach.le_raised other spacing)).trans ahead
  · intro leads
    obtain ⟨spacing, needed, least⟩ := requiredSeparation_floor approach.rule approach.mode
      other.aircraft approach.aircraft approach.runway
    have behind := clear.behind leads _ (by rw [spacingBehind, same, needed]; rfl)
    exact (least.trans (approach.le_raised other spacing)).trans behind

namespace Scheduler

/--
The least spacing holds wherever both runways belong to the mode.

With a runway outside the mode, it holds exactly if the mode's own spacing is no shorter.
A pass that succeeds commits every flight that it resolves at that distance from all landings that
were settled on its runway.
-/
theorem schedule_floored (scheduler : Scheduler) (sequence : Sequence) :
    (∀ mode leader leaderRunway trailer trailerRunway spacing,
      requiredSeparation scheduler.rule mode leader leaderRunway trailer trailerRunway
        = some spacing →
      (leastSeparation ≤ spacing
        ↔ (mode.contains leaderRunway = true ∧ mode.contains trailerRunway = true)
          ∨ leastSeparation ≤ mode.offModeSeparation))
    ∧ ∀ outcome, scheduler.schedule sequence = .ok outcome → outcome.answer = .ok () →
      ∃ turns, scheduler.Pass sequence outcome turns ∧
        ∀ turn ∈ turns, turn.flight.Resolvable →
          ∃ runway, turn.result.runway = some runway ∧
            ∀ landing ∈ turn.landings, landing.runway = runway →
              turn.result.landing.scheduled.Apart landing.time
                ((sequence.modeAt turn.result.landing.scheduled).floor runway) := by
  constructor
  · intro mode leader leaderRunway trailer trailerRunway spacing needed
    exact requiredSeparation_least_iff needed
  · intro outcome passed answered
    obtain ⟨turns, pass⟩ := exists_pass passed
    refine ⟨turns, pass, fun turn member resolvable => ?_⟩
    -- The pass answers no refusal, so this turn commits a landing.
    obtain ⟨runway, commits⟩ :=
      pass.commits member resolvable (pass.answer_eq_ok.mp answered turn member)
    refine ⟨runway, commits.assigned, fun landing settled same => ?_⟩
    -- What the landing is clear of includes the anchors and all turns before.
    exact (commits.resolves.allowed.clear landing settled).apart same

/-- The turns that a pass is made of are those that are worked out for the flights that wait. -/
theorem pass_of_turnsFrom {scheduler : Scheduler} {sequence : Sequence}
    {outcome : Outcome Sequence Unit} {turns : List Turn}
    (passed : scheduler.schedule sequence = .ok outcome)
    (found : turns ∈ (scheduler.turnsFrom sequence (anchors sequence.flights)
      (waiting sequence.flights)).toOption) : scheduler.Pass sequence outcome turns := by
  obtain ⟨known, taken, pass⟩ := exists_turns passed
  rw [taken] at found
  obtain rfl := Option.some.inj found
  exact pass

/-- The flight that waits at a pair lands at least half a minute from the one on its runway. -/
theorem schedule_floored_samplePair :
    ∃ outcome, sample.schedule .samplePair = .ok outcome ∧ outcome.answer = .ok ()
      ∧ ∃ landed ∈ outcome.after.flights, landed.callsign = "VOZ2" ∧ landed.runway = some "34L"
        ∧ landed.landing.scheduled.Apart Flight.sampleAnchor.landing.scheduled leastSeparation := by
  obtain ⟨outcome, passed, answered⟩ : sample.Succeeds .samplePair := by decide +kernel
  obtain ⟨turns, pass, floored⟩ := (schedule_floored sample .samplePair).2 outcome passed answered
  obtain ⟨turn, member, named, resolvable, _⟩ := pass.turn_of_samplePair answered
  obtain ⟨runway, assigned, apart⟩ := floored turn member resolvable
  -- The turns that are worked out lead to the same flight, which is on the only runway in use.
  obtain ⟨known, found, worked, listed, who, result, north⟩ :
      ∃ turns ∈ (sample.turnsFrom .samplePair (anchors Sequence.samplePair.flights)
          (waiting Sequence.samplePair.flights)).toOption,
        ∃ turn ∈ turns, turn.flight.callsign = "VOZ2" ∧ turn.result.callsign = "VOZ2"
          ∧ turn.result.runway = some "34L" := by
    decide +kernel
  -- A pass has one result for each callsign.
  have distinct : DistinctCallsigns Sequence.samplePair.flights := by decide
  have one := pass.flight?_result distinct member
  rw [named] at one
  have two := (pass_of_turnsFrom passed found).flight?_result distinct listed
  rw [who] at two
  have same : turn.result = worked.result := Option.some.inj (one.symm.trans two)
  obtain rfl : runway = "34L" := by simpa [same, north] using assigned.symm
  refine ⟨outcome, passed, answered, turn.result, pass.mem_after.mpr (.inr ⟨turn, member, rfl⟩),
    same ▸ result, assigned, ?_⟩
  exact apart (Flight.sampleAnchor.landingOn "34L")
    (pass.anchor_mem_landings member List.mem_cons_self rfl rfl) rfl

/-- Landings to the north, with ten seconds between landings when one is on another runway. -/
def closeMode : RunwayMode := { singleMode with offModeSeparation := .ofSeconds 10 }

/-- A flight that keeps its landing on a runway to the south, and one that is to land there too. -/
def sampleOffMode : Sequence :=
  { Sequence.samplePair with
    mode := closeMode
    flights := [
      { Flight.sampleAnchor with assignment := some ⟨"16R", true⟩ },
      { Flight.sampleArrival with assignment := some ⟨"16R", true⟩ }] }

/-- On a runway outside the mode, landings are committed ten seconds apart. -/
theorem schedule_unfloored_sampleOffMode :
    requiredSeparation sample.rule closeMode Flight.sampleAnchor.aircraft "16R"
        Flight.sampleArrival.aircraft "16R" = some (.ofSeconds 10)
      ∧ Duration.ofSeconds 10 < leastSeparation
      ∧ ∃ outcome, sample.schedule sampleOffMode = .ok outcome ∧ outcome.answer = .ok ()
        ∧ ∃ landed ∈ outcome.after.flights, ∃ neighbour ∈ outcome.after.flights,
          landed.runway = some "16R" ∧ neighbour.runway = some "16R"
          ∧ landed.landing.scheduled.since neighbour.landing.scheduled = .ofSeconds 10 := by
  refine ⟨by decide, by decide, ?_⟩
  obtain ⟨outcome, passed, answered⟩ : sample.Succeeds sampleOffMode := by decide +kernel
  obtain ⟨turns, found, turn, member, runway, apart⟩ :
      ∃ turns ∈ (sample.turnsFrom sampleOffMode (anchors sampleOffMode.flights)
          (waiting sampleOffMode.flights)).toOption,
        ∃ turn ∈ turns, turn.result.runway = some "16R"
          ∧ turn.result.landing.scheduled.since .epoch = .ofSeconds 10 := by
    decide +kernel
  have pass := pass_of_turnsFrom passed found
  -- The other flight keeps its landing, so it comes out of the pass as it went in.
  exact ⟨outcome, passed, answered, turn.result, pass.mem_after.mpr (.inr ⟨turn, member, rfl⟩), _,
    pass.mem_after.mpr (.inl ⟨List.mem_cons_self, rfl⟩), runway, rfl, apart⟩

end Scheduler

end ArrivalManager
