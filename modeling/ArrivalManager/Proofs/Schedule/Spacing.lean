import ArrivalManager.Proofs.Schedule.Pass
import ArrivalManager.Proofs.Schedule.Trail
import ArrivalManager.SampleAirport

/-! A pass keeps every flight that it resolves at its distance from what was settled before. -/

namespace ArrivalManager.Scheduler

variable {scheduler : Scheduler} {sequence : Sequence} {flight other : Flight} {turns : List Turn}
  {turn : Turn} {outcome : Outcome Sequence Unit} {runway : String}

/-- A flight that is resolved keeps its distance from all that is settled before its turn. -/
theorem Commits.separates (commits : scheduler.Commits sequence turn runway)
    (pass : scheduler.Pass sequence outcome turns) (member : turn ∈ turns)
    (settled : ∀ landing, other.landingOnRunway = some landing → landing ∈ turn.landings) :
    scheduler.Separates sequence.airport.identifier
      (sequence.modeAt turn.result.landing.scheduled) turn.result other := by
  intro assigned same landing lands
  obtain rfl : runway = assigned := Option.some.inj (commits.assigned.symm.trans same)
  obtain ⟨rescheduled, state, result⟩ := pass.result_frame member
  -- A turn changes neither the aircraft nor the fix, and so none of the spacings.
  have aircraft : turn.result.aircraft = turn.flight.aircraft := by
    rw [result]
    exact rescheduled.aircraft
  have fix : turn.result.fixIdentifier = turn.flight.fixIdentifier := by
    rw [result]
    exact rescheduled.fixIdentifier
  rw [approach_congr aircraft fix]
  exact commits.resolves.allowed.clear landing (settled landing lands)

/--
After a pass that answers no refusal, a resolved flight is separated from what was settled before it.

These are the flights that keep their landings and those that come first in pass order; the spacings
are those of the mode in effect when the flight lands.
-/
theorem schedule_separates (distinct : DistinctCallsigns sequence.flights)
    (passed : scheduler.schedule sequence = .ok outcome) (answered : outcome.answer = .ok ())
    (tracked : flight ∈ sequence.flights) (waits : flight.state.isSchedulable = true)
    (resolvable : flight.Resolvable) :
    ∃ landed, outcome.after.flight? flight.callsign = some landed ∧ landed.runway.isSome ∧
      ∀ other ∈ sequence.flights,
        other.state.isAnchored = true
          ∨ other.state.isSchedulable = true ∧ other.passOrder flight = .lt →
        ∃ neighbour, outcome.after.flight? other.callsign = some neighbour ∧
          scheduler.Separates sequence.airport.identifier
            (sequence.modeAt landed.landing.scheduled) landed neighbour := by
  obtain ⟨turns, pass⟩ := exists_pass passed
  obtain ⟨turn, member, rfl⟩ := pass.exists_turn tracked waits
  -- The pass answers no refusal, so this turn commits a landing.
  obtain ⟨runway, commits⟩ :=
    pass.commits member resolvable (pass.answer_eq_ok.mp answered turn member)
  refine ⟨turn.result, pass.flight?_result distinct member, by simp [commits.assigned], ?_⟩
  rintro other listed (anchored | ⟨pending, precedes⟩)
  · -- What keeps its landing is settled from the start and found unchanged.
    have settled := FlightState.isSchedulable_of_anchored anchored
    exact ⟨other, pass.flight?_settled distinct listed settled, commits.separates pass member
      fun landing lands => pass.anchor_mem_landings member listed anchored lands⟩
  · -- What comes first is settled by its own turn.
    obtain ⟨earlier, taken, rfl, settled⟩ := pass.turn_before member listed pending precedes
    refine ⟨earlier.result, pass.flight?_result distinct taken,
      commits.separates pass member fun landing lands => ?_⟩
    exact settled landing (by simpa [Turn.result] using lands)

/-- A pass that schedules every flight that waits. -/
def Succeeds (scheduler : Scheduler) (sequence : Sequence) : Prop :=
  ∃ outcome, scheduler.schedule sequence = .ok outcome ∧ outcome.answer = .ok ()

instance : Decidable (scheduler.Succeeds sequence) :=
  match passed : scheduler.schedule sequence with
  | .error _ => isFalse (by simp [Succeeds, passed])
  | .ok ⟨.ok (), after⟩ => isTrue ⟨⟨.ok (), after⟩, passed, rfl⟩
  | .ok ⟨.error _, _⟩ => isFalse (by simp [Succeeds, passed])

/-- A queue of flights that all get their turns, none of which fails. -/
def Serves (scheduler : Scheduler) (sequence : Sequence) (queue : List Flight) : Prop :=
  ∃ handled, scheduler.handleAll sequence (anchors sequence.flights) queue = .ok handled
    ∧ ∀ entry ∈ handled, entry.failure = none

instance {queue : List Flight} : Decidable (scheduler.Serves sequence queue) :=
  match served : scheduler.handleAll sequence (anchors sequence.flights) queue with
  | .error _ => isFalse (by simp [Serves, served])
  | .ok handled =>
    decidable_of_iff (∀ entry ∈ handled, entry.failure = none) (by simp [Serves, served])

/-- A pass comes to an end if all turns do, and its answer is the first failure in them. -/
theorem exists_outcome {queue : List Flight} {handled : List Handled}
    (waits : waiting sequence.flights = queue)
    (served : scheduler.handleAll sequence (anchors sequence.flights) queue = .ok handled) :
    ∃ outcome, scheduler.schedule sequence = .ok outcome
      ∧ outcome.answer = ((handled.map (·.failure)).findSome? id).elim (.ok ()) .error := by
  subst waits
  refine ⟨_, bind_eq_ok.mpr ⟨handled, served, rfl⟩, ?_⟩
  rw [List.findSome?_map, Function.id_comp]
  cases handled.findSome? (·.failure) <;> rfl

/-- A pass succeeds if it serves the flights that wait. -/
theorem Succeeds.of_serves {queue : List Flight} (serves : scheduler.Serves sequence queue)
    (waits : waiting sequence.flights = queue) : scheduler.Succeeds sequence := by
  obtain ⟨handled, served, none⟩ := serves
  obtain ⟨outcome, passed, answered⟩ := exists_outcome waits served
  refine ⟨outcome, passed, ?_⟩
  -- Without a failure there is no first one.
  rw [answered, List.findSome?_map, Function.id_comp, List.findSome?_eq_none_iff.mpr none]
  rfl

/-- The usual wake separation and the arrivals of the sample airport. -/
def sample : Scheduler := ⟨WakeTable.standard.rule, ArrivalTable.sample.lookup⟩

end Scheduler

/-- Landings to the north on one runway only. -/
def singleMode : RunwayMode := { northMode with runways := [sampleRunway "34L" [] [] ["BOREE"]] }

/-- A flight that keeps its landing on the only runway in use. -/
def Flight.sampleAnchor : Flight :=
  { Flight.inbound "QFA1" ⟨⟨.heavy, true⟩, "B789"⟩ "YSSY" .epoch with
    state := .stable
    assignment := some ⟨"34L", false⟩ }

/-- A flight that is expected when the other one lands. -/
def Flight.sampleArrival : Flight := .inbound "VOZ2" ⟨⟨.medium, true⟩, "B738"⟩ "YSSY" .epoch

/-- Two flights that are expected at one time on one runway. -/
def Sequence.samplePair : Sequence :=
  { airport := .sample
    flights := [.sampleAnchor, .sampleArrival]
    pending := []
    desequenced := []
    retired := []
    slots := []
    mode := singleMode
    modeChange := none }

/-- The flight that is scheduled is separated from the one that keeps its landing. -/
theorem Scheduler.schedule_separates_samplePair :
    ∃ outcome, Scheduler.sample.schedule .samplePair = .ok outcome ∧
      ∃ landed neighbour, outcome.after.flight? "VOZ2" = some landed
        ∧ outcome.after.flight? "QFA1" = some neighbour
        ∧ Scheduler.sample.Separates "YSSY" singleMode landed neighbour := by
  obtain ⟨outcome, passed, answered⟩ : Scheduler.sample.Succeeds .samplePair := by decide +kernel
  have tracked : Flight.sampleArrival ∈ Sequence.samplePair.flights :=
    List.mem_cons_of_mem _ List.mem_cons_self
  obtain ⟨landed, found, _, separated⟩ := Scheduler.schedule_separates (by decide) passed answered
    tracked rfl ⟨rfl, rfl⟩
  obtain ⟨neighbour, kept, apart⟩ := separated .sampleAnchor List.mem_cons_self (.inl rfl)
  exact ⟨outcome, passed, landed, neighbour, found, kept, apart⟩

/-- When a pass of the pair succeeds, it resolves the flight that waits. -/
theorem Scheduler.Pass.turn_of_samplePair {outcome : Outcome Sequence Unit} {turns : List Turn}
    (pass : Scheduler.sample.Pass .samplePair outcome turns) (answered : outcome.answer = .ok ()) :
    ∃ turn ∈ turns, turn.flight = .sampleArrival ∧ turn.flight.Resolvable
      ∧ turn.handled.failure = none := by
  have tracked : Flight.sampleArrival ∈ Sequence.samplePair.flights :=
    List.mem_cons_of_mem _ List.mem_cons_self
  obtain ⟨turn, member, named⟩ := pass.exists_turn tracked rfl
  exact ⟨turn, member, named, by rw [named]; exact ⟨rfl, rfl⟩,
    pass.answer_eq_ok.mp answered turn member⟩

end ArrivalManager
