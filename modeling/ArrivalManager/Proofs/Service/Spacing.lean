import ArrivalManager.Proofs.Schedule.Orderly
import ArrivalManager.Proofs.Service.Routine
import ArrivalManager.Proofs.Service.Run

/-! Over whole runs of routine commands, all tracked flights keep their distance. -/

namespace ArrivalManager

/-- Whether a pass reported that no landing time was found for a flight. -/
def Reply.isUnsatisfiable (reply : Reply) : Bool :=
  match reply.answer with
  | .error refusal => refusal.isUnsatisfiable
  | .ok _ => false

namespace Service

variable {service : Service} {airport : Airport} {registry start reached : Registry}
  {sequence : Sequence}

/-- A call that is no concern of an airport, or is routine there and leaves no flight unscheduled. -/
def RoutineAt (airport : String) (call : Call) (reply : Reply) : Prop :=
  call.airport = airport → call.command.isRoutine = true ∧ reply.isUnsatisfiable = false

instance (airport : String) (call : Call) (reply : Reply) : Decidable (RoutineAt airport call reply) :=
  inferInstanceAs (Decidable (_ → _))

/-- A pass of which nothing was reported did not fail. -/
theorem answer_of_satisfied {changed : Sequence} {passed : Outcome Sequence Unit} {reply : Reply}
    {slot : Option SlotId} (pass : service.scheduler.schedule changed = .ok passed)
    (answered : reply.answer = passed.answer.map fun _ => slot)
    (satisfied : reply.isUnsatisfiable = false) : passed.answer = .ok () := by
  cases answer : passed.answer with
  | ok _ => rfl
  | error refusal =>
    obtain ⟨turns, turned⟩ := Scheduler.exists_pass pass
    have reported := turned.answer_error answer
    simp [Reply.isUnsatisfiable, answered, answer, Except.map, reported] at satisfied

/-- One routine command keeps the sequence of its airport in order. -/
theorem execution_orderly {name : String} {now : Instant} {command : Command} {reply : Reply}
    (uniform : service.scheduler.Uniform)
    (execution : service.Execution registry name now command reply)
    (routine : command.isRoutine = true) (satisfied : reply.isUnsatisfiable = false)
    (found : registry.sequence? name = some sequence)
    (orderly : service.scheduler.Orderly (fun _ => true) sequence) :
    ∃ after, reply.registry.sequence? name = some after
      ∧ service.scheduler.Orderly (fun _ => true) after := by
  cases execution with
  | unmanaged missing => simp [found] at missing
  | refused misses managed made =>
    obtain rfl := Option.some.inj (found.symm.trans managed)
    exact ⟨_, Registry.replace_sequence?_found found rfl (change_airport made),
      orderly.drops (change_refused made rfl)⟩
  | scheduled misses managed made pass kept =>
    rename_i changed after slot passed
    obtain rfl := Option.some.inj (found.symm.trans managed)
    have answered := answer_of_satisfied pass rfl satisfied
    -- The change leaves kept landings in order, and the pass brings the others into order.
    have ready := orderly.carried (change_carries routine made)
    exact ⟨_, Registry.replace_sequence?_found found rfl (scheduled_airport made pass kept),
      (ready.passed uniform pass answered).drops (kept_drops kept)⟩

/-- A command to another airport leaves the sequence of this one alone. -/
theorem execution_elsewhere {name other : String} {now : Instant} {command : Command} {reply : Reply}
    (execution : service.Execution registry other now command reply) (differ : name ≠ other) :
    reply.registry.sequence? name = registry.sequence? name := by
  cases execution with
  | unmanaged missing => rfl
  | refused misses managed made =>
    refine Registry.replace_sequence?_other ?_
    rw [change_airport made, Registry.sequence?_airport managed]
    exact differ
  | scheduled misses managed made pass kept =>
    refine Registry.replace_sequence?_other ?_
    rw [scheduled_airport made pass kept, Registry.sequence?_airport managed]
    exact differ

/-- A run of routine commands keeps the sequence of a new airport in order. -/
theorem reaches_orderly (uniform : service.scheduler.Uniform)
    (created : registry.create airport = .ok start)
    (run : service.Reaches (RoutineAt airport.identifier) start reached) :
    ∃ sequence, reached.sequence? airport.identifier = some sequence
      ∧ service.scheduler.Orderly (fun _ => true) sequence := by
  -- The invariant of the run is that the sequence of the airport is in order.
  induction run with
  | start =>
    obtain ⟨sequence, founded, found⟩ := Registry.create_sequence? created
    exact ⟨sequence, found, .of_airport founded⟩
  | step _ done admitted ih =>
    rename_i call reply before
    obtain ⟨sequence, found, orderly⟩ := ih
    have execution := execution_of_execute done
    -- A call to another airport does not touch the sequence.
    by_cases here : call.airport = airport.identifier
    · obtain ⟨routine, satisfied⟩ := admitted here
      rw [here] at execution
      exact execution_orderly uniform execution routine satisfied found orderly
    · rw [execution_elsewhere execution (Ne.symm here)]
      exact ⟨sequence, found, orderly⟩

/--
After any run of routine commands, any two tracked flights keep every distance asked for between them.

The run starts with the creation of the airport; no pass of it leaves a flight unscheduled.
-/
theorem reaches_inTrail {table : ArrivalTable} (tabled : service.arrivals = table.lookup)
    (created : registry.create airport = .ok start)
    (run : service.Reaches (RoutineAt airport.identifier) start reached) :
    ∃ sequence, reached.sequence? airport.identifier = some sequence
      ∧ DistinctCallsigns sequence.flights
      ∧ ∀ leader ∈ sequence.flights, ∀ trailer ∈ sequence.flights,
        leader.callsign ≠ trailer.callsign →
        leader.landing.scheduled ≤ trailer.landing.scheduled →
        ∃ ahead behind, InTrail service.rule table airport.identifier sequence.mode leader trailer
          ahead behind := by
  obtain ⟨sequence, found, orderly⟩ :=
    reaches_orderly (Scheduler.uniform_of_table tabled) created run
  refine ⟨sequence, found, ?_, fun leader leads trailer trails differ order => ?_⟩
  · exact (List.sublist_append_left _ _ |>.map _).nodup orderly.distinct
  · -- Each runway is one of the mode, under the name by which it is assigned.
    have used {flight : Flight} (tracked : flight ∈ sequence.flights) :
        ∃ runway : Runway, flight.runway = some runway.identifier
          ∧ sequence.mode.runway runway.identifier = some runway := by
      obtain ⟨name, assigned, contained⟩ := orderly.assigned flight tracked rfl
      obtain ⟨runway, listed⟩ := Option.isSome_iff_exists.mp contained
      have named : runway.identifier = name := by simpa using List.find?_some listed
      exact ⟨runway, named ▸ assigned, named ▸ listed⟩
    obtain ⟨ahead, first, aheadUsed⟩ := used leads
    obtain ⟨behind, second, behindUsed⟩ := used trails
    have separates := orderly.separated trailer trails rfl leader leads rfl (Ne.symm differ)
    rw [Registry.sequence?_airport found] at separates
    exact ⟨ahead, behind, separates.inTrail tabled first second aheadUsed behindUsed order⟩

/-- A service with the sample tables and the standard settings. -/
def sampleStandard : Service :=
  { rule := WakeTable.standard.rule
    performance := PerformanceTable.common.lookup
    fixes := FixTable.sample.lookup
    arrivals := ArrivalTable.sample.lookup
    settings := .standard }

/-- The first data of a flight that is expected to land half an hour after the epoch. -/
def sampleUpdate (callsign typeCode : String) : FlightUpdate :=
  { callsign, typeCode
    origin := none
    destination := "YSSY"
    fix := none
    landing := ⟨1800000000000, by decide, by decide⟩
    arrival := none
    runway := none
    position := none }

/-- Two flights are reported for one landing time, the second one when the first one is stable. -/
def sampleCalls : List Call :=
  let sixMinutes : Instant := ⟨360000000000, by decide, by decide⟩
  [⟨"YSSY", .epoch, .updateFlight (sampleUpdate "QFA1" "B789")⟩,
    ⟨"YSSY", sixMinutes, .recompute⟩,
    ⟨"YSSY", sixMinutes, .updateFlight (sampleUpdate "VOZ2" "B738")⟩]

/-- The two flights keep their distance. -/
theorem reaches_inTrail_sampleCalls :
    ∃ start reached, Registry.empty.create { Airport.sample with modes := [singleMode] } = .ok start
      ∧ sampleStandard.follow (RoutineAt "YSSY") start sampleCalls = some reached
      ∧ ∃ sequence, reached.sequence? "YSSY" = some sequence
        ∧ ∀ leader ∈ sequence.flights, ∀ trailer ∈ sequence.flights,
          leader.callsign ≠ trailer.callsign →
          leader.landing.scheduled ≤ trailer.landing.scheduled →
          ∃ ahead behind, InTrail WakeTable.standard.rule .sample "YSSY" sequence.mode leader trailer
            ahead behind := by
  let airport : Airport := { Airport.sample with modes := [singleMode] }
  obtain ⟨start, created⟩ : ∃ start, Registry.empty.create airport = .ok start := ⟨_, rfl⟩
  obtain ⟨reached, followed⟩ : ∃ reached,
      sampleStandard.follow (RoutineAt "YSSY") start sampleCalls = some reached := by
    cases created
    exact Option.isSome_iff_exists.mp (by decide +kernel)
  have tabled : sampleStandard.arrivals = ArrivalTable.sample.lookup := rfl
  obtain ⟨sequence, found, _, distances⟩ :=
    reaches_inTrail tabled created (reaches_of_follow followed)
  exact ⟨start, reached, created, followed, sequence, found, distances⟩

end Service

end ArrivalManager
