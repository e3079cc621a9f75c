import ArrivalManager.Proofs.Schedule.Candidates
import ArrivalManager.Proofs.Schedule.Overrun

/-! A flight that can not be scheduled keeps its landing, and the pass goes on around it. -/

namespace ArrivalManager

/-- A turn in which no landing was found for the flight. -/
def Turn.Fails (turn : Turn) : Prop := ∃ refusal, turn.handled.failure = some refusal

/-- A turn that does not fail has no failure to report. -/
theorem Turn.not_fails_iff {turn : Turn} : ¬ turn.Fails ↔ turn.handled.failure = none := by
  simp [Fails, Option.eq_none_iff_forall_ne_some]

namespace Scheduler

variable {scheduler : Scheduler} {sequence : Sequence} {flight : Flight} {landings : List Landing}
  {handled : Handled} {turns : List Turn} {turn : Turn} {outcome : Outcome Sequence Unit}
  {time : Instant} {runway : String} {refusal : Refusal}

/-- A flight is resolved in the mode that is in effect when it lands. -/
theorem resolve_mode (found : scheduler.resolve sequence flight landings = .ok (time, runway)) :
    ∃ earliest, scheduler.bestRunway sequence flight (sequence.modeAt time) earliest landings
      = .ok (time, runway) := by
  unfold resolve at found
  simp only at found
  split at found
  · rename_i unplanned
    rw [Sequence.modeAt_unplanned unplanned]
    exact ⟨_, found⟩
  · rename_i change planned
    split at found
    · -- The flight is expected under the next mode, so it lands under that one.
      rename_i changed
      rw [Sequence.modeAt_from planned (changed.trans (bestRunway_chooses found).notEarly)]
      exact ⟨_, found⟩
    · obtain ⟨current, searched, found⟩ := bind_eq_ok.mp found
      split at found
      · -- The search was taken up again, and not before the next mode begins.
        have late := (le_max_right _ _).trans (bestRunway_chooses found).notEarly
        rw [Sequence.modeAt_from planned late]
        exact ⟨_, found⟩
      · -- The landing falls before the end of the current mode.
        rename_i inTime
        obtain rfl := pure_eq_ok.mp found
        rw [Sequence.modeAt_before planned ((not_le.mp inTime).trans_le change.last_le_first)]
        exact ⟨_, searched⟩

namespace Handling

/-- A turn fails exactly if the flight is one to be resolved, and that is refused. -/
theorem failure_iff (handling : scheduler.Handling sequence landings flight handled) :
    handled.failure = some refusal
      ↔ flight.Resolvable ∧ scheduler.resolve sequence flight landings = .error (.refused refusal) := by
  cases handling with
  | withoutRunway noDelay _ | atEstimate noDelay _ _ => simp [Flight.Resolvable, noDelay]
  | manual _ chosen => simp [Flight.Resolvable, chosen]
  | refused resolvable refused => simp [resolvable, refused]
  | resolved _ resolved _ => simp [resolved]

/-- A turn that fails leaves its flight as it is. -/
theorem of_failure (handling : scheduler.Handling sequence landings flight handled)
    (failed : handled.failure = some refusal) : handled.flight = flight := by
  cases handling with
  | withoutRunway _ _ | manual _ _ | refused _ _ => rfl
  | atEstimate _ _ _ | resolved _ _ _ => cases failed

end Handling

namespace Pass

variable (pass : scheduler.Pass sequence outcome turns)
include pass

/-- A flight whose turn fails is as it was, but for being unstable if it was new. -/
theorem result_of_fails (member : turn ∈ turns) (fails : turn.Fails) :
    turn.result = { turn.flight with state := .unstable } := by
  obtain ⟨refusal, failed⟩ := fails
  rw [pass.result_eq member, (pass.handling turn member).of_failure failed]

/-- A flight that is resolved after one that failed keeps its distance from the landing kept there. -/
theorem separates_of_fails {before between after : List Turn} {failed later : Turn}
    (split : turns = before ++ failed :: (between ++ later :: after)) (fails : failed.Fails)
    (resolvable : later.flight.Resolvable) (succeeds : later.handled.failure = none) :
    scheduler.Separates sequence.airport.identifier
      (sequence.modeAt later.result.landing.scheduled) later.result failed.flight := by
  have here : failed ∈ turns := by simp [split]
  have there : later ∈ turns := by simp [split]
  obtain ⟨runway, commits⟩ := pass.commits there resolvable succeeds
  obtain ⟨refusal, refused⟩ := fails
  have front : turns = (before ++ failed :: between) ++ later :: after := by simp [split]
  refine commits.separates pass there fun landing lands => ?_
  -- The flight that failed settles the landing that it had, as it was left as it is.
  refine pass.mem_landings front (List.mem_append_right _ List.mem_cons_self) ?_
  rwa [(pass.handling failed here).of_failure refused]

/-- A flight that is resolved gets a landing that was chosen in the mode in effect when it lands. -/
theorem result_mode (member : turn ∈ turns) (resolvable : turn.flight.Resolvable)
    (succeeds : turn.handled.failure = none) : ∃ earliest runway, turn.result.runway = some runway
      ∧ scheduler.bestRunway sequence turn.flight (sequence.modeAt turn.result.landing.scheduled)
        earliest turn.landings = .ok (turn.result.landing.scheduled, runway) := by
  obtain ⟨runway, resolved, commits⟩ := pass.resolve_commits member resolvable succeeds
  obtain ⟨earliest, chosen⟩ := resolve_mode resolved
  exact ⟨earliest, runway, commits.assigned, chosen⟩

/-- A pass reports the failure of the first turn that fails. -/
theorem answer_eq_error : outcome.answer = .error refusal
    ↔ ∃ before turn after, turns = before ++ turn :: after
      ∧ (∀ earlier ∈ before, earlier.handled.failure = none)
      ∧ turn.handled.failure = some refusal := by
  have first : outcome.answer = .error refusal
      ↔ turns.findSome? (·.handled.failure) = some refusal := by
    rw [pass.answer]
    cases turns.findSome? (·.handled.failure) <;> simp
  -- What is found first splits the turns: nothing is found in those in front of it.
  rw [first, List.findSome?_eq_some_iff]
  constructor
  · rintro ⟨before, turn, after, split, failed, none⟩
    exact ⟨before, turn, after, split, none, failed⟩
  · rintro ⟨before, turn, after, split, none, failed⟩
    exact ⟨before, turn, after, split, failed, none⟩

end Pass

/--
A pass contains its failures.

A flight for which no landing is found costs nobody else a turn, and nothing that it had.
-/
structure Contains (scheduler : Scheduler) (sequence : Sequence) (outcome : Outcome Sequence Unit)
    (turns : List Turn) : Prop where
  /-- Every flight that waits has its turn, around the landings that those before it got or kept. -/
  turn {flight : Flight} (tracked : flight ∈ sequence.flights)
    (waits : flight.state.isSchedulable = true) :
    ∃ before turn after, turns = before ++ turn :: after ∧ turn.flight = flight
      ∧ turn.landings = anchors sequence.flights
        ++ before.filterMap (·.handled.flight.landingOnRunway)
      ∧ scheduler.handle sequence turn.landings flight = .ok turn.handled
      ∧ outcome.after.flight? flight.callsign = some turn.result
  /-- The turns are taken in pass order. -/
  ordered : turns.map (·.flight) = waiting sequence.flights
  /-- No flight is new after its turn, whether that failed or not. -/
  admits {turn : Turn} (member : turn ∈ turns) : turn.result.state = .unstable
  /-- A turn fails exactly if a landing is looked for and not found. -/
  fails {turn : Turn} {refusal : Refusal} (member : turn ∈ turns) :
    turn.handled.failure = some refusal ↔ turn.flight.Resolvable
      ∧ scheduler.resolve sequence turn.flight turn.landings = .error (.refused refusal)
  /-- A flight whose turn fails keeps its runway, its times and its speed. -/
  keeps {turn : Turn} (member : turn ∈ turns) (failed : turn.Fails) :
    turn.result = { turn.flight with state := .unstable }
  /-- A flight that is resolved is resolved in the mode in effect when it lands. -/
  mode {turn : Turn} (member : turn ∈ turns) (resolvable : turn.flight.Resolvable)
    (succeeds : turn.handled.failure = none) : ∃ earliest runway, turn.result.runway = some runway
      ∧ scheduler.bestRunway sequence turn.flight (sequence.modeAt turn.result.landing.scheduled)
        earliest turn.landings = .ok (turn.result.landing.scheduled, runway)
  /-- In that mode it keeps its distance from every landing that was kept in a turn before it. -/
  spaced {before between after : List Turn} {failed later : Turn}
    (split : turns = before ++ failed :: (between ++ later :: after)) (fails : failed.Fails)
    (resolvable : later.flight.Resolvable) (succeeds : later.handled.failure = none) :
    scheduler.Separates sequence.airport.identifier
      (sequence.modeAt later.result.landing.scheduled) later.result failed.flight
  answers : outcome.answer = .ok () ↔ ∀ turn ∈ turns, ¬ turn.Fails
  /-- Of several failures the first one is reported. -/
  reports {refusal : Refusal} : outcome.answer = .error refusal
    ↔ ∃ before turn after, turns = before ++ turn :: after
      ∧ (∀ earlier ∈ before, ¬ earlier.Fails) ∧ turn.handled.failure = some refusal

/--
A pass contains its failures, whichever flights they are of and however many.

Only a sum of times that leaves the clock keeps the pass from its end.
-/
theorem schedule_contains (distinct : DistinctCallsigns sequence.flights) :
    (∃ overflow, scheduler.schedule sequence = .error overflow ∧ scheduler.LeavesClock sequence overflow) ∨
      ∃ outcome turns, scheduler.schedule sequence = .ok outcome
        ∧ scheduler.Contains sequence outcome turns := by
  cases passed : scheduler.schedule sequence with
  | error overflow => exact .inl ⟨overflow, rfl, schedule_eq_error passed⟩
  | ok outcome =>
    obtain ⟨turns, taken, pass⟩ := exists_turns passed
    refine .inr ⟨outcome, turns, rfl, ?_⟩
    constructor
    case turn =>
      intro flight tracked waits
      obtain ⟨turn, member, rfl⟩ := pass.exists_turn tracked waits
      -- Its place among the turns says which landings were settled by then.
      obtain ⟨before, after, split⟩ := List.append_of_mem member
      obtain ⟨landings, handled⟩ := turnsFrom_split taken split
      exact ⟨before, turn, after, split, rfl, landings, handled, pass.flight?_result distinct member⟩
    case ordered => exact pass.flights
    case admits => exact pass.result_state
    case fails => exact fun member => (pass.handling _ member).failure_iff
    case keeps => exact pass.result_of_fails
    case mode => exact pass.result_mode
    case spaced => exact pass.separates_of_fails
    case answers =>
      simp only [Turn.not_fails_iff]
      exact pass.answer_eq_ok
    case reports =>
      simp only [Turn.not_fails_iff]
      exact pass.answer_eq_error

end Scheduler

/-- A flight that is to land on a runway that is closed for longer than the search can bear. -/
def Flight.sampleBlocked : Flight :=
  { Flight.sampleArrival with
    landing := { Flight.sampleArrival.landing with scheduled := .sampleMinute 100 }
    assignment := some ⟨"34L", true⟩ }

/-- A flight that is expected when the runway opens again, where the other one landed before. -/
def Flight.sampleReopening : Flight :=
  .inbound "VOZ3" ⟨⟨.medium, true⟩, "B738"⟩ "YSSY" (.sampleMinute 100)

/-- The two flights at a single runway that is closed for a hundred minutes. -/
def Sequence.sampleBlocked : Sequence :=
  { Sequence.sampleClosed with
    flights := [.sampleBlocked, .sampleReopening]
    mode := singleMode }

/-- In the order of their estimates, the flight that is refused has its turn first. -/
theorem Sequence.waiting_sampleBlocked :
    Scheduler.waiting Sequence.sampleBlocked.flights = [.sampleBlocked, .sampleReopening] :=
  Scheduler.waiting_of_pairwise (by decide)

/-- One flight is refused and keeps its landing, and the other one is scheduled behind it. -/
theorem Scheduler.schedule_contains_sampleBlocked :
    ∃ outcome, ∃ turns : List Turn, Scheduler.sample.schedule .sampleBlocked = .ok outcome
      ∧ outcome.answer = .error (.unsatisfiableSchedule "VOZ2" (.one "34L") 100)
      ∧ Scheduler.sample.Contains .sampleBlocked outcome turns := by
  obtain ⟨handled, served, failures⟩ : ∃ handled, Scheduler.sample.handleAll .sampleBlocked
        (anchors Sequence.sampleBlocked.flights) [.sampleBlocked, .sampleReopening] = .ok handled
      ∧ handled.map (·.failure) = [some (.unsatisfiableSchedule "VOZ2" (.one "34L") 100), none] := by
    have computed : (Scheduler.sample.handleAll .sampleBlocked (anchors Sequence.sampleBlocked.flights)
        [.sampleBlocked, .sampleReopening]).toOption.map (·.map (·.failure))
          = some [some (.unsatisfiableSchedule "VOZ2" (.one "34L") 100), none] := by
      decide +kernel
    obtain ⟨handled, served, failures⟩ := Option.map_eq_some_iff.mp computed
    exact ⟨handled, toOption_eq_some.mp served, failures⟩
  obtain ⟨outcome, passed, answered⟩ := exists_outcome Sequence.waiting_sampleBlocked served
  rw [failures] at answered
  rcases @Scheduler.schedule_contains .sample .sampleBlocked (by decide) with
    ⟨overflow, failed, _⟩ | ⟨reached, turns, again, contains⟩
  · -- The times are far from the ends of the clock.
    exact absurd (passed.symm.trans failed) nofun
  · obtain rfl : outcome = reached := Except.ok.inj (passed.symm.trans again)
    exact ⟨outcome, turns, passed, answered, contains⟩

end ArrivalManager
