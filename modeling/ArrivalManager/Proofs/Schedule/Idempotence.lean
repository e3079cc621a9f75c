import ArrivalManager.Proofs.Schedule.Determinism
import ArrivalManager.Proofs.Sequence.Order

/-! A pass right after one that did not fail finds every flight where it would put it. -/

namespace ArrivalManager

/-- A fix that follows a delay follows the same delay where it is by then. -/
theorem FixFollows.again {delay : Duration} {before after : Option FeederFix}
    (follows : FixFollows delay before after) : FixFollows delay after after := by
  cases before with
  | none =>
    obtain rfl : after = none := follows
    rfl
  | some fix =>
    by_cases passed : fix.isPassed = true
    · -- A fix behind the flight stays as it is.
      obtain rfl : after = some fix := by simpa [FixFollows, passed] using follows
      simp [FixFollows, passed]
    · -- A fix ahead is delayed against its estimate, which no delay moves.
      obtain ⟨scheduled, delayed, rfl⟩ : ∃ scheduled, fix.times.estimate.plus delay = .ok scheduled
          ∧ after = some { fix with times := { fix.times with scheduled } } := by
        simpa [FixFollows, passed] using follows
      unfold FeederFix.isPassed at passed
      simp [FixFollows, FeederFix.isPassed, passed, delayed]

namespace Flight

variable {flight scheduled : Flight} {time : Instant} {runway : String}

/-- To set the landing time that a flight has, with its fix at the same delay, changes nothing. -/
theorem commitLandingTime_self (scheduled : flight.landing.scheduled = time)
    (follows : FixFollows (time.since flight.landing.estimate) flight.fix flight.fix) :
    flight.commitLandingTime time = .ok flight := by
  subst scheduled
  unfold commitLandingTime
  dsimp only
  split
  · rfl
  · rename_i fix found
    split
    · rfl
    · rename_i passed
      -- The fix ahead is scheduled for the time that it has.
      obtain ⟨scheduled, delayed, same⟩ : ∃ scheduled,
          fix.times.estimate.plus flight.remainingDelay = .ok scheduled
            ∧ fix = { fix with times := { fix.times with scheduled } } := by
        simpa [FixFollows, found, passed, remainingDelay] using follows
      refine bind_eq_ok.mpr ⟨scheduled, delayed, ?_⟩
      rw [← same, ← found]
      rfl

/-- A flight that has its landing already is scheduled for it as it is. -/
theorem schedule_self (scheduled : flight.landing.scheduled = time)
    (assigned : flight.runway = some runway)
    (follows : FixFollows (time.since flight.landing.estimate) flight.fix flight.fix) :
    flight.schedule time runway = .ok flight := by
  obtain ⟨assignment, known, rfl⟩ := Option.map_eq_some_iff.mp assigned
  -- The runway is assigned with the pin that it has.
  have same : flight.assignRunway assignment.runway flight.runwayPinned = flight := by
    simp only [assignRunway, runwayPinned, known, Option.any_some]
    rw [← known]
  unfold schedule
  rw [same]
  exact commitLandingTime_self scheduled follows

/-- To commit a landing again, whatever became of the speed and the state, changes nothing. -/
theorem schedule_again (committed : flight.schedule time runway = .ok scheduled)
    (flow : FlowControl) (state : FlightState) :
    { scheduled with flow, state }.schedule time runway = .ok { scheduled with flow, state } := by
  obtain ⟨shape, follows⟩ := schedule_eq_ok committed
  refine schedule_self ?_ ?_ ?_
  · rw [shape]
  · rw [shape]
    rfl
  · rw [shape]
    exact follows.again

/-- A flight whose landing is committed has the demand that it had before. -/
theorem SameDemand.of_schedule (committed : flight.schedule time runway = .ok scheduled)
    (usable : flight.runwayPinned = true → flight.runway = some runway) (flow : FlowControl)
    (state : FlightState) : flight.SameDemand { scheduled with flow, state } := by
  obtain ⟨shape, follows⟩ := schedule_eq_ok committed
  refine ⟨?_, follows.identifier, ?_, fun pinned => ?_⟩
  · rw [shape]
  · rw [shape]
    rfl
  · rw [usable pinned, shape]
    rfl

end Flight

namespace Scheduler

variable {scheduler : Scheduler} {left right : Sequence} {flight : Flight} {state : FlightState}
  {leftLandings rightLandings : List Landing} {handled handled' : Handled}
  {turns turns' : List Turn} {turn : Turn} {first second : Outcome Sequence Unit}

/--
A flight whose turn succeeded is left as it is by another turn, if the same landings are settled.

If that turn fails, the flight is left as it is for that reason.
-/
theorem Handling.again (one : scheduler.Handling left leftLandings flight handled)
    (two : scheduler.Handling right rightLandings { handled.flight with state } handled')
    (setting : left.SameSetting right)
    (settled : ∀ landing, landing ∈ rightLandings ↔ landing ∈ leftLandings)
    (succeeds : handled.failure = none) : handled'.flight = { handled.flight with state } := by
  cases one with
  | withoutRunway noDelay missing =>
    -- There is still no runway to land on.
    have absent : runwayAtEstimate right { flight with state } = none := by
      rw [← missing]
      simp only [runwayAtEstimate, setting.modeAt, Flight.runway, Flight.fixIdentifier]
    have done := two.of_noDelay noDelay
    simp only [scheduleWithoutDelay, absent] at done
    exact (Except.ok.inj done).symm
  | @atEstimate runway scheduled noDelay found committed =>
    -- The runway is by now the flight's own, and the estimate is what it was.
    have again := Flight.schedule_again committed .profileSpeed state
    obtain ⟨shape, _⟩ := Flight.schedule_eq_ok committed
    have noDelay' : ({ scheduled with flow := .profileSpeed, state } : Flight).noDelay = true := by
      rw [shape]
      exact noDelay
    have done := two.of_noDelay noDelay'
    have own : runwayAtEstimate right { scheduled with flow := .profileSpeed, state }
        = some runway := by
      rw [shape]
      rfl
    have estimate : scheduled.landing.estimate = flight.landing.estimate := by rw [shape]
    simp only [scheduleWithoutDelay, own, estimate, again] at done
    exact (Except.ok.inj done).symm
  | manual mayWait chosen => exact two.of_manual mayWait chosen
  | refused _ _ => cases succeeds
  | @resolved time runway scheduled resolvable resolved committed =>
    have resolves := resolve_resolves resolved
    have again := Flight.schedule_again committed (flowFor flight time) state
    have demand := Flight.SameDemand.of_schedule committed
      (fun pinned => (Flight.mayUse_iff_of_pinned pinned).mp resolves.mayUse)
      (flowFor flight time) state
    obtain ⟨shape, _⟩ := Flight.schedule_eq_ok committed
    have estimate : scheduled.landing.estimate = flight.landing.estimate := by rw [shape]
    have resolvable' : ({ scheduled with flow := flowFor flight time, state } : Flight).Resolvable := by
      rw [shape]
      exact resolvable
    cases two with
    | withoutRunway noDelay _ | atEstimate noDelay _ _ =>
      exact absurd (noDelay.symm.trans resolvable'.1) (by decide)
    | manual _ chosen => exact absurd (chosen.symm.trans resolvable'.2) (by decide)
    | refused _ _ => rfl
    | resolved _ resolved' committed' =>
      -- The landing that is found is the one that the flight has.
      obtain ⟨rfl, rfl⟩ :=
        (resolves.congr setting demand settled estimate).unique (resolve_resolves resolved')
      obtain rfl := Except.ok.inj (again.symm.trans committed')
      have speed : flowFor { scheduled with flow := flowFor flight time, state } time
          = flowFor flight time := by
        rw [shape]
        rfl
      rw [speed]

namespace Pass

variable (one : scheduler.Pass left first turns)
include one

/-- The flights that keep their landings after a pass are those that kept them before. -/
theorem mem_anchors_after {landing : Landing} :
    landing ∈ anchors first.after.flights ↔ landing ∈ anchors left.flights := by
  have same {flight : Flight} (anchored : flight.state.isAnchored = true) :
      flight ∈ first.after.flights ↔ flight ∈ left.flights := by
    have settled := FlightState.isSchedulable_of_anchored anchored
    refine one.mem_after.trans ⟨?_, fun tracked => .inl ⟨tracked, settled⟩⟩
    -- Who had a turn is unstable, and keeps no landing.
    rintro (⟨tracked, _⟩ | ⟨turn, member, rfl⟩)
    · exact tracked
    · rw [one.result_state member] at settled
      cases settled
  simp only [anchors, List.mem_filterMap, List.mem_filter]
  exact exists_congr fun flight => and_congr_left fun _ => and_congr_left same

/-- After their turns the flights still wait. -/
theorem result_waits : ∀ flight ∈ turns.map (·.result), flight.state.isSchedulable = true := by
  simpa using fun turn member => by rw [one.result_state member]; rfl

/-- Having their turns does not change in which order flights wait. -/
theorem result_passOrder {other : Turn} (member : turn ∈ turns) (listed : other ∈ turns) :
    turn.result.passOrder other.result = turn.flight.passOrder other.flight := by
  obtain ⟨rescheduled, state, same⟩ := one.result_frame member
  obtain ⟨rescheduled', state', same'⟩ := one.result_frame listed
  rw [same, same', rescheduled.others, rescheduled'.others]
  rfl

/-- The flights that had a turn wait again, in the same order. -/
theorem waiting_after (distinct : DistinctCallsigns left.flights) :
    waiting first.after.flights = turns.map (·.result) := by
  refine waiting_eq_of_sorted (distinct.perm one.callsigns_perm) ?_ ?_
  · -- Those that had none do not wait.
    have parted := (sortFlights_perm ((left.flights.filter fun flight =>
      ¬ flight.state.isSchedulable) ++ turns.map (·.result))).filter (·.state.isSchedulable)
    rw [List.filter_append, List.filter_eq_self.mpr one.result_waits, List.filter_filter] at parted
    rw [one.after]
    simpa using parted.symm
  · have sorted := waiting_sorted left.flights
    rw [← one.flights, List.pairwise_map] at sorted
    rw [List.pairwise_map]
    refine sorted.imp_of_mem fun member listed ordered => ?_
    rw [one.result_passOrder member listed]
    exact ordered

/-- Having its turn once more leaves every flight as it is. -/
theorem again (distinct : DistinctCallsigns left.flights) (answered : first.answer = .ok ())
    (two : scheduler.Pass right second turns') (setting : left.SameSetting right)
    (moved : right.flights.Perm first.after.flights) :
    turns'.map (·.result) = turns.map (·.result) := by
  have waits : turns'.map (·.flight) = turns.map (·.result) := by
    rw [two.flights, waiting_perm (distinct.perm one.callsigns_perm) moved, one.waiting_after distinct]
  have correspond : List.Forall₂ (fun turn turn' => turn.result = turn'.flight) turns turns' := by
    have same : List.Forall₂ (· = ·) (turns.map (·.result)) (turns'.map (·.flight)) := by
      rw [List.forall₂_eq_eq_eq, waits]
    simpa using same
  refine map_eq_of_forall₂ (forall₂_of_prefixes correspond ?_) fun same => same
  intro before turn after before' turn' after' split split' settled same
  have member : turn ∈ turns := split ▸ List.mem_append_right _ List.mem_cons_self
  have member' : turn' ∈ turns' := split' ▸ List.mem_append_right _ List.mem_cons_self
  have anchored (landing : Landing) :
      landing ∈ anchors right.flights ↔ landing ∈ anchors left.flights :=
    ((moved.filter _).filterMap _).mem_iff.trans one.mem_anchors_after
  -- The same landings are settled, as every turn before leads to what it led to.
  have landings := one.mem_landings_iff two anchored split split' (settled.imp fun _ _ same => by
    simpa [Turn.result] using congrArg Flight.landingOnRunway same)
  obtain ⟨_, state, shape⟩ := one.result_frame member
  have handling := two.handling turn' member'
  rw [← same, shape] at handling
  have kept := (one.handling turn member).again handling setting landings
    (one.answer_eq_ok.mp answered turn member)
  -- The flight is unstable already, so admitting it changes nothing either.
  rw [← shape] at kept
  have unstable := one.result_state member
  unfold Turn.result at kept unstable ⊢
  rw [kept, admitted, unstable]
  rfl

/-- The flights after a pass that follows one without a failure are those that it finds. -/
theorem flights_again (distinct : DistinctCallsigns left.flights) (answered : first.answer = .ok ())
    (two : scheduler.Pass right second turns') (setting : left.SameSetting right)
    (moved : right.flights.Perm first.after.flights) :
    second.after.flights = first.after.flights := by
  have results := one.again distinct answered two setting moved
  have sorted := congrArg Sequence.flights one.after
  have distinct' := distinct.perm one.callsigns_perm
  rw [sorted] at moved distinct' ⊢
  -- Those that have no turn are the same ones as well, in whatever order they are listed.
  have settled := (moved.trans (sortFlights_perm _)).filter fun flight => ¬ flight.state.isSchedulable
  have waits : (turns.map (·.result)).filter (fun flight => ¬ flight.state.isSchedulable) = [] :=
    List.filter_eq_nil_iff.mpr fun flight member => by simp [one.result_waits flight member]
  rw [List.filter_append, waits, List.append_nil, List.filter_filter] at settled
  rw [two.after, results]
  refine sortFlights_perm_eq (distinct'.perm ((sortFlights_perm _).symm.map _)) ?_
  refine List.Perm.append_right _ ?_
  simpa using settled

end Pass

/--
A pass right after one that did not fail changes nothing: no flight, and not their order.

This holds whatever the second pass answers.
-/
theorem schedule_idempotent (distinct : DistinctCallsigns left.flights)
    (passed : scheduler.schedule left = .ok first) (answered : first.answer = .ok ())
    (again : scheduler.schedule first.after = .ok second) : second.after = first.after := by
  obtain ⟨turns, one⟩ := exists_pass passed
  obtain ⟨turns', two⟩ := exists_pass again
  have setting : left.SameSetting first.after := by
    rw [one.after]
    exact ⟨rfl, rfl, rfl, .refl _⟩
  have flights := one.flights_again distinct answered two setting (.refl _)
  -- A pass concerns nothing but the tracked flights.
  have rest : second.after = { first.after with flights := second.after.flights } := by rw [two.after]
  rw [rest, flights]

end Scheduler

/-- A flight over a feeder fix that is expected on the only runway of a pair while it is closed. -/
def Sequence.sampleHeld : Sequence :=
  { Sequence.samplePair with
    flights := [{ Flight.inbound "VOZ2" ⟨⟨.medium, true⟩, "B738"⟩ "YSSY"
      (.sampleSeconds 180) with fix := some (.ahead "BOREE" .epoch) }]
    slots := [.sampleEarly] }

/-- The flight is delayed until the runway is open again, and another pass finds it there. -/
theorem Scheduler.schedule_idempotent_sampleHeld :
    ∃ first second, Scheduler.sample.schedule .sampleHeld = .ok first ∧ first.answer = .ok ()
      ∧ Scheduler.sample.schedule first.after = .ok second ∧ second.after = first.after
      ∧ first.after.flights.map (·.landing.scheduled) = [.sampleSeconds 240] := by
  obtain ⟨first, passed, answered, ⟨second, again, _⟩, late⟩ :
      ∃ first ∈ (Scheduler.sample.schedule .sampleHeld).toOption, first.answer = .ok ()
        ∧ Scheduler.sample.Succeeds first.after
        ∧ first.after.flights.map (·.landing.scheduled)
          = [.sampleSeconds 240] := by
    decide +kernel
  have passed := toOption_eq_some.mp passed
  exact ⟨first, second, passed, answered, again,
    schedule_idempotent (by decide) passed answered again, late⟩

end ArrivalManager
