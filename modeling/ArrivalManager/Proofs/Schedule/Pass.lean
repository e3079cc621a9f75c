import ArrivalManager.Proofs.Schedule.Turn
import ArrivalManager.Proofs.Sequence.Tracking

/-! A whole scheduling pass: what it leaves alone, and what the turns of the others lead to. -/

namespace ArrivalManager.Scheduler

variable {scheduler : Scheduler} {sequence : Sequence} {flight other : Flight}
  {flights : List Flight} {turns : List Turn} {turn : Turn} {outcome : Outcome Sequence Unit}

/-- The flights that wait for a pass are those that it schedules. -/
theorem mem_waiting :
    flight ∈ waiting flights ↔ flight ∈ flights ∧ flight.state.isSchedulable = true := by
  simp [waiting]

/-- No more flights wait for a pass than there are. -/
theorem waiting_length_le (flights : List Flight) : (waiting flights).length ≤ flights.length := by
  unfold waiting
  rw [List.length_mergeSort]
  exact List.length_filter_le _ _

/-- The landing of a flight that keeps its place is one of those that a pass leaves alone. -/
theorem mem_anchors {landing : Landing} (tracked : flight ∈ flights)
    (anchored : flight.state.isAnchored = true) (lands : flight.landingOnRunway = some landing) :
    landing ∈ anchors flights :=
  List.mem_filterMap.mpr ⟨flight, List.mem_filter.mpr ⟨tracked, anchored⟩, lands⟩

/-- The flights wait in pass order. -/
theorem waiting_sorted (flights : List Flight) :
    (waiting flights).Pairwise fun left right => (left.passOrder right).isLE = true :=
  -- The order is transitive and total, as it compares three keys in turn.
  List.pairwise_mergeSort (fun _ _ _ => Std.TransCmp.isLE_trans) Flight.passOrder_total _

/-- Flights that are listed in pass order wait as they are listed. -/
theorem waiting_of_pairwise (sorted : (flights.filter (·.state.isSchedulable)).Pairwise
      fun left right => (left.passOrder right).isLE = true) :
    waiting flights = flights.filter (·.state.isSchedulable) :=
  List.mergeSort_of_pairwise sorted

/-- In a sorted list, what another element does not go before stands in front of that one. -/
theorem mem_front {α : Type} {le : α → α → Prop} {before after : List α} {middle other : α}
    (reflexive : ∀ element, le element element) (sorted : (before ++ middle :: after).Pairwise le)
    (listed : other ∈ before ++ middle :: after) (precedes : ¬ le middle other) : other ∈ before := by
  rcases List.mem_append.mp listed with front | rest
  · exact front
  · -- The element in the middle goes before all that is not in front of it.
    rcases List.mem_cons.mp rest with rfl | behind
    · exact absurd (reflexive other) precedes
    · exact absurd ((List.pairwise_cons.mp (List.pairwise_append.mp sorted).2.1).1 other behind) precedes

/-- Admitting a flight changes nothing but its state. -/
theorem admitted_frame (flight : Flight) : ∃ state, admitted flight = { flight with state } := by
  unfold admitted
  split
  · -- A new flight becomes unstable, and any other one stays in its state.
    exact ⟨.unstable, rfl⟩
  · exact ⟨flight.state, rfl⟩

/-- A new flight is no more fixed in its position than an unstable one. -/
@[simp] theorem admitted_landingOnRunway (flight : Flight) :
    (admitted flight).landingOnRunway = flight.landingOnRunway := by
  unfold admitted
  split
  · -- The position is fixed in neither of the two states.
    rename_i fresh
    simp [Flight.landingOnRunway, Flight.runway, Flight.fixIdentifier, fresh,
      FlightState.positionIsFixed]
  · rfl

/--
A pass with the turns of its flights.

Every flight that waits has one turn, in pass order. By then the landings are settled of the flights
that keep theirs, and of those that had their turns before.
-/
structure Pass (scheduler : Scheduler) (sequence : Sequence) (outcome : Outcome Sequence Unit)
    (turns : List Turn) : Prop where
  flights : turns.map (·.flight) = waiting sequence.flights
  settled : ∀ before turn after, turns = before ++ turn :: after →
    turn.landings = anchors sequence.flights
      ++ before.filterMap (·.handled.flight.landingOnRunway)
  handling : ∀ turn ∈ turns, scheduler.Handling sequence turn.landings turn.flight turn.handled
  after : outcome.after = { sequence with
    flights := sortFlights ((sequence.flights.filter fun flight => ¬ flight.state.isSchedulable)
      ++ turns.map (·.result)) }
  /-- The first failure is the answer. -/
  answer : outcome.answer = (turns.findSome? (·.handled.failure)).elim (.ok ()) .error

/-- Every pass that comes to an end consists of turns, one after the other. -/
theorem exists_turns (passed : scheduler.schedule sequence = .ok outcome) :
    ∃ turns, scheduler.turnsFrom sequence (anchors sequence.flights) (waiting sequence.flights)
        = .ok turns ∧ scheduler.Pass sequence outcome turns := by
  unfold schedule at passed
  rw [handleAll_eq_turnsFrom] at passed
  obtain ⟨handled, turned, done⟩ := bind_eq_ok.mp passed
  cases pure_eq_ok.mp done
  -- The pass ends, so none of its turns overflowed.
  cases taken : scheduler.turnsFrom sequence (anchors sequence.flights) (waiting sequence.flights) with
  | error overflow => simp [taken, Except.map] at turned
  | ok turns =>
    simp only [taken, Except.map, Except.ok.injEq] at turned
    subst turned
    refine ⟨turns, rfl, turnsFrom_flights taken, fun before turn after split =>
      (turnsFrom_split taken split).1, fun turn member => ?_, ?_, ?_⟩
    · -- Each turn is handled on its own, with the landings that its place in the list gives it.
      obtain ⟨before, after, split⟩ := List.append_of_mem member
      exact handling_of_handle (turnsFrom_split taken split).2
    · -- What the turns lead to is sorted together with the flights that did not wait.
      simp [Turn.result, List.map_map, Function.comp_def]
    · simp only [List.findSome?_map, Function.comp_def]
      cases turns.findSome? fun turn => turn.handled.failure <;> rfl

/-- Every pass that comes to an end is made of turns. -/
theorem exists_pass (passed : scheduler.schedule sequence = .ok outcome) :
    ∃ turns, scheduler.Pass sequence outcome turns :=
  (exists_turns passed).imp fun _ => And.right

/-- A turn in which a flight is resolved, with everything that it commits. -/
structure Commits (scheduler : Scheduler) (sequence : Sequence) (turn : Turn) (runway : String) :
    Prop where
  assigned : turn.result.runway = some runway
  resolves : scheduler.Resolves sequence turn.flight turn.landings turn.result.landing.scheduled runway
  fixFollows : FixFollows (turn.result.landing.scheduled.since turn.flight.landing.estimate)
    turn.flight.fix turn.result.fix
  flow : turn.result.flow = flowFor turn.flight turn.result.landing.scheduled

namespace Pass

variable (pass : scheduler.Pass sequence outcome turns)
include pass

/-- A pass concerns nothing but the tracked flights. -/
theorem frame : outcome.after.airport = sequence.airport ∧ outcome.after.mode = sequence.mode
    ∧ outcome.after.modeChange = sequence.modeChange
    ∧ outcome.after.desequenced = sequence.desequenced := by
  rw [pass.after]
  exact ⟨rfl, rfl, rfl, rfl⟩

/-- A pass answers no refusal exactly if every turn succeeds. -/
theorem answer_eq_ok :
    outcome.answer = .ok () ↔ ∀ turn ∈ turns, turn.handled.failure = none := by
  rw [pass.answer, ← List.findSome?_eq_none_iff]
  cases turns.findSome? fun turn => turn.handled.failure <;> simp

/-- A pass only reports that no landing time was found. -/
theorem answer_error {refusal : Refusal} (reported : outcome.answer = .error refusal) :
    refusal.isUnsatisfiable = true := by
  rw [pass.answer] at reported
  cases first : turns.findSome? (·.handled.failure) with
  | none =>
    rw [first] at reported
    cases reported
  | some failure =>
    rw [first] at reported
    obtain rfl := Except.error.inj reported
    obtain ⟨turn, member, failed⟩ := List.exists_of_findSome?_eq_some first
    exact (pass.handling turn member).failure failed

/-- Every flight that waits has a turn. -/
theorem exists_turn (tracked : flight ∈ sequence.flights)
    (waits : flight.state.isSchedulable = true) : ∃ turn ∈ turns, turn.flight = flight := by
  -- The turns are those of the flights that wait, one for each.
  rw [← List.mem_map, pass.flights]
  exact mem_waiting.mpr ⟨tracked, waits⟩

/-- The flight of every turn is one that waits. -/
theorem mem_flights (member : turn ∈ turns) :
    turn.flight ∈ sequence.flights ∧ turn.flight.state.isSchedulable = true := by
  rw [← mem_waiting, ← pass.flights]
  exact List.mem_map_of_mem member

/-- The landing of a turn is settled for the turns that follow. -/
theorem mem_landings {before after : List Turn} {earlier : Turn} {landing : Landing}
    (split : turns = before ++ turn :: after) (early : earlier ∈ before)
    (lands : earlier.handled.flight.landingOnRunway = some landing) : landing ∈ turn.landings := by
  rw [pass.settled before turn after split]
  exact List.mem_append_right _ (List.mem_filterMap.mpr ⟨earlier, early, lands⟩)

/-- Of two turns, one comes first, and its landing is settled when the other one comes. -/
theorem settled_first {earlier : Turn} (member : turn ∈ turns) (others : earlier ∈ turns) :
    earlier = turn
      ∨ (∀ landing, earlier.result.landingOnRunway = some landing → landing ∈ turn.landings)
      ∨ ∀ landing, turn.result.landingOnRunway = some landing → landing ∈ earlier.landings := by
  -- The other turn lies in front of this one, is this one, or lies behind it.
  obtain ⟨before, after, rfl⟩ := List.append_of_mem member
  rcases List.mem_append.mp others with early | late
  · -- If it lies in front, its landing was settled before.
    refine .inr (.inl fun landing lands => ?_)
    exact pass.mem_landings rfl early (by simpa [Turn.result] using lands)
  · rcases List.mem_cons.mp late with rfl | later
    · exact .inl rfl
    · obtain ⟨between, rest, rfl⟩ := List.append_of_mem later
      have split : before ++ turn :: (between ++ earlier :: rest)
          = (before ++ turn :: between) ++ earlier :: rest := by simp
      refine .inr (.inr fun landing lands => ?_)
      exact pass.mem_landings split (List.mem_append_right _ List.mem_cons_self)
        (by simpa [Turn.result] using lands)

/-- What is settled for one turn is settled for those that follow. -/
theorem landings_subset {before after : List Turn} {earlier : Turn} {landing : Landing}
    (split : turns = before ++ turn :: after) (early : earlier ∈ before)
    (settled : landing ∈ earlier.landings) : landing ∈ turn.landings := by
  obtain ⟨front, back, rfl⟩ := List.append_of_mem early
  rw [pass.settled front earlier (back ++ turn :: after) (by simp [split])] at settled
  rw [pass.settled _ turn after split]
  -- It is one of the first landings, or was settled by a turn before both.
  rcases List.mem_append.mp settled with anchored | placed
  · exact List.mem_append_left _ anchored
  · refine List.mem_append_right _ ?_
    rw [List.filterMap_append]
    exact List.mem_append_left _ placed

/-- The turns that go before another one in pass order come before it. -/
theorem mem_before {before after : List Turn} {earlier : Turn}
    (split : turns = before ++ turn :: after) (taken : earlier ∈ turns)
    (precedes : earlier.flight.passOrder turn.flight = .lt) : earlier ∈ before := by
  have sorted := waiting_sorted sequence.flights
  rw [← pass.flights, List.pairwise_map, split] at sorted
  exact mem_front (fun _ => Std.ReflCmp.isLE_rfl) sorted (split ▸ taken)
    fun behind => Std.OrientedCmp.not_lt_of_isLE behind precedes

/-- A flight that goes before another one in pass order has its turn before it. -/
theorem turn_before (member : turn ∈ turns) (tracked : other ∈ sequence.flights)
    (waits : other.state.isSchedulable = true) (precedes : other.passOrder turn.flight = .lt) :
    ∃ earlier ∈ turns, earlier.flight = other
      ∧ ∀ landing, earlier.handled.flight.landingOnRunway = some landing →
        landing ∈ turn.landings := by
  obtain ⟨before, after, split⟩ := List.append_of_mem member
  obtain ⟨earlier, taken, rfl⟩ := pass.exists_turn tracked waits
  exact ⟨earlier, taken, rfl, fun landing settled =>
    pass.mem_landings split (pass.mem_before split taken precedes) settled⟩

/-- The landing of a flight that keeps its place is settled before the first turn. -/
theorem anchor_mem_landings (member : turn ∈ turns) (tracked : other ∈ sequence.flights)
    (anchored : other.state.isAnchored = true) {landing : Landing}
    (lands : other.landingOnRunway = some landing) : landing ∈ turn.landings := by
  obtain ⟨before, after, split⟩ := List.append_of_mem member
  rw [pass.settled before turn after split]
  -- The landings at a turn begin with those of the flights that keep theirs.
  exact List.mem_append_left _ (mem_anchors tracked anchored lands)

/-- Having its turn only reschedules a flight, and admits it. -/
theorem result_frame (member : turn ∈ turns) :
    turn.flight.Rescheduled turn.handled.flight
      ∧ ∃ state, turn.result = { turn.handled.flight with state } :=
  ⟨(pass.handling turn member).rescheduled, admitted_frame _⟩

/-- After its turn a flight is unstable, whether it was new or not. -/
theorem result_state (member : turn ∈ turns) : turn.result.state = .unstable := by
  have waits := (pass.mem_flights member).2
  have same := (pass.handling turn member).rescheduled.state
  unfold Turn.result admitted
  rw [same]
  -- Only new and unstable flights wait, and both end up unstable.
  cases state : turn.flight.state with
  | new => rfl
  | unstable => simp [same, state]
  | _ => simp [state, FlightState.isSchedulable] at waits

/-- A flight that had its turn is the one that was handled, but for being unstable if it was new. -/
theorem result_eq (member : turn ∈ turns) :
    turn.result = { turn.handled.flight with state := .unstable } := by
  obtain ⟨state, same⟩ := admitted_frame turn.handled.flight
  have admits := pass.result_state member
  rw [Turn.result, same] at admits ⊢
  obtain rfl : state = .unstable := admits
  rfl

/-- Having its turn does not rename a flight. -/
theorem result_callsign (member : turn ∈ turns) :
    turn.result.callsign = turn.flight.callsign := by
  obtain ⟨rescheduled, state, same⟩ := pass.result_frame member
  rw [same]
  exact rescheduled.callsign

/-- The flights after a pass are those that it leaves alone and those that had their turn. -/
theorem mem_after :
    flight ∈ outcome.after.flights ↔
      (flight ∈ sequence.flights ∧ flight.state.isSchedulable = false)
        ∨ ∃ turn ∈ turns, turn.result = flight := by
  simp [pass.after]

/-- A pass keeps the callsigns of a sequence. -/
theorem callsigns_perm :
    (outcome.after.flights.map (·.callsign)).Perm (sequence.flights.map (·.callsign)) := by
  -- Sorting, admitting and rescheduling move callsigns around, but do not change them.
  have results : (turns.map (·.result)).map (·.callsign)
      = (waiting sequence.flights).map (·.callsign) := by
    rw [← pass.flights, List.map_map, List.map_map]
    exact List.map_congr_left fun turn member => pass.result_callsign member
  -- The flights that wait are a part of all, in another order.
  have sorted := (List.mergeSort_perm (sequence.flights.filter (·.state.isSchedulable))
    fun left right => (left.passOrder right).isLE).map (·.callsign)
  have parts := (List.filter_append_perm (fun flight : Flight => flight.state.isSchedulable)
    sequence.flights).map (·.callsign)
  rw [List.map_append] at parts
  rw [pass.after]
  refine ((sortFlights_perm _).map _).trans ?_
  rw [List.map_append, results]
  refine (List.perm_append_comm.trans (sorted.append_right _)).trans ?_
  simpa using parts

/-- A resolvable flight whose turn does not fail is committed to the landing that was found for it. -/
theorem resolve_commits (member : turn ∈ turns) (resolvable : turn.flight.Resolvable)
    (succeeds : turn.handled.failure = none) : ∃ runway,
      scheduler.resolve sequence turn.flight turn.landings
        = .ok (turn.result.landing.scheduled, runway)
      ∧ scheduler.Commits sequence turn runway := by
  obtain ⟨time, runway, scheduled, resolved, committed, kept⟩ :=
    (pass.handling turn member).resolve_eq_ok resolvable succeeds
  obtain ⟨shape, follows⟩ := Flight.schedule_eq_ok committed
  obtain ⟨_, state, same⟩ := pass.result_frame member
  rw [kept] at same
  -- Admitting the flight changes its state only, so it lands as scheduled.
  have lands : turn.result.landing.scheduled = time := by rw [same, shape]
  refine ⟨runway, by rw [lands, resolved], ?_, ?_, ?_, ?_⟩
  · -- The runway, the time, the fix and the speed are those that the turn committed.
    rw [same, shape]
    rfl
  · rw [lands]
    exact resolve_resolves resolved
  · rw [lands, same]
    exact follows
  · rw [lands, same]

/-- A resolvable flight whose turn does not fail is committed to the landing that resolves it. -/
theorem commits (member : turn ∈ turns) (resolvable : turn.flight.Resolvable)
    (succeeds : turn.handled.failure = none) : ∃ runway, scheduler.Commits sequence turn runway :=
  (pass.resolve_commits member resolvable succeeds).imp fun _ => And.right

/-- A flight that waits is found after the pass as its turn leaves it. -/
theorem flight?_result (distinct : DistinctCallsigns sequence.flights) (member : turn ∈ turns) :
    outcome.after.flight? turn.flight.callsign = some turn.result := by
  rw [← pass.result_callsign member]
  exact (distinct.perm pass.callsigns_perm).findFlight_of_mem
    (pass.mem_after.mpr (.inr ⟨turn, member, rfl⟩))

/-- A flight that a pass leaves alone is found after it as it was. -/
theorem flight?_settled (distinct : DistinctCallsigns sequence.flights)
    (tracked : flight ∈ sequence.flights) (settled : flight.state.isSchedulable = false) :
    outcome.after.flight? flight.callsign = some flight :=
  (distinct.perm pass.callsigns_perm).findFlight_of_mem (pass.mem_after.mpr (.inl ⟨tracked, settled⟩))

/-- A flight that was not there before is not found after a pass. -/
theorem flight?_eq_none {callsign : Callsign} :
    outcome.after.flight? callsign = none ↔ callsign ∉ sequence.flights.map (·.callsign) :=
  findFlight_eq_none.trans (not_congr pass.callsigns_perm.mem_iff)

end Pass

end ArrivalManager.Scheduler
