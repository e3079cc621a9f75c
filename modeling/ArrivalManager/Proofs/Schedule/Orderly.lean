import ArrivalManager.Proofs.Schedule.Spacing
import ArrivalManager.Proofs.Sequence.Routine

/-! The invariant of routine operation: passes and routine changes keep a sequence in order. -/

namespace ArrivalManager.Scheduler

variable {scheduler : Scheduler} {settled : FlightState → Bool} {sequence before after : Sequence}
  {flight other : Flight} {turns : List Turn} {turn : Turn} {outcome : Outcome Sequence Unit}

/--
A sequence in which the landings of settled flights are in order.

No change of the mode is planned, every callsign comes up once, and nothing is taken out of the
scheduler's hands. Each settled flight has a runway of the mode, and any two keep their distance.
-/
structure Orderly (scheduler : Scheduler) (settled : FlightState → Bool) (sequence : Sequence) :
    Prop where
  unplanned : sequence.modeChange = none
  distinct : DistinctCallsigns sequence.known
  delegated : ∀ flight ∈ sequence.known, flight.Delegated
  sequenced : ∀ flight ∈ sequence.flights, flight.state.isSequenced = true
  assigned : ∀ flight ∈ sequence.flights, settled flight.state = true →
    ∃ runway, flight.runway = some runway ∧ sequence.mode.contains runway = true
  separated : ∀ flight ∈ sequence.flights, settled flight.state = true →
    ∀ other ∈ sequence.flights, settled other.state = true → flight.callsign ≠ other.callsign →
      scheduler.Separates sequence.airport.identifier sequence.mode flight other

namespace Orderly

/-- An airport without flights is in order. -/
theorem of_airport {airport : Airport} (founded : Sequence.ofAirport airport = .ok sequence) :
    scheduler.Orderly settled sequence := by
  unfold Sequence.ofAirport at founded
  split at founded
  · -- Without modes there is no sequence, and otherwise one without flights.
    cases founded
  · cases founded
    refine ⟨rfl, List.nodup_nil, ?_, ?_, ?_, ?_⟩
    all_goals
      intro flight member
      simp [Sequence.known] at member

/-- To leave flights out keeps the others in order. -/
theorem drops (orderly : scheduler.Orderly settled before) (drops : before.Drops after) :
    scheduler.Orderly settled after where
  unplanned := drops.modeChange.trans orderly.unplanned
  distinct := drops.carries.distinct orderly.distinct
  delegated := drops.carries.delegated orderly.delegated
  sequenced := drops.carries.sequenced orderly.sequenced
  assigned flight member settles := by
    rw [drops.mode]
    exact orderly.assigned flight (drops.flights.subset member) settles
  separated flight member settles other listed others differ := by
    rw [drops.airport, drops.mode]
    exact orderly.separated flight (drops.flights.subset member) settles other
      (drops.flights.subset listed) others differ

/-- After a routine change the flights that keep their landing are in order. -/
theorem carried (orderly : scheduler.Orderly (fun _ => true) before)
    (carries : before.Carries after) : scheduler.Orderly FlightState.isAnchored after := by
  -- Without a planned change, the mode of the landings stays the current one.
  obtain ⟨mode, unplanned⟩ := carries.unplanned orderly.unplanned
  refine ⟨unplanned, carries.distinct orderly.distinct, carries.delegated orderly.delegated,
    carries.sequenced orderly.sequenced, fun flight member anchored => ?_,
    fun flight member anchored other listed settled differ => ?_⟩
  · -- The runway is the one that the flight had before, and the mode still uses it.
    obtain ⟨former, tracked, keeps⟩ := carries.anchored flight member anchored
    obtain ⟨runway, assigned, used⟩ := orderly.assigned former tracked rfl
    exact ⟨runway, keeps.runway_eq assigned, mode ▸ used⟩
  · -- Both were tracked before with the landings that they keep.
    obtain ⟨former, tracked, keeps⟩ := carries.anchored flight member anchored
    obtain ⟨neighbour, alongside, stays⟩ := carries.anchored other listed settled
    obtain ⟨runway, assigned, _⟩ := orderly.assigned former tracked rfl
    obtain ⟨otherRunway, placed, _⟩ := orderly.assigned neighbour alongside rfl
    have apart : former.callsign ≠ neighbour.callsign := by
      rw [← keeps.callsign, ← stays.callsign]
      exact differ
    rw [carries.airport, mode]
    exact (orderly.separated former tracked rfl neighbour alongside rfl apart).keeps keeps stays
      assigned placed

/-- A flight that had its turn in an orderly sequence is resolved in the mode of the sequence. -/
theorem commits (orderly : scheduler.Orderly settled sequence)
    (pass : scheduler.Pass sequence outcome turns) (member : turn ∈ turns)
    (succeeds : turn.handled.failure = none) :
    ∃ runway, scheduler.Commits sequence turn runway ∧ sequence.mode.contains runway = true := by
  have tracked := (pass.mem_flights member).1
  have delegated := orderly.delegated turn.flight (List.mem_append_left _ tracked)
  -- Nothing was chosen about the flight, so the pass resolves it.
  obtain ⟨runway, commits⟩ :=
    pass.commits member ⟨delegated.noDelay, delegated.manualLandingTime⟩ succeeds
  -- A flight that is not pinned lands on a runway of the mode in effect.
  have usable := commits.resolves.mayUse
  rw [Sequence.modeAt_unplanned orderly.unplanned] at usable
  exact ⟨runway, commits, (Flight.mayUse_iff_of_unpinned delegated.runwayPinned).mp usable⟩

/-- In an orderly sequence the flights that do not wait keep their landing. -/
theorem anchored (orderly : scheduler.Orderly settled sequence) (tracked : flight ∈ sequence.flights)
    (kept : flight.state.isSchedulable = false) : flight.state.isAnchored = true :=
  FlightState.isAnchored_of_sequenced (orderly.sequenced flight tracked) kept

/-- A flight that had its turn keeps its distance from what was settled by then. -/
theorem separates (orderly : scheduler.Orderly settled sequence)
    (pass : scheduler.Pass sequence outcome turns) (member : turn ∈ turns)
    (succeeds : turn.handled.failure = none)
    (before : ∀ landing, other.landingOnRunway = some landing → landing ∈ turn.landings) :
    scheduler.Separates sequence.airport.identifier sequence.mode turn.result other := by
  obtain ⟨runway, commits, _⟩ := orderly.commits pass member succeeds
  -- Without a planned change, the mode in effect at the landing is the current one.
  rw [← Sequence.modeAt_unplanned orderly.unplanned turn.result.landing.scheduled]
  exact commits.separates pass member before

/-- After a pass without failures any two flights keep their distance. -/
theorem separated_after (orderly : scheduler.Orderly FlightState.isAnchored sequence)
    (uniform : scheduler.Uniform) (pass : scheduler.Pass sequence outcome turns)
    (succeeds : ∀ turn ∈ turns, turn.handled.failure = none)
    (tracked : flight ∈ outcome.after.flights) (listed : other ∈ outcome.after.flights)
    (differ : flight.callsign ≠ other.callsign) :
    scheduler.Separates sequence.airport.identifier sequence.mode flight other := by
  -- A flight that had its turn keeps its distance from one that keeps its landing.
  have beside {turn : Turn} (member : turn ∈ turns) {anchor : Flight}
      (tracked : anchor ∈ sequence.flights) (kept : anchor.state.isSchedulable = false) :
      scheduler.Separates sequence.airport.identifier sequence.mode turn.result anchor :=
    orderly.separates pass member (succeeds turn member) fun landing lands =>
      pass.anchor_mem_landings member tracked (orderly.anchored tracked kept) lands
  rcases pass.mem_after.mp tracked with ⟨tracked, kept⟩ | ⟨turn, member, rfl⟩
  · rcases pass.mem_after.mp listed with ⟨listed, stays⟩ | ⟨turn, member, rfl⟩
    · -- Two flights that keep their landings were apart before.
      exact orderly.separated flight tracked (orderly.anchored tracked kept) other listed
        (orderly.anchored listed stays) differ
    · -- Towards a flight that had its turn, the distance is kept from the other side.
      exact (beside member tracked kept).symm uniform
  · rcases pass.mem_after.mp listed with ⟨listed, stays⟩ | ⟨earlier, others, rfl⟩
    · exact beside member listed stays
    · -- Of two turns, the later one keeps its distance from the earlier one.
      rcases pass.settled_first member others with rfl | first | last
      · exact absurd rfl differ
      · exact orderly.separates pass member (succeeds turn member) first
      · exact (orderly.separates pass others (succeeds earlier others) last).symm uniform

/-- A pass that reports no failure puts all flights in order. -/
theorem passed (orderly : scheduler.Orderly FlightState.isAnchored sequence)
    (uniform : scheduler.Uniform) (passed : scheduler.schedule sequence = .ok outcome)
    (answered : outcome.answer = .ok ()) : scheduler.Orderly (fun _ => true) outcome.after := by
  obtain ⟨turns, pass⟩ := exists_pass passed
  have succeeds := pass.answer_eq_ok.mp answered
  obtain ⟨airport, mode, modeChange, desequenced⟩ := pass.frame
  refine ⟨modeChange.trans orderly.unplanned, ?_, ?_, ?_, ?_, ?_⟩
  · -- The pass keeps the callsigns of the tracked flights, and does not touch the others.
    refine orderly.distinct.perm ?_
    simp only [Sequence.known, List.map_append, desequenced]
    exact pass.callsigns_perm.append_right _
  · -- What is left to the scheduler was so before the pass.
    intro flight member
    rcases List.mem_append.mp member with tracked | parked
    · rcases pass.mem_after.mp tracked with ⟨tracked, _⟩ | ⟨turn, taken, rfl⟩
      · exact orderly.delegated flight (List.mem_append_left _ tracked)
      · -- Neither rescheduling nor admitting takes a flight out of the scheduler's hands.
        obtain ⟨rescheduled, state, same⟩ := pass.result_frame taken
        have left := rescheduled.delegated
          (orderly.delegated turn.flight (List.mem_append_left _ (pass.mem_flights taken).1))
        rw [same]
        exact (turn.handled.flight.keeps_state state).delegated left
    · rw [desequenced] at parked
      exact orderly.delegated flight (List.mem_append_right _ parked)
  · -- A flight has its former state, or is unstable, which belongs to the chain.
    intro flight tracked
    rcases pass.mem_after.mp tracked with ⟨tracked, _⟩ | ⟨turn, taken, rfl⟩
    · exact orderly.sequenced flight tracked
    · rw [pass.result_state taken]
      rfl
  · -- A flight has its former runway, or the one that its turn committed.
    intro flight tracked _
    rw [mode]
    rcases pass.mem_after.mp tracked with ⟨tracked, kept⟩ | ⟨turn, taken, rfl⟩
    · exact orderly.assigned flight tracked (orderly.anchored tracked kept)
    · obtain ⟨runway, commits, used⟩ := orderly.commits pass taken (succeeds turn taken)
      exact ⟨runway, commits.assigned, used⟩
  · intro flight tracked _ other listed _ differ
    rw [airport, mode]
    exact orderly.separated_after uniform pass succeeds tracked listed differ

end Orderly

end ArrivalManager.Scheduler
