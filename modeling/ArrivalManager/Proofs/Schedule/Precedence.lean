import ArrivalManager.Proofs.Schedule.Determinism
import ArrivalManager.Proofs.Schedule.Fairness

/-! A turn depends on the turns before it, so no flight disturbs those that go before it. -/

namespace ArrivalManager

namespace Scheduler

variable {scheduler : Scheduler} {sequence : Sequence} {flight : Flight}
  {queue front back : List Flight} {landings : List Landing}
  {outcome others : Outcome Sequence Unit}

/-- The search on several runways reads no flights but the one it is for. -/
theorem earliestOn_flights (flights : List Flight) {mode : RunwayMode} {earliest : Instant}
    {runways : List String} {best : Option (Instant × String)} :
    scheduler.earliestOn { sequence with flights } flight mode earliest landings runways best
      = scheduler.earliestOn sequence flight mode earliest landings runways best := by
  -- On each runway the search reads the setting only, so the two scans go on alike.
  induction runways generalizing best with
  | nil => rfl
  | cons runway rest ih =>
    simp only [earliestOn, ih]
    rfl

/-- A turn reads no flights but the one whose turn it is. -/
theorem handle_flights (flights : List Flight) :
    scheduler.handle { sequence with flights } landings flight
      = scheduler.handle sequence landings flight := by
  simp only [handle, scheduleWithDelay, resolve, bestRunway, earliestOn_flights flights]
  rfl

/-- The turns of a queue read no flights but those of the queue. -/
theorem turnsFrom_queue (flights : List Flight) :
    scheduler.turnsFrom { sequence with flights } landings queue
      = scheduler.turnsFrom sequence landings queue := by
  induction queue generalizing landings with
  | nil => rfl
  | cons flight rest ih => simp only [turnsFrom, handle_flights flights, ih]

/-- A flight that waits is none of those that keep their landings. -/
theorem anchors_middle (waits : flight.state.isSchedulable = true) :
    anchors (front ++ flight :: back) = anchors (front ++ back) := by
  -- No state is both one in which a flight keeps its landing and one in which it waits.
  have moves : flight.state.isAnchored = false := by
    by_contra anchored
    simp [FlightState.isSchedulable_of_anchored (by simpa using anchored)] at waits
  simp [anchors, moves]

/-- A flight that waits has its place in the queue of the others, behind those that go before it. -/
theorem waiting_middle (distinct : DistinctCallsigns (front ++ flight :: back))
    (waits : flight.state.isSchedulable = true) :
    ∃ before after, waiting (front ++ flight :: back) = before ++ flight :: after
      ∧ waiting (front ++ back) = before ++ after
      ∧ ∀ other ∈ before, other.passOrder flight = .lt := by
  -- It does not matter where the flight is listed, and at the head of a list it is sorted in.
  have moved : waiting (flight :: (front ++ back)) = waiting (front ++ flight :: back) :=
    waiting_perm distinct List.perm_middle.symm
  obtain ⟨before, after, whole, rest, ahead⟩ := List.mergeSort_cons
    (fun _ _ _ => Std.TransCmp.isLE_trans) Flight.passOrder_total flight
    ((front ++ back).filter (·.state.isSchedulable))
  refine ⟨before, after, ?_, rest, fun other member => ?_⟩
  · rw [← moved, ← whole]
    simp only [waiting, List.filter_cons, waits, if_true]
  · -- What is sorted in front of the flight goes strictly before it.
    have swapped : other.passOrder flight = (flight.passOrder other).swap := Std.OrientedCmp.eq_swap
    have beyond := ahead other member
    rw [swapped]
    cases order : flight.passOrder other <;> simp [order] at beyond ⊢

/--
A flight does not disturb those that go before it in a pass.

Compared with the pass on the same sequence without the flight, what keeps its landing still does, and
each flight before it has the very same turn, whether it succeeds or fails.
-/
theorem schedule_undisturbed (distinct : DistinctCallsigns sequence.flights)
    (tracked : flight ∈ sequence.flights) (waits : flight.state.isSchedulable = true)
    (passed : scheduler.schedule sequence = .ok outcome)
    (passed' : scheduler.schedule
      { sequence with flights := eraseFlight sequence.flights flight.callsign } = .ok others) :
    ∃ turns turns', scheduler.Pass sequence outcome turns
      ∧ scheduler.Pass { sequence with flights := eraseFlight sequence.flights flight.callsign }
        others turns'
      ∧ (∀ anchor ∈ sequence.flights, anchor.state.isAnchored = true →
        outcome.after.flight? anchor.callsign = some anchor
          ∧ others.after.flight? anchor.callsign = some anchor)
      ∧ ∀ earlier ∈ sequence.flights, earlier.state.isSchedulable = true →
        earlier.passOrder flight = .lt →
        ∃ turn ∈ turns, turn ∈ turns' ∧ turn.flight = earlier
          ∧ outcome.after.flight? earlier.callsign = some turn.result
          ∧ others.after.flight? earlier.callsign = some turn.result := by
  obtain ⟨turns, taken, pass⟩ := exists_turns passed
  obtain ⟨turns', taken', pass'⟩ := exists_turns passed'
  have distinct' : DistinctCallsigns (eraseFlight sequence.flights flight.callsign) :=
    distinct.sublist List.eraseP_sublist
  obtain ⟨front, back, split, erased, _⟩ := findFlight_split (distinct.findFlight_of_mem tracked)
  have placed : DistinctCallsigns (front ++ flight :: back) := split ▸ distinct
  obtain ⟨before, after, whole, rest, _⟩ := waiting_middle placed waits
  -- The two queues are the same up to the place of the flight, and so are the turns.
  have queue : waiting sequence.flights = before ++ flight :: after := split ▸ whole
  rw [queue, split] at taken
  rw [turnsFrom_queue, erased, rest, ← anchors_middle waits] at taken'
  obtain ⟨common, tail, start, rfl⟩ := turnsFrom_append taken
  obtain ⟨common', tail', start', rfl⟩ := turnsFrom_append taken'
  obtain rfl : common = common' := Except.ok.inj (start.symm.trans start')
  refine ⟨common ++ tail, common ++ tail', pass, pass', fun anchor listed anchored => ?_,
    fun earlier listed pending precedes => ?_⟩
  · have settled := FlightState.isSchedulable_of_anchored anchored
    -- The flight that is taken out waits, so it is not the one that keeps its landing.
    have differ : anchor ≠ flight := by
      rintro rfl
      simp [settled] at waits
    have kept : anchor ∈ eraseFlight sequence.flights flight.callsign := by
      rw [erased]
      rw [split] at listed
      simpa [differ] using listed
    exact ⟨pass.flight?_settled distinct listed settled, pass'.flight?_settled distinct' kept settled⟩
  · -- What goes before the flight waits in front of it, so its turn is one of those in common.
    have ahead : earlier ∈ before :=
      mem_front (fun _ => Std.ReflCmp.isLE_rfl) (queue ▸ waiting_sorted sequence.flights)
        (queue ▸ mem_waiting.mpr ⟨listed, pending⟩)
        fun behind => Std.OrientedCmp.not_lt_of_isLE behind precedes
    rw [← turnsFrom_flights start] at ahead
    obtain ⟨turn, member, rfl⟩ := List.mem_map.mp ahead
    have here : turn ∈ common ++ tail := List.mem_append_left _ member
    have there : turn ∈ common ++ tail' := List.mem_append_left _ member
    exact ⟨turn, here, there, rfl, pass.flight?_result distinct here, pass'.flight?_result distinct' there⟩

end Scheduler

/-- A stream without the flight that goes last. -/
def Sequence.sampleShortStream : Sequence :=
  { Sequence.sampleStream with
    flights := eraseFlight Sequence.sampleStream.flights Flight.sampleFollower.callsign }

/-- In a stream the flight that goes first has the same result without the one behind it. -/
theorem Scheduler.schedule_undisturbed_sampleStream :
    ∃ outcome others, Scheduler.sample.schedule .sampleStream = .ok outcome
      ∧ Scheduler.sample.schedule .sampleShortStream = .ok others
      ∧ outcome.after.flight? "QFA1" = some .sampleAnchor
      ∧ others.after.flight? "QFA1" = some .sampleAnchor
      ∧ ∃ result, outcome.after.flight? "VOZ2" = some result
        ∧ others.after.flight? "VOZ2" = some result := by
  obtain ⟨outcome, passed, _⟩ : Scheduler.sample.Succeeds .sampleStream :=
    .of_serves (by decide +kernel) Sequence.waiting_sampleStream
  obtain ⟨others, passed', _⟩ : Scheduler.sample.Succeeds .sampleShortStream := by decide +kernel
  have listed : Flight.sampleFollower ∈ Sequence.sampleStream.flights := by
    simp [Sequence.sampleStream]
  obtain ⟨_, _, _, _, anchored, ahead⟩ :=
    Scheduler.schedule_undisturbed (by decide) listed rfl passed passed'
  have tracked : Flight.sampleAnchor ∈ Sequence.sampleStream.flights := by
    simp [Sequence.sampleStream]
  have tracked' : Flight.sampleArrival ∈ Sequence.sampleStream.flights := by
    simp [Sequence.sampleStream]
  obtain ⟨kept, kept'⟩ := anchored .sampleAnchor tracked rfl
  obtain ⟨turn, _, _, _, found, found'⟩ := ahead .sampleArrival tracked' rfl (by decide)
  exact ⟨outcome, others, passed, passed', kept, kept', turn.result, found, found'⟩

end ArrivalManager
