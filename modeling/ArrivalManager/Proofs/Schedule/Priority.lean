import ArrivalManager.Proofs.Schedule.Precedence

/-! What high priority does for a flight: it goes earlier in a pass, and never lands later for that. -/

namespace ArrivalManager

/-- A flight that has high priority or not, and is the same otherwise. -/
def Flight.prioritized (flight : Flight) (high : Bool) : Flight :=
  { flight with highPriority := high }

/-- With high priority, a flight that is resolved goes before its place without it. -/
theorem Flight.Resolvable.prioritized_passOrder {flight : Flight} (resolvable : flight.Resolvable) :
    (flight.prioritized true).passOrder (flight.prioritized false) = .lt := by
  have both (high : Bool) : (flight.prioritized high).Resolvable := resolvable
  -- The groups differ, so they decide.
  rw [Flight.passOrder, (both true).priority, (both false).priority]
  rfl

/-- A sequence in which a flight has high priority or not, and all else is the same. -/
def Sequence.prioritize (sequence : Sequence) (flight : Flight) (high : Bool) : Sequence :=
  { sequence with flights := replaceFlight sequence.flights (flight.prioritized high) }

/-- The priority of a flight changes nothing about the setting. -/
theorem Sequence.prioritize_setting (sequence : Sequence) (flight : Flight) (before after : Bool) :
    (sequence.prioritize flight before).SameSetting (sequence.prioritize flight after) :=
  ⟨rfl, rfl, rfl, .refl _⟩

namespace Scheduler

variable {scheduler : Scheduler} {sequence : Sequence} {flight early late : Flight}
  {front back : List Flight} {landings : List Landing} {first second : Outcome Sequence Unit}

/-- A flight that would go earlier with other data has no one else in front of it than before. -/
theorem waiting_advance (distinct : DistinctCallsigns (front ++ early :: back))
    (distinct' : DistinctCallsigns (front ++ late :: back))
    (waits : early.state.isSchedulable = true) (waits' : late.state.isSchedulable = true)
    (order : (early.passOrder late).isLE = true) :
    ∃ before between after, waiting (front ++ early :: back) = before ++ early :: (between ++ after)
      ∧ waiting (front ++ late :: back) = before ++ between ++ late :: after := by
  obtain ⟨before, after, whole, rest, ahead⟩ := waiting_middle distinct waits
  obtain ⟨before', after', whole', rest', _⟩ := waiting_middle distinct' waits'
  -- Both parts in front begin the queue of the others, so one of them begins the other one.
  rcases List.append_eq_append_iff.mp (rest.symm.trans rest') with ⟨between, rfl, rfl⟩ | ⟨between, rfl, rfl⟩
  · exact ⟨before, between, after', whole, whole'⟩
  · cases between with
    | nil => exact ⟨before', [], after, by simpa using whole, by simpa using whole'⟩
    | cons other others =>
      -- A flight in between would go strictly before the earlier place and not before the later one.
      have strictly := ahead other (by simp)
      have sorted := waiting_sorted (front ++ late :: back)
      rw [whole'] at sorted
      have behind := (List.pairwise_cons.mp (List.pairwise_append.mp sorted).2.1).1 other (by simp)
      exact absurd strictly (Std.OrientedCmp.not_lt_of_isLE (Std.TransCmp.isLE_trans order behind))

/-- At an earlier place in a queue, no more is settled when the turn comes. -/
theorem turnsFrom_advance {before between after after' : List Flight} {turns turns' : List Turn}
    (done : scheduler.turnsFrom sequence landings (before ++ early :: after) = .ok turns)
    (done' : scheduler.turnsFrom sequence landings (before ++ between ++ late :: after') = .ok turns') :
    ∃ turn ∈ turns, ∃ turn' ∈ turns', turn.flight = early ∧ turn'.flight = late
      ∧ ∀ landing ∈ turn.landings, landing ∈ turn'.landings := by
  obtain ⟨front, turn, rest, taken, rfl, named⟩ := turnsFrom_middle done
  obtain ⟨front', turn', rest', taken', rfl, named'⟩ := turnsFrom_middle done'
  refine ⟨turn, by simp, turn', by simp, named, named', fun landing settled => ?_⟩
  -- The turns in front of the earlier place are the first ones in front of the later place.
  obtain ⟨common, between, start, rfl⟩ := turnsFrom_append taken'
  obtain rfl : front = common := Except.ok.inj (taken.symm.trans start)
  rw [(turnsFrom_split done rfl).1] at settled
  rw [(turnsFrom_split done' rfl).1, List.filterMap_append, ← List.append_assoc]
  exact List.mem_append_left _ settled

/-- A flight that a pass resolves lands no later with high priority than without. -/
theorem schedule_prioritized (distinct : DistinctCallsigns sequence.flights)
    (tracked : flight ∈ sequence.flights) (waits : flight.state.isSchedulable = true)
    (resolvable : flight.Resolvable)
    (passed : scheduler.schedule (sequence.prioritize flight true) = .ok first)
    (answered : first.answer = .ok ())
    (passed' : scheduler.schedule (sequence.prioritize flight false) = .ok second)
    (answered' : second.answer = .ok ()) :
    ∃ prior plain, first.after.flight? flight.callsign = some prior
      ∧ second.after.flight? flight.callsign = some plain
      ∧ prior.landing.scheduled ≤ plain.landing.scheduled := by
  obtain ⟨turns, taken, pass⟩ := exists_turns passed
  obtain ⟨turns', taken', pass'⟩ := exists_turns passed'
  obtain ⟨front, back, _, _, replaced⟩ := findFlight_split (distinct.findFlight_of_mem tracked)
  have place (high : Bool) : (sequence.prioritize flight high).flights
      = front ++ flight.prioritized high :: back := replaced _ rfl
  have named (high : Bool) : DistinctCallsigns (sequence.prioritize flight high).flights :=
    distinct.perm (.of_eq (replaceFlight_callsigns sequence.flights (flight.prioritized high)))
  have pending (high : Bool) : (flight.prioritized high).state.isSchedulable = true := waits
  -- With high priority the flight goes earlier, and then no more is settled before its turn.
  have order := Ordering.isLE_of_eq_lt resolvable.prioritized_passOrder
  obtain ⟨before, between, after, queue, queue'⟩ := waiting_advance
    (place true ▸ named true) (place false ▸ named false) (pending true) (pending false) order
  rw [place, queue, anchors_middle (pending true)] at taken
  rw [place, queue', anchors_middle (pending false)] at taken'
  rw [Sequence.prioritize, turnsFrom_queue] at taken taken'
  obtain ⟨turn, member, turn', member', same, same', fewer⟩ := turnsFrom_advance taken taken'
  -- Both turns resolve the flight, with one demand and one estimate.
  obtain ⟨runway, one⟩ := pass.commits member (by rw [same]; exact resolvable)
    (pass.answer_eq_ok.mp answered turn member)
  obtain ⟨runway', two⟩ := pass'.commits member' (by rw [same']; exact resolvable)
    (pass'.answer_eq_ok.mp answered' turn' member')
  have found := pass.flight?_result (named true) member
  have found' := pass'.flight?_result (named false) member'
  have first := one.resolves
  have second := two.resolves
  rw [same] at found first
  rw [same'] at found' second
  exact ⟨turn.result, turn'.result, found, found',
    first.notLater second (sequence.prioritize_setting flight true false)
      ⟨rfl, rfl, rfl, fun _ => rfl⟩ le_rfl fewer⟩

end Scheduler

/-- With high priority, the flight that otherwise goes last in a stream goes first. -/
theorem Sequence.waiting_prioritized_sampleStream :
    Scheduler.waiting (Sequence.sampleStream.prioritize .sampleFollower true).flights
      = [Flight.sampleFollower.prioritized true, .sampleArrival] := by
  have moved : (Sequence.sampleStream.prioritize .sampleFollower true).flights.Perm
      [.sampleAnchor, Flight.sampleFollower.prioritized true, .sampleArrival] :=
    .cons _ (.swap _ _ _)
  rw [Scheduler.waiting_perm (by decide) moved]
  exact Scheduler.waiting_of_pairwise (by decide)

/-- A flight of a stream lands no later with high priority than without. -/
theorem Scheduler.schedule_prioritized_sampleStream :
    ∃ first second,
      Scheduler.sample.schedule (Sequence.sampleStream.prioritize .sampleFollower true) = .ok first
      ∧ Scheduler.sample.schedule (Sequence.sampleStream.prioritize .sampleFollower false) = .ok second
      ∧ ∃ prior plain, first.after.flight? "VOZ3" = some prior
        ∧ second.after.flight? "VOZ3" = some plain
        ∧ prior.landing.scheduled ≤ plain.landing.scheduled := by
  obtain ⟨first, passed, answered⟩ :
      Scheduler.sample.Succeeds (Sequence.sampleStream.prioritize .sampleFollower true) :=
    .of_serves (by decide +kernel) Sequence.waiting_prioritized_sampleStream
  -- The flight has no high priority at first, so taking it away leaves the stream as it is.
  obtain ⟨second, passed', answered'⟩ :
      Scheduler.sample.Succeeds (Sequence.sampleStream.prioritize .sampleFollower false) :=
    .of_serves (by decide +kernel) Sequence.waiting_sampleStream
  have tracked : Flight.sampleFollower ∈ Sequence.sampleStream.flights := by
    simp [Sequence.sampleStream]
  exact ⟨first, second, passed, passed', Scheduler.schedule_prioritized (by decide) tracked rfl
    ⟨rfl, rfl⟩ passed answered passed' answered'⟩

end ArrivalManager
