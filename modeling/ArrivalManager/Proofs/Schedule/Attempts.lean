import ArrivalManager.Proofs.Schedule.Fairness
import ArrivalManager.Proofs.Schedule.Overrun
import Mathlib.Data.List.Count

/-! The search for a landing time ends within its attempts, as each of them passes an obstacle. -/

namespace ArrivalManager

/-- Fewer elements are counted if none is counted anew, and one of them is counted no more. -/
theorem countP_lt_of_mem {α : Type} {counted former : α → Bool} {list : List α} {gone : α}
    (keeps : ∀ element ∈ list, counted element = true → former element = true)
    (member : gone ∈ list) (stood : former gone = true) (leaves : counted gone = false) :
    list.countP counted < list.countP former := by
  -- What is counted now is among what was counted before, and that is not all of it.
  have among : list.countP counted = (list.filter former).countP counted := by
    rw [List.countP_filter]
    exact List.countP_congr fun element listed => by simpa using keeps element listed
  rw [among, List.countP_eq_length_filter (p := former)]
  exact List.countP_lt_length_iff.mpr ⟨gone, List.mem_filter.mpr ⟨member, stood⟩, leaves⟩

namespace Approach

/-- Whether a flight may have to go behind a landing, as it is ahead of it or too close behind it. -/
def mayMove (approach : Approach) (time : Instant) (other : Landing) : Bool :=
  time < other.time
    || (approach.spacingBehind other).any fun spacing => time.since other.time < spacing

/-- The number of landings and windows that may still move a flight on from a time. -/
def obstacles (approach : Approach) (landings : List Landing) (blockouts : List Blockout)
    (time : Instant) : Nat :=
  landings.countP (approach.mayMove time) + blockouts.countP fun blockout => time < blockout.finish

/-- A move that passes an obstacle, unless it is none at all. -/
def Passes (approach : Approach) (landings : List Landing) (blockouts : List Blockout)
    (start reached : Instant) : Prop :=
  reached = start
    ∨ approach.obstacles landings blockouts reached < approach.obstacles landings blockouts start

variable {approach : Approach} {landings : List Landing} {blockouts : List Blockout}
  {other : Landing} {spacing : Duration} {time later proposed next start middle reached : Instant}

/-- A landing may move a flight if it lies ahead, or less than its distance behind it. -/
theorem mayMove_iff : approach.mayMove time other = true ↔ time < other.time
    ∨ ∃ spacing, approach.spacingBehind other = some spacing ∧ time.since other.time < spacing := by
  simp [mayMove, Option.any_eq_true]

/-- A landing that moves a flight on no more never does so again. -/
theorem mayMove_of_later (onward : time ≤ later) (moves : approach.mayMove later other = true) :
    approach.mayMove time other = true := by
  rcases mayMove_iff.mp moves with ahead | ⟨spacing, needed, close⟩
  · exact mayMove_iff.mpr (.inl (onward.trans_lt ahead))
  · -- At an earlier time the flight is still closer behind the landing.
    refine mayMove_iff.mpr (.inr ⟨spacing, needed, ?_⟩)
    simp only [Duration.lt_iff_nanos, Instant.since_nanos, Instant.le_iff_nanos] at onward close ⊢
    omega

/-- At its spacing behind a landing, a flight moves on no more for it. -/
theorem mayMove_eq_false (needed : approach.spacingBehind other = some spacing)
    (sum : other.time.plus spacing = .ok reached) (behind : other.time ≤ reached) :
    approach.mayMove reached other = false := by
  have sum := Instant.plus_eq_ok.mp sum
  by_contra moves
  -- The flight would be ahead of the landing, or less than the spacing behind it.
  rcases mayMove_iff.mp (by simpa using moves) with ahead | ⟨asked, found, close⟩
  · exact absurd behind (not_le.mpr ahead)
  · obtain rfl : spacing = asked := Option.some.inj (needed.symm.trans found)
    simp only [Duration.lt_iff_nanos, Instant.since_nanos] at close
    omega

/-- Moving on passes an obstacle if it passes a landing. -/
theorem Passes.of_landing (onward : start ≤ reached) (member : other ∈ landings)
    (moves : approach.mayMove start other = true) (stays : approach.mayMove reached other = false) :
    approach.Passes landings blockouts start reached := by
  -- There is one landing less to pass, and there are no more windows.
  have fewer : landings.countP (approach.mayMove reached) < landings.countP (approach.mayMove start) :=
    countP_lt_of_mem (fun _ _ => mayMove_of_later onward) member moves stays
  have windows : (blockouts.countP fun blockout => reached < blockout.finish)
      ≤ blockouts.countP fun blockout => start < blockout.finish :=
    List.countP_mono_left fun blockout _ remains => by
      simpa using onward.trans_lt (by simpa using remains)
  exact .inr (Nat.add_lt_add_of_lt_of_le fewer windows)

/-- Moving on passes an obstacle if it leaves a window. -/
theorem Passes.of_blockout {blockout : Blockout} (member : blockout ∈ blockouts)
    (within : start < blockout.finish) :
    approach.Passes landings blockouts start blockout.finish := by
  have fewer : (blockouts.countP fun other => blockout.finish < other.finish)
      < blockouts.countP fun other => start < other.finish :=
    countP_lt_of_mem (fun other _ later => by simpa using within.trans (by simpa using later))
      member (by simpa using within) (by simp)
  -- The window itself is left, and no landing moves the flight that did not before.
  have passed : landings.countP (approach.mayMove blockout.finish)
      ≤ landings.countP (approach.mayMove start) :=
    List.countP_mono_left fun _ _ => mayMove_of_later within.le
  exact .inr (Nat.add_lt_add_of_le_of_lt passed fewer)

/-- Two moves one after the other pass an obstacle if either of them does. -/
theorem Passes.trans (first : approach.Passes landings blockouts start middle)
    (second : approach.Passes landings blockouts middle reached) :
    approach.Passes landings blockouts start reached := by
  rcases first with rfl | fewer
  · exact second
  · rcases second with rfl | still
    · exact .inr fewer
    · exact .inr (still.trans fewer)

/-- Going behind a leader passes it. -/
theorem clearBehind_passes (member : other ∈ landings)
    (moved : approach.clearBehind other proposed = .ok next) :
    approach.Passes landings blockouts proposed next := by
  have onward := (clearBehind_skips moved).1
  rcases clearBehind_cases moved with ⟨same, _⟩ | ⟨spacing, needed, leads, close, sum⟩
  · exact .inl same
  · -- The leader was too close, and at its spacing it is no obstacle any more.
    exact .of_landing onward member (mayMove_iff.mpr (.inr ⟨spacing, needed, close⟩))
      (mayMove_eq_false needed sum (leads.trans onward))

/-- Going behind all leaders passes one of them, if it is a move. -/
theorem clearBehindAll_passes {leaders : List Landing} (known : ∀ leader ∈ leaders, leader ∈ landings)
    (moved : approach.clearBehindAll proposed leaders = .ok next) :
    approach.Passes landings blockouts proposed next := by
  induction leaders generalizing next with
  | nil =>
    cases moved
    exact .inl rfl
  | cons leader rest ih =>
    simp only [clearBehindAll] at moved
    obtain ⟨behindFirst, first, moved⟩ := bind_eq_ok.mp moved
    obtain ⟨behindRest, others, chosen⟩ := bind_eq_ok.mp moved
    obtain rfl := pure_eq_ok.mp chosen
    -- The latest time is the one behind the first leader, or the one behind the others.
    rcases max_choice behindFirst behindRest with same | same
    · rw [same]
      exact clearBehind_passes (known leader List.mem_cons_self) first
    · rw [same]
      exact ih (fun other member => known other (List.mem_cons_of_mem _ member)) others

/-- Giving way to a trailer passes it. -/
theorem giveWay_passes (moved : approach.giveWay landings proposed = .ok next) :
    approach.Passes landings blockouts proposed next := by
  have onward := (giveWay_skips moved).1
  rcases giveWay_cases moved with ⟨same, _⟩ | ⟨trailer, member, close, reverse, needed, longer, sum⟩
  · exact .inl same
  · have follows := (infringes_iff.mp close).1
    have exact := Instant.plus_eq_ok.mp sum
    simp only [Duration.lt_iff_nanos, Duration.zero] at longer
    refine .of_landing onward member (mayMove_iff.mpr ?_) (mayMove_eq_false needed sum ?_)
    · -- The flight is no later than the trailer, and so not at its distance behind it.
      refine .inr ⟨reverse, needed, ?_⟩
      simp only [Duration.lt_iff_nanos, Instant.since_nanos, Instant.le_iff_nanos] at follows ⊢
      omega
    · rw [Instant.le_iff_nanos]
      omega

/-- Leaving a window passes it. -/
theorem leaveBlockout_passes :
    approach.Passes landings blockouts proposed (leaveBlockout blockouts proposed) := by
  rcases leaveBlockout_cases blockouts proposed with ⟨same, _⟩ | ⟨blockout, member, _, ends, same⟩
  · exact .inl same
  · rw [same]
    exact .of_blockout member ends

/-- A round of the search passes an obstacle, unless it changes nothing. -/
theorem advance_passes (moved : approach.advance landings blockouts proposed = .ok next) :
    approach.Passes landings blockouts proposed next := by
  unfold advance at moved
  obtain ⟨behindLeaders, leaders, moved⟩ := bind_eq_ok.mp moved
  obtain ⟨behindTrailer, trailer, chosen⟩ := bind_eq_ok.mp moved
  obtain rfl := pure_eq_ok.mp chosen
  -- None of the parts moves back, so what one of them passes stays behind in the others.
  exact ((clearBehindAll_passes (fun _ member => member) leaders).trans (giveWay_passes trailer)).trans
    leaveBlockout_passes

/-- A search with more rounds than obstacles ahead comes to an end, unless it overflows. -/
theorem settle_ne_none {rounds : Nat}
    (few : approach.obstacles landings blockouts proposed < rounds) :
    approach.settle landings blockouts rounds proposed ≠ .ok none := by
  -- A round that does not end the search leaves one obstacle less for those that remain.
  induction rounds generalizing proposed with
  | zero => simp at few
  | succ rounds ih =>
    intro failed
    simp only [settle] at failed
    obtain ⟨next, moved, failed⟩ := bind_eq_ok.mp failed
    split at failed
    · cases failed
    · rename_i onward
      have fewer := (advance_passes moved).resolve_left onward
      exact ih (by omega) failed

/-- Fewer landings and windows than attempts do not use up the attempts. -/
theorem landingTime_ne_none {earliest : Instant}
    (few : landings.length + blockouts.length < maxAttempts) :
    approach.landingTime landings blockouts earliest ≠ .ok none := by
  -- At most, every landing and every window is an obstacle at the start.
  refine settle_ne_none (lt_of_le_of_lt ?_ few)
  exact Nat.add_le_add List.countP_le_length List.countP_le_length

end Approach

/-- A runway is closed in no more windows than there are slots, and in one for the change of the mode. -/
theorem Sequence.blockoutsFor_length_le (sequence : Sequence) (runway : String) :
    (sequence.blockoutsFor runway).length ≤ sequence.slots.length + 1 := by
  unfold blockoutsFor
  rw [List.length_append, List.length_map]
  refine Nat.add_le_add (List.length_filter_le _ _) ?_
  cases sequence.modeChange.bind (·.changeover) <;> simp

namespace Scheduler

variable {scheduler : Scheduler} {sequence : Sequence} {flight : Flight} {mode : RunwayMode}
  {outcome : Outcome Sequence Unit} {turns : List Turn} {turn : Turn}

/-- Where a mode has a runway, every flight has a candidate in it. -/
theorem candidates_ne_nil (used : mode.runways ≠ []) : candidates flight mode ≠ [] := by
  obtain ⟨runway, listed⟩ := List.exists_mem_of_ne_nil _ used
  unfold candidates
  split
  · simp
  · -- The runways of the mode are ranked, and none of them is lost.
    exact List.ne_nil_of_mem (List.mem_map_of_mem (mem_rankRunways.mpr listed))

namespace Pass

variable (pass : scheduler.Pass sequence outcome turns) (member : turn ∈ turns)
include pass member

/-- At a turn no more landings are settled than there are other flights. -/
theorem landings_length_lt : turn.landings.length < sequence.flights.length := by
  obtain ⟨before, after, split⟩ := List.append_of_mem member
  have settled := pass.settled before turn after split
  -- Each landing is that of a flight that keeps it, or of one that had its turn before.
  have anchored : (anchors sequence.flights).length
      ≤ sequence.flights.countP fun flight => ¬ flight.state.isSchedulable := by
    refine (List.length_filterMap_le _ _).trans ?_
    rw [← List.countP_eq_length_filter]
    exact List.countP_mono_left fun flight _ anchored => by
      simp [FlightState.isSchedulable_of_anchored anchored]
  have placed := List.length_filterMap_le (·.handled.flight.landingOnRunway) before
  have waits : turns.length = sequence.flights.countP (·.state.isSchedulable) := by
    have named := congrArg List.length pass.flights
    rwa [List.length_map, waiting, List.length_mergeSort, ← List.countP_eq_length_filter] at named
  -- No flight both keeps its landing and waits, and the flight itself has had no turn so far.
  have all := List.length_eq_countP_add_countP (fun flight : Flight => flight.state.isSchedulable)
    (l := sequence.flights)
  rw [split, List.length_append, List.length_cons] at waits
  rw [settled, List.length_append]
  omega

variable (few : sequence.flights.length + sequence.slots.length < Approach.maxAttempts)
include few

/-- With fewer flights and slots than attempts, no search at a turn uses them up. -/
theorem landingTime_settles (mode : RunwayMode) (runway : String) (earliest : Instant) :
    (scheduler.approach sequence.airport.identifier turn.flight mode runway).landingTime turn.landings
      (sequence.blockoutsFor runway) earliest ≠ .ok none := by
  have landings := pass.landings_length_lt member
  have windows := sequence.blockoutsFor_length_le runway
  -- The window for a change of the mode takes the place of the flight's own landing.
  exact Approach.landingTime_ne_none (by omega)

/-- With fewer flights and slots than attempts, no turn fails if every mode has a runway to search. -/
theorem failure_eq_none (used : sequence.mode.runways ≠ [])
    (next : ∀ change ∈ sequence.modeChange, change.mode.runways ≠ []) :
    turn.handled.failure = none := by
  by_contra failed
  obtain ⟨refusal, failed⟩ := Option.ne_none_iff_exists'.mp failed
  obtain ⟨mode, earliest, searched, missed⟩ :=
    resolve_eq_error ((pass.handling turn member).resolve_refuses failed)
  have runways : mode.runways ≠ [] := by
    rcases searched with rfl | ⟨change, planned, rfl⟩
    · exact used
    · exact next change planned
  -- There is a candidate, and the search on none of them gives up.
  rcases bestRunway_eq_error missed with ⟨empty, _⟩ | ⟨runway, _, missed⟩
  · exact candidates_ne_nil runways empty
  · rcases landingTimeOn_eq_error missed with ⟨givenUp, _⟩ | ⟨_, _, same⟩
    · exact pass.landingTime_settles member few mode runway earliest givenUp
    · cases same

end Pass

/--
With fewer flights and slots than attempts, and a runway in every mode, a pass schedules every flight.

Each search comes to an end, as each of its rounds passes a landing or a window for good: there is one
landing less than there are flights, and one window more than there are slots, for the change of the
mode. Only a sum of times that leaves the clock keeps the pass from its end.
-/
theorem schedule_settles
    (few : sequence.flights.length + sequence.slots.length < Approach.maxAttempts)
    (used : sequence.mode.runways ≠ [])
    (next : ∀ change ∈ sequence.modeChange, change.mode.runways ≠ []) :
    (∃ overflow, scheduler.schedule sequence = .error overflow ∧ scheduler.LeavesClock sequence overflow) ∨
      ∃ outcome turns, scheduler.schedule sequence = .ok outcome ∧ outcome.answer = .ok ()
        ∧ scheduler.Pass sequence outcome turns
        ∧ ∀ turn ∈ turns, ∀ mode runway earliest,
          (scheduler.approach sequence.airport.identifier turn.flight mode runway).landingTime
            turn.landings (sequence.blockoutsFor runway) earliest ≠ .ok none := by
  cases passed : scheduler.schedule sequence with
  | error overflow => exact .inl ⟨overflow, rfl, schedule_eq_error passed⟩
  | ok outcome =>
    -- A pass that comes to an end answers no refusal, as none of its turns fails.
    obtain ⟨turns, pass⟩ := exists_pass passed
    refine .inr ⟨outcome, turns, rfl, ?_, pass, fun turn member => pass.landingTime_settles member few⟩
    exact pass.answer_eq_ok.mpr fun turn member => pass.failure_eq_none member few used next

end Scheduler

/-- The search for the flight that goes last in a stream comes to an end. -/
theorem Scheduler.schedule_settles_sampleStream :
    ∃ outcome, ∃ turns : List Turn, Scheduler.sample.schedule .sampleStream = .ok outcome
      ∧ outcome.answer = .ok () ∧ ∃ turn ∈ turns, turn.flight = .sampleFollower
        ∧ (Scheduler.sample.approach "YSSY" .sampleFollower singleMode "34L").landingTime turn.landings
          (Sequence.sampleStream.blockoutsFor "34L") .epoch ≠ .ok none := by
  have runways : ∀ change ∈ Sequence.sampleStream.modeChange, change.mode.runways ≠ [] := by
    simp [Sequence.sampleStream]
  rcases @Scheduler.schedule_settles .sample .sampleStream (by decide) (by decide) runways with
    ⟨overflow, failed, _⟩ | ⟨outcome, turns, passed, answered, pass, settles⟩
  · -- The times of the stream are far from the ends of the clock.
    obtain ⟨_, passed, _⟩ : Scheduler.sample.Succeeds .sampleStream :=
      .of_serves (by decide +kernel) Sequence.waiting_sampleStream
    simp [passed] at failed
  · have listed : Flight.sampleFollower ∈ Sequence.sampleStream.flights := by
      simp [Sequence.sampleStream]
    obtain ⟨turn, member, named⟩ := pass.exists_turn listed rfl
    refine ⟨outcome, turns, passed, answered, turn, member, named, ?_⟩
    rw [← named]
    exact settles turn member singleMode "34L" .epoch

end ArrivalManager
