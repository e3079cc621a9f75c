import ArrivalManager.Proofs.Schedule.Resolution
import ArrivalManager.Proofs.Schedule.Spacing
import ArrivalManager.Proofs.Sequence.Operation

/-! To carry out a change of the mode that is due makes no difference to any landing from then on. -/

namespace ArrivalManager

namespace Approach

variable {approach : Approach} {landings : List Landing} {blockouts others : List Blockout}
  {earliest proposed : Instant}

section Windows

variable
  (agree : ∀ time, earliest ≤ time → leaveBlockout blockouts time = leaveBlockout others time)
include agree

/-- A round reads the windows only at times that are no earlier than where it begins. -/
theorem advance_congr (late : earliest ≤ proposed) :
    approach.advance landings blockouts proposed = approach.advance landings others proposed := by
  unfold advance
  cases leaders : approach.clearBehindAll proposed landings with
  | error overflow => rfl
  | ok behindLeaders =>
    simp only [Bind.bind, Except.bind]
    cases trailer : approach.giveWay landings behindLeaders with
    | error overflow => rfl
    | ok behindTrailer =>
      -- Neither part of the round moves back, so the windows are read late enough.
      have onward := (clearBehindAll_skips leaders).1.trans (giveWay_skips trailer).1
      exact congrArg pure (agree behindTrailer (late.trans onward))

/-- A search reads the windows only at times that are no earlier than where it begins. -/
theorem settle_congr (rounds : Nat) (late : earliest ≤ proposed) :
    approach.settle landings blockouts rounds proposed
      = approach.settle landings others rounds proposed := by
  induction rounds generalizing proposed with
  | zero => rfl
  | succ rounds ih =>
    simp only [settle]
    rw [← advance_congr agree late]
    cases moved : approach.advance landings blockouts proposed with
    | error overflow => rfl
    | ok next =>
      -- The next round begins no earlier than this one.
      have onward := late.trans (advance_skips moved).1
      simp only [Bind.bind, Except.bind, ih onward]

/-- The landing time from a time on depends on the windows only from that time on. -/
theorem landingTime_congr :
    approach.landingTime landings blockouts earliest
      = approach.landingTime landings others earliest := by
  have start := (approach.startingTime_greatest landings earliest).2.1
  exact settle_congr agree maxAttempts start

end Windows

end Approach

namespace Sequence

variable {sequence before after : Sequence} {now time : Instant} {change : ModeChange}

/-- Two records of a sequence that do not differ for landings from a time on. -/
structure AgreesFrom (now : Instant) (before after : Sequence) : Prop where
  /-- The same airport is landed at. -/
  airport : after.airport = before.airport
  /-- The same mode accepts landings. -/
  modeAt : ∀ time, now ≤ time → after.modeAt time = before.modeAt time
  /-- The same window is the first one in which nothing lands, if there is any. -/
  window : ∀ runway time, now ≤ time → (after.blockoutsFor runway).find? (·.contains time)
    = (before.blockoutsFor runway).find? (·.contains time)
  /-- No change of the mode lies ahead in either of them. -/
  settled : ∀ change, before.modeChange = some change ∨ after.modeChange = some change →
    change.firstLanding ≤ now

/-- A changeover is over when the next mode accepts landings. -/
theorem find?_changeover (after : change.firstLanding ≤ time) :
    change.changeover.toList.find? (·.contains time) = none := by
  unfold ModeChange.changeover Blockout.between
  split
  · simp [Except.toOption, Blockout.contains, after]
  · rfl

/-- In records that agree, the same windows have to be left. -/
theorem AgreesFrom.leaveBlockout_eq (agree : before.AgreesFrom now after) (runway : String)
    (later : now ≤ time) : leaveBlockout (after.blockoutsFor runway) time
      = leaveBlockout (before.blockoutsFor runway) time := by
  simp only [leaveBlockout, agree.window runway time later]

/-- In records that agree, a runway is closed at the same times. -/
theorem AgreesFrom.contains_iff (agree : before.AgreesFrom now after) (runway : String)
    (later : now ≤ time) : (∃ blockout ∈ after.blockoutsFor runway, blockout.contains time = true)
      ↔ ∃ blockout ∈ before.blockoutsFor runway, blockout.contains time = true := by
  rw [← List.find?_isSome, ← List.find?_isSome, agree.window runway time later]

/-- To carry out a change that is due makes no difference from then on. -/
theorem agreesFrom_changeMode (planned : sequence.modeChange = some change)
    (due : change.firstLanding ≤ now) :
    sequence.AgreesFrom now (sequence.changeMode change.mode) where
  airport := rfl
  modeAt time later := (modeAt_from planned (due.trans later)).symm
  window runway time later := by
    -- Both records have the same slots, and the changeover is over.
    simp [blockoutsFor, changeMode, planned, find?_changeover (due.trans later)]
  settled other known := by
    rcases known with here | there
    · obtain rfl : change = other := Option.some.inj (planned.symm.trans here)
      exact due
    · cases there

end Sequence

namespace Scheduler

variable {scheduler : Scheduler} {before after sequence : Sequence} {now earliest : Instant}
  {flight : Flight} {landings : List Landing} {mode : RunwayMode}

/-- With no change of the mode ahead, a flight is looked for in the mode of its estimate only. -/
theorem resolve_of_settled
    (settled : ∀ change, sequence.modeChange = some change →
      change.firstLanding ≤ flight.landing.estimate) :
    scheduler.resolve sequence flight landings
      = scheduler.bestRunway sequence flight (sequence.modeAt flight.landing.estimate)
        flight.landing.estimate landings := by
  unfold resolve Sequence.modeAt
  cases planned : sequence.modeChange with
  | none => rfl
  | some change => simp only [if_pos (settled change planned)]

section Agreement

variable (agree : before.AgreesFrom now after)
include agree

/-- On each runway, the landing time is the same from any later time on. -/
theorem landingTimeOn_agree (late : now ≤ earliest) (runway : String) :
    scheduler.landingTimeOn after flight mode earliest landings runway
      = scheduler.landingTimeOn before flight mode earliest landings runway := by
  have same (approach : Approach) :
      approach.landingTime landings (after.blockoutsFor runway) earliest
        = approach.landingTime landings (before.blockoutsFor runway) earliest := by
    apply Approach.landingTime_congr
    intro time later
    exact agree.leaveBlockout_eq runway (late.trans later)
  simp only [landingTimeOn, agree.airport, same]

/-- The scan over runways finds the same landing. -/
theorem earliestOn_agree (late : now ≤ earliest) {runways : List String}
    {best : Option (Instant × String)} :
    scheduler.earliestOn after flight mode earliest landings runways best
      = scheduler.earliestOn before flight mode earliest landings runways best := by
  induction runways generalizing best with
  | nil => rfl
  | cons runway rest ih =>
    -- The first runway gives the same landing time, so the same best one is handed on.
    simp only [earliestOn, landingTimeOn_agree agree late, ih]

/-- The best runway of a mode is the same. -/
theorem bestRunway_agree (late : now ≤ earliest) :
    scheduler.bestRunway after flight mode earliest landings
      = scheduler.bestRunway before flight mode earliest landings := by
  simp only [bestRunway, earliestOn_agree agree late]

/-- A flight that is expected later is resolved alike. -/
theorem resolve_agree (expected : now ≤ flight.landing.estimate) :
    scheduler.resolve after flight landings = scheduler.resolve before flight landings := by
  have settledAfter : ∀ change, after.modeChange = some change →
      change.firstLanding ≤ flight.landing.estimate := by
    intro change planned
    exact (agree.settled change (.inr planned)).trans expected
  have settledBefore : ∀ change, before.modeChange = some change →
      change.firstLanding ≤ flight.landing.estimate := by
    intro change planned
    exact (agree.settled change (.inl planned)).trans expected
  -- Neither record has a change ahead of the estimate, so both look in the mode of that time.
  rw [resolve_of_settled settledAfter, resolve_of_settled settledBefore,
    agree.modeAt _ expected, bestRunway_agree agree expected]

/-- A flight that is expected later has the same turn. -/
theorem handle_agree (expected : now ≤ flight.landing.estimate) :
    scheduler.handle after landings flight = scheduler.handle before landings flight := by
  simp only [handle, scheduleWithDelay, scheduleWithoutDelay, runwayAtEstimate,
    resolve_agree agree expected, agree.modeAt _ expected]

/-- Flights that are all expected later have the same turns. -/
theorem handleAll_agree {queue : List Flight}
    (expected : ∀ flight ∈ queue, now ≤ flight.landing.estimate) :
    scheduler.handleAll after landings queue = scheduler.handleAll before landings queue := by
  induction queue generalizing landings with
  | nil => rfl
  | cons flight rest ih =>
    have here := expected flight List.mem_cons_self
    have behind : ∀ other ∈ rest, now ≤ other.landing.estimate := by
      intro other waits
      exact expected other (List.mem_cons_of_mem _ waits)
    -- The turn is the same, so it settles the same landing for the turns that follow.
    simp only [handleAll, handle_agree agree here, ih behind]

/-- A pass leads to the same answer and the same flights. -/
theorem schedule_agree (same : after.flights = before.flights)
    (expected : ∀ flight ∈ before.flights, flight.state.isSchedulable = true →
      now ≤ flight.landing.estimate) :
    (scheduler.schedule after).map (fun outcome => (outcome.answer, outcome.after.flights))
      = (scheduler.schedule before).map fun outcome => (outcome.answer, outcome.after.flights) := by
  have late : ∀ flight ∈ waiting before.flights, now ≤ flight.landing.estimate := by
    intro flight queued
    obtain ⟨tracked, waits⟩ := mem_waiting.mp queued
    exact expected flight tracked waits
  unfold schedule
  rw [same, handleAll_agree agree late]
  -- What the turns lead to is put together from the same flights.
  cases scheduler.handleAll before (anchors before.flights) (waiting before.flights) <;> rfl

end Agreement

end Scheduler

/--
To swap the modes is invisible to landings from then on.

It changes neither the mode at a later time nor whether a runway is closed then. If no flight that
waits is expected earlier, a pass gives the same flights and the same answer, failures included: it
makes no difference whether the next mode is reached through the planned change or already in effect.
-/
theorem Sequence.trySwapModes_invisible (scheduler : Scheduler) (sequence : Sequence)
    (now : Instant) :
    (∀ time, now ≤ time →
      (sequence.trySwapModes now).2.modeAt time = sequence.modeAt time
        ∧ ∀ runway, (∃ blockout ∈ (sequence.trySwapModes now).2.blockoutsFor runway,
            blockout.contains time = true)
          ↔ ∃ blockout ∈ sequence.blockoutsFor runway, blockout.contains time = true)
      ∧ ((∀ flight ∈ sequence.flights, flight.state.isSchedulable = true →
          now ≤ flight.landing.estimate) →
        (scheduler.schedule (sequence.trySwapModes now).2).map
            (fun outcome => (outcome.answer, outcome.after.flights))
          = (scheduler.schedule sequence).map
            fun outcome => (outcome.answer, outcome.after.flights)) := by
  rcases sequence.trySwapModes_cases now with same | ⟨change, planned, due, swapped⟩
  · -- Nothing is due, and nothing is changed.
    rw [same]
    exact ⟨fun _ _ => ⟨rfl, fun _ => Iff.rfl⟩, fun _ => rfl⟩
  · rw [swapped]
    have agree := agreesFrom_changeMode planned due
    refine ⟨?_, ?_⟩
    · intro time later
      exact ⟨agree.modeAt time later, fun runway => agree.contains_iff runway later⟩
    · -- The change of the mode leaves the flights alone, so both passes have the same to schedule.
      intro expected
      exact Scheduler.schedule_agree agree rfl expected

/-- Two flights at an airport that goes over to another runway, with a minute between the modes. -/
def Sequence.sampleChange : Sequence :=
  { Sequence.samplePair with
    modeChange := some
      { mode := { southMode with runways := [sampleRunway "16R" [] [] ["RIVET"]] }
        lastLanding := ⟨-60000000000, by decide, by decide⟩
        firstLanding := .epoch
        last_le_first := by decide } }

/-- The modes of the sample are swapped, and the pass that schedules its flights does not notice. -/
theorem Sequence.trySwapModes_invisible_sampleChange :
    (Sequence.sampleChange.trySwapModes .epoch).1 = true
      ∧ Scheduler.sample.Succeeds .sampleChange
      ∧ (Scheduler.sample.schedule (Sequence.sampleChange.trySwapModes .epoch).2).map
          (fun outcome => (outcome.answer, outcome.after.flights))
        = (Scheduler.sample.schedule .sampleChange).map
          fun outcome => (outcome.answer, outcome.after.flights) := by
  refine ⟨by decide, by decide +kernel, ?_⟩
  apply (Sequence.trySwapModes_invisible Scheduler.sample .sampleChange .epoch).2
  decide

end ArrivalManager
