import ArrivalManager.Proofs.Flight.Identity

/-! A feeder fix that a flight has crossed: what locks it, and the one thing that the lock misses. -/

namespace ArrivalManager

/--
A crossed fix later on: its crossing and its estimate are what they were.

So is its scheduled time, unless a first activation has begun the times of the fix anew.
-/
structure FeederFix.LockedAs (before : FeederFix) (begun : Bool) (after : FeederFix) : Prop where
  identifier : after.identifier = before.identifier
  crossing : after.crossing = before.crossing
  estimate : after.times.estimate = before.times.estimate
  scheduled : after.times.scheduled
    = if begun then before.times.estimate else before.times.scheduled

namespace Flight

variable {flight before middle after first last : Flight} {fix : FeederFix} {time : Instant}
  {operation : Operation} {answer : Answer} {steps : List Step}

/-- Whether a flight is activated for the first time between two records of it. -/
def begunBetween (before after : Flight) : Bool :=
  before.activated.isNone && after.activated.isSome

/-- Nothing begins between two records with the same activation. -/
theorem begunBetween_same (same : after.activated = before.activated) :
    before.begunBetween after = false := by
  unfold begunBetween
  rw [same]
  cases before.activated <;> rfl

/-- What operations keep of a flight that has crossed its fix. -/
structure KeepsCrossing (before after : Flight) : Prop where
  callsign : after.callsign = before.callsign
  activated : before.activated.isSome = true → after.activated.isSome = true
  fix : ∀ fix, before.fix = some fix → fix.isPassed = true →
    ∃ later, after.fix = some later ∧ fix.LockedAs (before.begunBetween after) later

namespace KeepsCrossing

/-- Without an activation, the crossing is kept if a crossed fix keeps its times. -/
theorem of_unbegun (callsign : after.callsign = before.callsign)
    (activated : after.activated = before.activated)
    (fix : ∀ fix, before.fix = some fix → fix.isPassed = true →
      ∃ later, after.fix = some later ∧ fix.LockedAs false later) :
    before.KeepsCrossing after where
  callsign := callsign
  activated once := by rwa [activated]
  fix := by rwa [begunBetween_same activated]

/-- Operations that neither activate a flight nor touch its fix keep the crossing. -/
theorem of_same (callsign : after.callsign = before.callsign)
    (activated : after.activated = before.activated) (same : after.fix = before.fix) :
    before.KeepsCrossing after :=
  of_unbegun callsign activated fun fix here _ => ⟨fix, same.trans here, rfl, rfl, rfl, rfl⟩

/-- A record keeps its own crossing. -/
theorem refl (flight : Flight) : flight.KeepsCrossing flight := of_same rfl rfl rfl

/-- A flight is begun between two records exactly if it is before or after one between them. -/
theorem begunBetween_or (first : before.KeepsCrossing middle) (second : middle.KeepsCrossing after) :
    before.begunBetween after = (before.begunBetween middle || middle.begunBetween after) := by
  have early := first.activated
  have late := second.activated
  unfold begunBetween
  revert early late
  -- A flight that is activated stays so, which leaves four of the eight combinations.
  cases before.activated <;> cases middle.activated <;> cases after.activated <;> simp

/-- What is kept twice in a row is kept. -/
theorem trans (first : before.KeepsCrossing middle) (second : middle.KeepsCrossing after) :
    before.KeepsCrossing after where
  callsign := second.callsign.trans first.callsign
  activated once := second.activated (first.activated once)
  fix fix here passed := by
    obtain ⟨between, there, locked⟩ := first.fix fix here passed
    have still : between.isPassed = true := by
      rw [FeederFix.isPassed, locked.crossing]
      exact passed
    obtain ⟨later, found, kept⟩ := second.fix between there still
    refine ⟨later, found, kept.identifier.trans locked.identifier,
      kept.crossing.trans locked.crossing, kept.estimate.trans locked.estimate, ?_⟩
    rw [kept.scheduled, locked.scheduled, locked.estimate, begunBetween_or first second]
    cases before.begunBetween middle <;> cases middle.begunBetween after <;> rfl

end KeepsCrossing

/-- Activation keeps the crossing; the first one takes the estimate over as the scheduled time. -/
theorem activate_keepsCrossing (flight : Flight) (now : Instant) :
    flight.KeepsCrossing (flight.activate now) := by
  cases activated : flight.activated with
  | some earlier =>
    -- A flight that has begun keeps all its times.
    have same : flight.activate now = { flight with activated := some now } := by
      simp [activate, activated]
    rw [same]
    refine ⟨rfl, fun _ => rfl, fun fix here _ => ⟨fix, here, rfl, rfl, rfl, ?_⟩⟩
    simp [begunBetween, activated]
  | none =>
    have begun : flight.activate now = { flight with
        landing := flight.landing.begin
        fix := flight.fix.map fun fix => { fix with times := fix.times.begin }
        activated := some now } := by
      simp [activate, activated]
    rw [begun]
    refine ⟨rfl, fun _ => rfl, fun fix here _ => ?_⟩
    refine ⟨{ fix with times := fix.times.begin }, by simp [here], rfl, rfl, rfl, ?_⟩
    simp [begunBetween, activated, PointTimes.begin]

/-- A change of the fix is refused once the fix is crossed. -/
theorem updateFix_crossed (change : FeederFix → FeederFix) (crossed : flight.fix = some fix)
    (passed : fix.isPassed = true) :
    flight.updateFix change = .error (.feederFixPassed flight.callsign) := by
  simp [updateFix, crossed, passed]

/-- A change of the fix that is not refused is none of a crossed fix. -/
theorem updateFix_keepsCrossing {change : FeederFix → FeederFix}
    (done : flight.updateFix change = .ok after) : flight.KeepsCrossing after := by
  obtain ⟨fix, changed⟩ := updateFix_frame done
  apply KeepsCrossing.of_unbegun
  · rw [changed]
  · rw [changed]
  · intro fix here passed
    rw [updateFix_crossed change here passed] at done
    contradiction

/-- Setting the landing time moves the scheduled time of a fix only while that lies ahead. -/
theorem commitLandingTime_keepsCrossing (done : flight.commitLandingTime time = .ok after) :
    flight.KeepsCrossing after := by
  obtain ⟨fix, changed⟩ := commitLandingTime_frame done
  apply KeepsCrossing.of_unbegun
  · rw [changed]
  · rw [changed]
  · intro fix here passed
    have kept : flight.commitLandingTime time
        = .ok { flight with landing := { flight.landing with scheduled := time } } := by
      simp [commitLandingTime, here, passed]
    cases Except.ok.inj (kept.symm.trans done)
    exact ⟨fix, here, rfl, rfl, rfl, rfl⟩

/-- New estimates of the flight data system are kept beside those of the fix. -/
theorem setSystemEstimates_keepsCrossing (flight : Flight) (entry : Option Instant)
    (landing : Instant) : flight.KeepsCrossing (flight.setSystemEstimates entry landing) := by
  refine .of_unbegun rfl rfl ?_
  intro fix here _
  refine ⟨{ fix with times := { fix.times with system := entry.getD fix.times.system } }, ?_,
    rfl, rfl, rfl, rfl⟩
  simp [setSystemEstimates, here]

/-- An operation that is not refused keeps the crossing. -/
theorem answer_keepsCrossing (done : flight.answer operation = .ok (answer, after)) :
    flight.KeepsCrossing after := by
  cases operation with
  | activate now =>
    cases done
    exact flight.activate_keepsCrossing now
  | setState target =>
    rw [setState_eq_ok (attempt_eq_ok done)]
    exact .of_same rfl rfl rfl
  | resume now =>
    -- The flight is unstable again before it is activated.
    obtain ⟨_, rfl⟩ := resume_eq_ok (attempt_eq_ok done)
    have unstable : flight.KeepsCrossing { flight with state := .unstable } := .of_same rfl rfl rfl
    exact unstable.trans (activate_keepsCrossing _ now)
  | setSystemEstimates entry landing =>
    cases done
    exact flight.setSystemEstimates_keepsCrossing entry landing
  | updateFixEstimate _ | scheduleFix _ | recordCrossing _ =>
    exact updateFix_keepsCrossing (attempt_eq_ok done)
  | schedule time runway =>
    -- The runway is assigned before the landing time is set.
    have assigned : flight.KeepsCrossing (flight.assignRunway runway flight.runwayPinned) :=
      .of_same rfl rfl rfl
    exact assigned.trans (commitLandingTime_keepsCrossing (onClock_eq_ok done))
  | pinLandingTime time =>
    have marked : flight.KeepsCrossing { flight with manualLandingTime := true } :=
      .of_same rfl rfl rfl
    exact marked.trans (commitLandingTime_keepsCrossing (onClock_eq_ok done))
  | order other =>
    -- Comparing two flights only looks at them.
    obtain ⟨_, _, done⟩ := bind_eq_ok.mp done
    cases pure_eq_ok.mp done
    exact .refl flight
  | promote _ _ | updateLandingEstimate _ | assignRunway _ _ | releaseRunway | setArrival _
  | setHighPriority _ | setNoDelay _ | releaseLandingTime | setFlow _ | updatePosition _ =>
    -- What is left sets single fields, neither the fix nor the activation.
    cases done
    exact .of_same rfl rfl rfl

/-- A run of operations keeps the crossing. -/
theorem Runs.keepsCrossing (run : first.Runs steps last) : first.KeepsCrossing last :=
  run.relates_of_answer KeepsCrossing KeepsCrossing.refl KeepsCrossing.trans answer_keepsCrossing

/-- The operations that only change the feeder fix. -/
def Operation.changesFix : Operation → Bool
  | .updateFixEstimate _ | .scheduleFix _ | .recordCrossing _ => true
  | _ => false

/-- Once the fix is crossed, the operations that only change it are refused. -/
theorem perform_changesFix (changes : operation.changesFix = true) (crossed : flight.fix = some fix)
    (passed : fix.isPassed = true) :
    flight.perform operation = .ok ⟨.error (.feederFixPassed flight.callsign), flight⟩ := by
  cases operation with
  | updateFixEstimate _ | scheduleFix _ | recordCrossing _ =>
    simp only [perform, Flight.answer, attempt, updateFixEstimate, scheduleFix, recordCrossing]
    rw [updateFix_crossed _ crossed passed]
    rfl
  | _ => contradiction

/--
No run of operations unlocks a feeder fix that was crossed.

Its crossing and its estimate stay, and the operations that only change the fix are refused. Its
scheduled time stays too, unless the run activates the flight for the first time: activation takes
the estimate over as the scheduled time, and does not look at the crossing.
-/
theorem crossing_locks_fix (run : first.Runs steps last) (crossed : first.fix = some fix)
    (passed : fix.isPassed = true) :
    (∃ later, last.fix = some later ∧ fix.LockedAs (first.begunBetween last) later)
      ∧ ∀ operation : Operation, operation.changesFix = true →
        last.perform operation = .ok ⟨.error (.feederFixPassed first.callsign), last⟩ := by
  have keeps := run.keepsCrossing
  obtain ⟨later, found, locked⟩ := keeps.fix fix crossed passed
  have still : later.isPassed = true := by
    rw [FeederFix.isPassed, locked.crossing]
    exact passed
  refine ⟨⟨later, found, locked⟩, ?_⟩
  intro operation changes
  rw [perform_changesFix changes found still, keeps.callsign]

/-- Nine minutes after the epoch. -/
def sampleLater : Instant := ⟨540000000000, by decide, by decide⟩

/-- An arrival through a feeder fix that lies ahead. -/
def sampleApproaching : Flight :=
  { Flight.inbound "QFA1" ⟨⟨.medium, true⟩, "B738"⟩ "YSSY" .epoch with
    fix := some (.ahead "RIVET" .epoch) }

/-- The same arrival, delayed on its way to the fix and past it before it is activated. -/
def sampleCrossed : Flight :=
  { sampleApproaching with
    fix := some ⟨"RIVET", ⟨.epoch, .epoch, sampleLater, .epoch⟩, some .untracked⟩ }

/-- Operations on a crossed fix, with the first activation among them. -/
def sampleAttempts : List Operation :=
  [.updateFixEstimate .epoch, .pinLandingTime sampleLater, .activate .epoch,
    .recordCrossing (.observed .epoch), .scheduleFix .epoch]

/-- A crossed fix stays locked through these operations, and at the end of them. -/
theorem crossing_locks_fix_sampleCrossed :
    ∃ steps last, sampleCrossed.Runs steps last ∧ steps.map (·.operation) = sampleAttempts
      ∧ (∃ later, last.fix = some later
        ∧ FeederFix.LockedAs ⟨"RIVET", ⟨.epoch, .epoch, sampleLater, .epoch⟩, some .untracked⟩
          true later)
      ∧ last.perform (.scheduleFix .epoch) = .ok ⟨.error (.feederFixPassed "QFA1"), last⟩ := by
  obtain ⟨steps, run, operations, _⟩ := performAll_eq_ok.mp
    (rfl : sampleCrossed.performAll sampleAttempts = .ok (_, _))
  obtain ⟨locked, refuses⟩ := crossing_locks_fix run rfl rfl
  exact ⟨steps, _, run, operations, locked, refuses (.scheduleFix .epoch) rfl⟩

/-- A crossed fix is not locked in full: its scheduled time changes with the first activation. -/
theorem activation_reschedules_sampleCrossed :
    sampleApproaching.prepare [.updateFixEstimate sampleLater, .recordCrossing .untracked]
        = .ok sampleCrossed
      ∧ ∃ steps last, sampleCrossed.Runs steps last ∧ steps.map (·.operation) = [.activate .epoch]
        ∧ sampleCrossed.fix.map (·.times.scheduled) = some .epoch
        ∧ last.fix.map (·.times.scheduled) = some sampleLater
        ∧ sampleLater ≠ .epoch := by
  obtain ⟨steps, run, operations, _⟩ := performAll_eq_ok.mp
    (rfl : sampleCrossed.performAll [.activate .epoch] = .ok (_, _))
  exact ⟨rfl, steps, _, run, operations, rfl, rfl, by decide⟩

end Flight

end ArrivalManager
