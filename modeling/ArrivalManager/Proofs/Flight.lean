import ArrivalManager.Flight
import ArrivalManager.Proofs.FlightState
import ArrivalManager.Proofs.Result
import ArrivalManager.Proofs.Time

/-! What scheduling does to a flight, and what it leaves alone. -/

namespace ArrivalManager

/-- A fix that is still ahead is scheduled a delay after its estimate; nothing else changes. -/
def FixFollows (delay : Duration) (before after : Option FeederFix) : Prop :=
  match before with
  | none => after = none
  | some fix =>
    if fix.isPassed then after = some fix
    else ∃ scheduled, fix.times.estimate.plus delay = .ok scheduled
      ∧ after = some { fix with times := { fix.times with scheduled } }

/-- A fix that follows a delay is still the same fix. -/
theorem FixFollows.identifier {delay : Duration} {before after : Option FeederFix}
    (follows : FixFollows delay before after) :
    after.map (·.identifier) = before.map (·.identifier) := by
  unfold FixFollows at follows
  split at follows
  · -- Without a fix there is none afterwards.
    rw [follows]
  · split at follows
    · -- A fix behind the flight stays as it is.
      rw [follows]
    · -- A fix ahead gets another time, but no other name.
      obtain ⟨scheduled, _, rfl⟩ := follows
      rfl

namespace Flight

variable {flight before after : Flight} {time : Instant} {runway : String}

/-- Scheduling sets the landing time and the runway, and delays a fix ahead as much as the landing. -/
theorem schedule_eq_ok (done : flight.schedule time runway = .ok after) :
    after = { flight with
        landing := { flight.landing with scheduled := time }
        assignment := some ⟨runway, flight.runwayPinned⟩
        fix := after.fix }
      ∧ FixFollows (time.since flight.landing.estimate) flight.fix after.fix := by
  unfold schedule commitLandingTime at done
  simp only [assignRunway] at done
  unfold FixFollows
  revert done
  -- The fix decides what happens: there is none, it is behind the flight, or it is still ahead.
  cases flight.fix with
  | none =>
    intro done
    cases done
    simp
  | some fix =>
    intro done
    dsimp only at done ⊢
    split at done
    · rename_i passed
      cases done
      simp [passed]
    · rename_i ahead
      obtain ⟨scheduled, delayed, done⟩ := bind_eq_ok.mp done
      cases pure_eq_ok.mp done
      rw [if_neg ahead]
      exact ⟨rfl, scheduled, delayed, rfl⟩

/-- A flight after its turn in a pass: only what a pass may set has changed. -/
structure Rescheduled (before after : Flight) : Prop where
  others : after = { before with
    landing := { before.landing with scheduled := after.landing.scheduled }
    assignment := after.assignment
    fix := after.fix
    flow := after.flow }
  fixIdentifier : after.fixIdentifier = before.fixIdentifier
  runwayPinned : after.runwayPinned = before.runwayPinned

namespace Rescheduled

/-- A flight that is left as it is counts as rescheduled. -/
theorem refl (flight : Flight) : Rescheduled flight flight := ⟨rfl, rfl, rfl⟩

/-- Scheduling and setting the speed restriction reschedules a flight. -/
theorem of_schedule (done : flight.schedule time runway = .ok after) (flow : FlowControl) :
    Rescheduled flight { after with flow } := by
  obtain ⟨shape, follows⟩ := schedule_eq_ok done
  refine ⟨?_, follows.identifier, ?_⟩
  · rw [shape]
  · -- The runway is assigned with the pin that it had.
    have assigned := congrArg Flight.assignment shape
    simp [Flight.runwayPinned, assigned]

variable (rescheduled : Rescheduled before after)
include rescheduled

/-- The callsign stays. -/
theorem callsign : after.callsign = before.callsign := by rw [rescheduled.others]

/-- The aircraft stays. -/
theorem aircraft : after.aircraft = before.aircraft := by rw [rescheduled.others]

/-- The state stays. -/
theorem state : after.state = before.state := by rw [rescheduled.others]

/-- Whether the flight is to be delayed stays. -/
theorem noDelay : after.noDelay = before.noDelay := by rw [rescheduled.others]

/-- Whether a controller chose the landing time stays. -/
theorem manualLandingTime : after.manualLandingTime = before.manualLandingTime := by
  rw [rescheduled.others]

end Rescheduled

/-- A flight whose landing is left to the scheduler: nothing about it was chosen by a controller. -/
structure Delegated (flight : Flight) : Prop where
  noDelay : flight.noDelay = false
  manualLandingTime : flight.manualLandingTime = false
  runwayPinned : flight.runwayPinned = false

/-- What is left to the scheduler stays left to it when it is rescheduled. -/
theorem Rescheduled.delegated (rescheduled : before.Rescheduled after) (left : before.Delegated) :
    after.Delegated :=
  ⟨rescheduled.noDelay.trans left.noDelay,
    rescheduled.manualLandingTime.trans left.manualLandingTime,
    rescheduled.runwayPinned.trans left.runwayPinned⟩

/-- What new data leaves alone: who a flight is, and what was decided about its landing. -/
structure Keeps (before after : Flight) : Prop where
  callsign : after.callsign = before.callsign
  aircraft : after.aircraft = before.aircraft
  fixIdentifier : after.fixIdentifier = before.fixIdentifier
  scheduled : after.landing.scheduled = before.landing.scheduled
  assignment : ∀ assigned, before.assignment = some assigned → after.assignment = some assigned
  delegated : before.Delegated → after.Delegated

namespace Keeps

/-- A flight without new data keeps everything. -/
theorem refl (flight : Flight) : flight.Keeps flight :=
  ⟨rfl, rfl, rfl, rfl, fun _ assigned => assigned, id⟩

/-- What new data leaves alone twice is left alone. -/
theorem trans {middle : Flight} (first : before.Keeps middle) (second : middle.Keeps after) :
    before.Keeps after where
  callsign := second.callsign.trans first.callsign
  aircraft := second.aircraft.trans first.aircraft
  fixIdentifier := second.fixIdentifier.trans first.fixIdentifier
  scheduled := second.scheduled.trans first.scheduled
  assignment assigned known := second.assignment assigned (first.assignment assigned known)
  delegated left := second.delegated (first.delegated left)

/-- A runway that is assigned stays assigned. -/
theorem runway_eq (keeps : before.Keeps after) (assigned : before.runway = some runway) :
    after.runway = some runway := by
  -- The assignment is kept as a whole, and the runway is part of it.
  obtain ⟨assignment, known, rfl⟩ := Option.map_eq_some_iff.mp assigned
  rw [Flight.runway, keeps.assignment assignment known]
  rfl

/-- A flight that has a runway is never without one. -/
theorem assigned (keeps : before.Keeps after) (lands : before.runway.isSome = true) :
    after.runway.isSome = true := by
  obtain ⟨runway, assigned⟩ := Option.isSome_iff_exists.mp lands
  rw [keeps.runway_eq assigned]
  rfl

end Keeps

/-- A flight in another state is otherwise the same. -/
theorem keeps_state (flight : Flight) (state : FlightState) : flight.Keeps { flight with state } :=
  ⟨rfl, rfl, rfl, rfl, fun _ assigned => assigned, fun left => ⟨left.1, left.2, left.3⟩⟩

/-- A change of the state that is not refused changes nothing else. -/
theorem setState_eq_ok {target : FlightState} (done : flight.setState target = .ok after) :
    after = { flight with state := target } := by
  unfold setState at done
  -- Both refusals leave no flight, so what is left is the change itself.
  split at done
  · cases done
  · dsimp only at done
    split at done
    · cases done
    · exact (Except.ok.inj done).symm

/-- Activation begins a period; it changes times, but nothing that was decided otherwise. -/
theorem activate_frame (flight : Flight) (now : Instant) :
    ∃ landing fix, flight.activate now
        = { flight with landing, fix, activated := some now }
      ∧ fix.map (·.identifier) = flight.fixIdentifier := by
  unfold activate
  split
  · -- Only the first activation takes the estimates over.
    exact ⟨flight.landing.begin, _, rfl, by simp [fixIdentifier, Function.comp_def]⟩
  · -- A later one leaves the times as they are.
    exact ⟨flight.landing, flight.fix, rfl, rfl⟩

/-- Activation leaves to the scheduler what was left to it. -/
theorem Delegated.activate (delegated : flight.Delegated) (now : Instant) :
    (flight.activate now).Delegated := by
  obtain ⟨landing, fix, same, _⟩ := flight.activate_frame now
  rw [same]
  exact ⟨delegated.1, delegated.2, delegated.3⟩

/-- Only a desequenced flight resumes; it is unstable again and starts a new period. -/
theorem resume_eq_ok {now : Instant} (done : flight.resume now = .ok after) :
    flight.state = .desequenced ∧ after = activate { flight with state := .unstable } now := by
  unfold resume at done
  -- A removed flight is refused, and so is one in any state but the desequenced one.
  split at done
  · cases done
  · rename_i parked
    exact ⟨parked, (Except.ok.inj done).symm⟩
  · cases done

/-- Promotions stay within the chain of states. -/
theorem promotedState_isSequenced (due : FlightState → Bool) (state : FlightState) :
    (promotedState due state).isSequenced = state.isSequenced := by
  -- Every state that a promotion leads to belongs to the chain, and so does the one it starts from.
  cases state <;> simp only [promotedState]
  all_goals repeat' split
  all_goals rfl

end Flight

end ArrivalManager
