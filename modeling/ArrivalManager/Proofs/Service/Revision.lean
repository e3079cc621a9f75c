import ArrivalManager.Proofs.Estimate
import ArrivalManager.Proofs.Flight.Identity
import ArrivalManager.Proofs.Sequence.Tracking
import ArrivalManager.Service.Command

/-! What a command makes of the record of one flight, and which of its data stand. -/

namespace ArrivalManager

open Estimation

variable {command : Command} {flight : Flight} {now : Instant}

/-- The commands by which no controller decides about a landing, a runway or a mode. -/
def Command.isRoutine : Command → Bool
  | .updateFlight _ | .desequence _ | .resume _ | .remove _ | .setHighPriority _ _ => true
  | .createSlot _ _ _ | .modifySlot _ _ _ | .deleteSlot _ | .recompute => true
  | .insertFlight _ _ _ | .changeRunway _ _ | .setNoDelay _ _ | .changeLandingTime _ _ => false
  | .releaseLandingTime _ | .changeMode _ | .scheduleModeChange _ _ _ => false

/-- Whether a command decides anew about the landing of a flight, or takes it in or out. -/
def Command.decidesOn (command : Command) (callsign : Callsign) : Bool :=
  match command with
  | .changeRunway named _ | .changeLandingTime named _ => named = callsign
  | .desequence named | .resume named | .remove named => named = callsign
  | _ => false

namespace Flight

variable {old middle new : Flight}

/-- A record in which the landing of a flight stands: its time, and its runway once there is one. -/
structure Honours (old new : Flight) : Prop where
  scheduled : new.landing.scheduled = old.landing.scheduled
  runway : ∀ runway, old.runway = some runway → new.runway = some runway

namespace Honours

/-- A record honours its own landing. -/
theorem refl (flight : Flight) : flight.Honours flight := ⟨rfl, fun _ assigned => assigned⟩

/-- A landing that stands twice stands. -/
theorem trans (first : old.Honours middle) (second : middle.Honours new) : old.Honours new :=
  ⟨second.scheduled.trans first.scheduled,
    fun runway assigned => second.runway runway (first.runway runway assigned)⟩

end Honours

/--
A new record of a tracked flight; the landing stands unless the command decides on it.

A routine command leaves everything alone that was decided about the flight.
-/
structure Revised (command : Command) (old new : Flight) : Prop where
  same : old.SameArrival new
  keeps : command.isRoutine = true → old.Keeps new
  sequenced : new.state.isSequenced = old.state.isSequenced
  anchored : old.state.isAnchored = true → new.state.isAnchored = true
  assigned : old.runway.isSome = true → new.runway.isSome = true
  honours : command.decidesOn old.callsign = false → old.Honours new

namespace Revised

/-- A record that is left as it is counts as revised. -/
theorem refl (flight : Flight) : flight.Revised command flight :=
  ⟨.refl flight, fun _ => .refl flight, rfl, id, id, fun _ => .refl flight⟩

/-- A record that is revised twice is revised. -/
theorem trans (first : old.Revised command middle) (second : middle.Revised command new) :
    old.Revised command new where
  same := first.same.trans second.same
  keeps routine := (first.keeps routine).trans (second.keeps routine)
  sequenced := second.sequenced.trans first.sequenced
  anchored kept := second.anchored (first.anchored kept)
  assigned lands := second.assigned (first.assigned lands)
  honours spared :=
    (first.honours spared).trans (second.honours (by rw [first.same.callsign]; exact spared))

/-- New data revises a flight of the same arrival in the same state. -/
theorem of_keeps (keeps : old.Keeps new) (same : old.SameArrival new)
    (state : new.state = old.state) : old.Revised command new where
  same := same
  keeps _ := keeps
  sequenced := by rw [state]
  anchored := by rw [state]; exact id
  assigned := keeps.assigned
  honours _ := ⟨keeps.scheduled, fun _ assigned => keeps.runway_eq assigned⟩

end Revised

/-- A flight that keeps its landing keeps it in every state that it is promoted to. -/
theorem promotedState_isAnchored (due : FlightState → Bool) (state : FlightState)
    (anchored : state.isAnchored = true) : (promotedState due state).isAnchored = true := by
  -- Promotions go up the chain, and the states that keep a landing are its upper part.
  cases state <;> simp only [FlightState.isAnchored, Bool.false_eq_true] at anchored <;>
    simp only [promotedState]
  all_goals repeat' split
  all_goals rfl

/-- A promotion concerns nothing but the state. -/
theorem promote_revised (flight : Flight) (now : Instant) (thresholds : Thresholds) :
    flight.Revised command (flight.promote now thresholds) where
  same := ⟨rfl, rfl⟩
  keeps _ := flight.keeps_state _
  sequenced := promotedState_isSequenced _ _
  anchored := promotedState_isAnchored _ _
  assigned := id
  honours _ := ⟨rfl, fun _ assigned => assigned⟩

end Flight

/-- The latest data of a flight changes nothing that was decided about it. -/
theorem FlightUpdate.applyTo_keeps (update : FlightUpdate) (flight : Flight) :
    flight.Keeps (update.applyTo flight) ∧ (update.applyTo flight).state = flight.state := by
  -- A runway in the data counts only where none is assigned, and it is never pinned.
  have unpinned (left : flight.Delegated) :
      (flight.assignment.or (update.runway.map (⟨·, false⟩))).any (·.pinned) = false := by
    have free := left.runwayPinned
    unfold Flight.runwayPinned at free
    cases assigned : flight.assignment with
    | none => cases update.runway <;> rfl
    | some assignment => simpa [assigned] using free
  unfold applyTo
  dsimp only
  split
  · -- Without a crossing in the data, only the system estimate at the fix changes.
    refine ⟨⟨rfl, rfl, ?_, rfl, ?_, fun left => ⟨left.1, left.2, unpinned left⟩⟩, rfl⟩
    · simp [Flight.fixIdentifier, Flight.setSystemEstimates, Function.comp_def]
    · intro assigned known
      simp [Flight.setSystemEstimates, known]
  · -- A crossing is recorded at the fix, which keeps its name.
    refine ⟨⟨rfl, rfl, ?_, rfl, ?_, fun left => ⟨left.1, left.2, unpinned left⟩⟩, rfl⟩
    · simp only [Flight.fixIdentifier, Flight.setSystemEstimates, Option.map_map]
      congr 1
      funext fix
      simp only [Function.comp_def]
      split <;> rfl
    · intro assigned known
      simp [Flight.setSystemEstimates, known]

/-- The latest data of a flight are data of the same arrival. -/
theorem FlightUpdate.applyTo_sameArrival (update : FlightUpdate) (flight : Flight) :
    flight.SameArrival (update.applyTo flight) := by
  unfold applyTo
  dsimp only
  split <;> exact ⟨rfl, rfl⟩

/-- New estimates belong to the same arrival. -/
theorem Estimator.refresh_sameArrival {estimator : Estimator} {airport : Airport} {after : Flight}
    (given : Gives (estimator.refresh airport flight now) after) : flight.SameArrival after := by
  obtain ⟨_, _, rfl⟩ := refresh_frame given
  exact ⟨rfl, rfl⟩

namespace Service

variable {service : Service}

/-- To bring a known flight up to date changes nothing that was decided about it. -/
theorem refreshed_keeps {airport : Airport} {update : FlightUpdate} {updated : Flight}
    (given : Gives (service.refreshed airport update flight now) updated) :
    flight.Keeps updated ∧ updated.state = flight.state := by
  obtain ⟨applied, state⟩ := update.applyTo_keeps flight
  obtain ⟨refreshed, same⟩ := Estimator.refresh_keeps given
  exact ⟨applied.trans refreshed, same.trans state⟩

/-- To bring a known flight up to date makes a new record of it in the same state. -/
theorem refreshed_revised {airport : Airport} {update : FlightUpdate} {updated : Flight}
    (given : Gives (service.refreshed airport update flight now) updated) :
    flight.Revised command updated ∧ updated.state = flight.state := by
  obtain ⟨keeps, state⟩ := refreshed_keeps given
  have same := (update.applyTo_sameArrival flight).trans (Estimator.refresh_sameArrival given)
  exact ⟨.of_keeps keeps same state, state⟩

/-- A new record of a flight as time passes: with new estimates, and in the state that they lead to. -/
def Progresses (service : Service) (airport : Airport) (now : Instant) (old new : Flight) : Prop :=
  ∃ current, Gives (service.estimator.refresh airport old now) current
    ∧ new = current.promote now service.settings.thresholds

/-- What the passage of time makes of a flight is a new record of it. -/
theorem Progresses.revised {airport : Airport} {old new : Flight}
    (progresses : service.Progresses airport now old new) : old.Revised command new := by
  obtain ⟨current, refreshed, rfl⟩ := progresses
  -- The estimates are refreshed first, and then the state may be promoted.
  obtain ⟨keeps, state⟩ := Estimator.refresh_keeps refreshed
  have same := Estimator.refresh_sameArrival refreshed
  exact .trans (.of_keeps keeps same state) (current.promote_revised now _)

/-- As time passes, each tracked flight gets a new record. -/
theorem progressed_gives {airport : Airport} {flights progressed : List Flight}
    (given : Gives (service.progressed airport now flights) progressed) :
    List.Forall₂ (service.Progresses airport now) flights progressed := by
  induction flights generalizing progressed with
  | nil =>
    obtain rfl := pure_gives.mp given
    exact .nil
  | cons flight rest ih =>
    unfold Service.progressed at given
    obtain ⟨current, refreshed, given⟩ := bind_gives.mp given
    obtain ⟨others, tail, given⟩ := bind_gives.mp given
    obtain rfl := pure_gives.mp given
    exact .cons ⟨current, refreshed, rfl⟩ (ih tail)

/-- A flight begins to be tracked as it is, or past the fix of which it missed the crossing. -/
theorem activated_gives {airport : Airport} {begun : Flight}
    (given : Gives (service.activated airport flight now) begun) :
    ∃ located, begun = located.activate now
      ∧ (missedCrossing flight now = false ∧ located = flight
        ∨ Gives (service.estimator.refresh airport { flight with
            fix := flight.fix.map fun fix => { fix with crossing := some .untracked } } now) located) := by
  unfold activated at given
  dsimp only at given
  split at given
  · obtain ⟨located, refreshed, given⟩ := bind_gives.mp given
    exact ⟨located, (pure_gives.mp given).symm, .inr refreshed⟩
  · rename_i missed
    exact ⟨flight, (pure_gives.mp given).symm, .inl ⟨by simpa using missed, rfl⟩⟩

/-- To begin to track a flight is no change of the arrival. -/
theorem activated_sameArrival {airport : Airport} {begun : Flight}
    (given : Gives (service.activated airport flight now) begun) : flight.SameArrival begun := by
  obtain ⟨located, rfl, ⟨_, rfl⟩ | refreshed⟩ := activated_gives given
  · exact located.activate_sameArrival now
  · have crossed := Estimator.refresh_sameArrival refreshed
    exact .trans ⟨crossed.callsign, crossed.destination⟩ (located.activate_sameArrival now)

/-- A flight that begins to be tracked is left to the scheduler if it was before. -/
theorem activated_delegated {airport : Airport} {begun : Flight}
    (given : Gives (service.activated airport flight now) begun) (delegated : flight.Delegated) :
    begun.Delegated ∧ begun.state = flight.state := by
  obtain ⟨located, rfl, way⟩ := activated_gives given
  -- Whatever is activated in the end has the state of the flight, and is left to the scheduler.
  have left : located.Delegated ∧ located.state = flight.state := by
    rcases way with ⟨_, rfl⟩ | refreshed
    · exact ⟨delegated, rfl⟩
    · -- An unrecorded crossing is filled in first, which concerns only the fix.
      obtain ⟨keeps, state⟩ := Estimator.refresh_keeps refreshed
      exact ⟨keeps.delegated ⟨delegated.1, delegated.2, delegated.3⟩, state⟩
  obtain ⟨landing, fix, shape, _⟩ := located.activate_frame now
  refine ⟨left.1.activate now, ?_⟩
  rw [shape]
  exact left.2

end Service

end ArrivalManager
