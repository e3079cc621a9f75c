import ArrivalManager.Proofs.Schedule.Fairness
import ArrivalManager.Proofs.Schedule.ModeSwap
import ArrivalManager.Proofs.Sequence.Operation

/-! How far from the flight that gives it its place an inserted flight lands. -/

namespace ArrivalManager

/-- The time between two landings on a runway under a mode, whether or not the mode uses it. -/
def RunwayMode.landingInterval (mode : RunwayMode) (runway : String) : Duration :=
  match mode.runway runway with
  | some runway => runway.landingRate
  | none => mode.offModeSeparation

namespace InsertPosition

variable {position : InsertPosition} {callsign : Callsign} {interval other : Duration}
  {neighbour landing : Instant}

/-- The flight ahead of which or behind which another one is inserted. -/
def neighbour? : InsertPosition → Option Callsign
  | .before target | .after target => some target
  | .at _ => none

/-- A landing is exactly one interval ahead of its neighbour's or behind it, as the position says. -/
def Spaces (position : InsertPosition) (interval : Duration) (neighbour landing : Instant) : Prop :=
  match position with
  | .before _ => neighbour.since landing = interval
  | .after _ => landing.since neighbour = interval
  | .at time => landing = time

/-- Between a landing and its neighbour lies one interval only. -/
theorem Spaces.iff_eq (spaced : position.Spaces interval neighbour landing)
    (relative : position.neighbour? = some callsign) :
    position.Spaces other neighbour landing ↔ other = interval := by
  cases position with
  | before | after =>
    obtain rfl := spaced
    exact eq_comm
  | «at» => cases relative

end InsertPosition

/-- A flight that keeps the runway and the landing time that it was given. -/
structure Flight.PinnedTo (flight : Flight) (runway : String) (time : Instant) : Prop where
  runway : flight.runway = some runway
  runwayPinned : flight.runwayPinned = true
  manualLandingTime : flight.manualLandingTime = true
  scheduled : flight.landing.scheduled = time

namespace Sequence

variable {sequence : Sequence} {flight target pinned : Flight} {position : InsertPosition}
  {callsign : Callsign} {runway : String} {place : Option String} {time : Instant}
  {outcome : Outcome Sequence Unit}

/-- What passes between a flight and its neighbours is the interval of its runway in the current mode. -/
theorem landingInterval_eq (assigned : target.runway = some runway) :
    sequence.landingInterval target = sequence.mode.landingInterval runway := by
  unfold landingInterval RunwayMode.landingInterval
  rw [assigned]
  rfl

/-- Ahead of a flight and behind it, a landing is on its runway and one interval away. -/
theorem insertedLanding_spaces (found : sequence.flight? callsign = some target)
    (relative : position.neighbour? = some callsign)
    (given : sequence.insertedLanding position = .ok (time, place)) :
    place = target.runway
      ∧ position.Spaces (sequence.landingInterval target) target.landing.scheduled time := by
  unfold insertedLanding at given
  cases position with
  | before neighbour =>
    cases relative
    simp only [found] at given
    obtain ⟨ahead, back, given⟩ := bind_eq_ok.mp given
    cases pure_eq_ok.mp given
    exact ⟨rfl, Instant.since_of_minus (liftOverflow_eq_ok.mp back)⟩
  | after neighbour =>
    cases relative
    simp only [found] at given
    obtain ⟨behind, on, given⟩ := bind_eq_ok.mp given
    cases pure_eq_ok.mp given
    exact ⟨rfl, Instant.since_of_plus (liftOverflow_eq_ok.mp on)⟩
  | «at» time => cases relative

/-- A flight is pinned to the runway and the time that its place gives it. -/
theorem pinInserted_pinnedTo (done : sequence.pinInserted flight time (some runway) = .ok pinned) :
    pinned.callsign = flight.callsign ∧ pinned.PinnedTo runway time := by
  unfold pinInserted at done
  -- The runway of a neighbour comes first, so this is the one that is assigned.
  obtain ⟨fix, rfl⟩ := Flight.pinLandingTime_frame done
  exact ⟨rfl, rfl, rfl, rfl, rfl⟩

/-- A flight that is admitted is found under its name, pinned where its place is. -/
theorem insertAdmitted_pinnedTo {after : Sequence} (found : sequence.flight? callsign = some target)
    (assigned : target.runway = some runway) (relative : position.neighbour? = some callsign)
    (done : sequence.insertAdmitted flight position = .ok ((), after)) :
    ∃ inserted time, after.flight? flight.callsign = some inserted ∧ inserted.PinnedTo runway time
      ∧ position.Spaces (sequence.mode.landingInterval runway) target.landing.scheduled time := by
  unfold insertAdmitted at done
  obtain ⟨_, checked, done⟩ := bind_eq_ok.mp done
  obtain ⟨⟨time, place⟩, given, done⟩ := bind_eq_ok.mp done
  obtain ⟨pinned, landing, done⟩ := bind_eq_ok.mp done
  cases pure_eq_ok.mp done
  obtain ⟨rfl, spaced⟩ := insertedLanding_spaces found relative given
  rw [assigned] at landing
  obtain ⟨named, held⟩ := pinInserted_pinnedTo (liftOverflow_eq_ok.mp landing)
  refine ⟨pinned, time, ?_, held, landingInterval_eq assigned ▸ spaced⟩
  -- The flight passed the check, so that no other tracked flight has its name.
  have unknown := (checkNew_eq_ok.mp (liftRefusal_eq_ok.mp checked)).2.1
  rw [← named]
  refine findFlight_of_unique (mem_sortFlights.mpr (List.mem_append_right _ List.mem_cons_self)) ?_
  intro other listed same
  rcases List.mem_append.mp (mem_sortFlights.mp listed) with tracked | new
  · exact absurd (same.trans named) (unknown other (List.mem_append_left _ tracked))
  · exact List.mem_singleton.mp new

/-- An inserted flight is found under its name, pinned one interval of the current mode away. -/
theorem insertFlight_pinnedTo (found : sequence.flight? callsign = some target)
    (assigned : target.runway = some runway) (relative : position.neighbour? = some callsign)
    (done : sequence.insertFlight flight position = .ok outcome) (admitted : outcome.answer = .ok ()) :
    ∃ inserted time, outcome.after.flight? flight.callsign = some inserted
      ∧ inserted.PinnedTo runway time
      ∧ position.Spaces (sequence.mode.landingInterval runway) target.landing.scheduled time := by
  obtain ⟨remembered, forgets, ⟨refusal, _, rfl⟩ | ⟨after, inserts, rfl⟩⟩ := insertFlight_cases done
  · cases admitted
  · -- To forget a retirement changes neither the tracked flights nor the mode.
    have known : remembered.flight? callsign = some target := by rw [forgets]; exact found
    have mode : remembered.mode = sequence.mode := by rw [forgets]
    rw [← mode]
    exact insertAdmitted_pinnedTo known assigned relative inserts

/--
A flight that is inserted ahead of another one or behind it lands one interval away, on its runway.

The interval is that of the runway in the current mode. It is the one in the mode that is in effect when
the other flight lands exactly if both modes have the same interval for the runway.
-/
theorem insertFlight_spaced (found : sequence.flight? callsign = some target)
    (assigned : target.runway = some runway) (relative : position.neighbour? = some callsign)
    (done : sequence.insertFlight flight position = .ok outcome) (admitted : outcome.answer = .ok ()) :
    ∃ inserted time, outcome.after.flight? flight.callsign = some inserted
      ∧ inserted.PinnedTo runway time
      ∧ position.Spaces (sequence.mode.landingInterval runway) target.landing.scheduled time
      ∧ (position.Spaces ((sequence.modeAt target.landing.scheduled).landingInterval runway)
          target.landing.scheduled time
        ↔ (sequence.modeAt target.landing.scheduled).landingInterval runway
          = sequence.mode.landingInterval runway) := by
  obtain ⟨inserted, time, listed, held, spaced⟩ :=
    insertFlight_pinnedTo found assigned relative done admitted
  exact ⟨inserted, time, listed, held, spaced, spaced.iff_eq relative⟩

/-- Ahead of a flight on the only runway in use, another one is inserted three minutes earlier. -/
theorem insertFlight_spaced_samplePair :
    ∃ outcome inserted time, samplePair.insertFlight .sampleFollower (.before "QFA1") = .ok outcome
      ∧ outcome.after.flight? "VOZ3" = some inserted ∧ inserted.PinnedTo "34L" time
      ∧ Instant.epoch.since time = .ofMinutes 3 := by
  obtain ⟨outcome, done, admitted⟩ : ∃ outcome,
      samplePair.insertFlight .sampleFollower (.before "QFA1") = .ok outcome
        ∧ outcome.answer = .ok () := ⟨_, rfl, rfl⟩
  have found : samplePair.flight? "QFA1" = some .sampleAnchor := rfl
  obtain ⟨inserted, time, listed, held, spaced, _⟩ :=
    insertFlight_spaced found rfl rfl done admitted
  exact ⟨outcome, inserted, time, done, listed, held, spaced⟩

/--
Behind a flight that lands after a change of the mode, another one is inserted three minutes later.

The mode that is in effect then does not use the runway, and has five minutes between such landings.
-/
theorem insertFlight_misspaced_sampleChange :
    sampleChange.flight? "QFA1" = some .sampleAnchor ∧ Flight.sampleAnchor.runway = some "34L"
      ∧ (sampleChange.modeAt Flight.sampleAnchor.landing.scheduled).landingInterval "34L" = .ofMinutes 5
      ∧ ∃ outcome inserted time, sampleChange.insertFlight .sampleFollower (.after "QFA1") = .ok outcome
        ∧ outcome.answer = .ok () ∧ outcome.after.flight? "VOZ3" = some inserted
        ∧ inserted.PinnedTo "34L" time
        ∧ time.since Flight.sampleAnchor.landing.scheduled = .ofMinutes 3 := by
  have found : sampleChange.flight? "QFA1" = some .sampleAnchor := rfl
  obtain ⟨outcome, done, admitted⟩ : ∃ outcome,
      sampleChange.insertFlight .sampleFollower (.after "QFA1") = .ok outcome
        ∧ outcome.answer = .ok () := ⟨_, rfl, rfl⟩
  obtain ⟨inserted, time, listed, held, spaced⟩ :=
    insertFlight_pinnedTo found rfl rfl done admitted
  exact ⟨found, rfl, by decide, outcome, inserted, time, done, admitted, listed, held, spaced⟩

end Sequence

end ArrivalManager
