import ArrivalManager.Proofs.Flight
import ArrivalManager.Proofs.Flight.Run

/-! What no operation changes about a flight: its callsign, and the airport it is bound for. -/

namespace ArrivalManager.Flight

variable {flight before middle after : Flight} {time : Instant} {answer : Answer}
  {operation : Operation} {operations : List Operation}

/-- Two records of one arrival: they have the same callsign and the same destination. -/
structure SameArrival (before after : Flight) : Prop where
  callsign : after.callsign = before.callsign
  destination : after.destination = before.destination

namespace SameArrival

/-- A record is one of its own arrival. -/
theorem refl (flight : Flight) : flight.SameArrival flight := ⟨rfl, rfl⟩

/-- Records of one arrival in a row are records of one arrival. -/
theorem trans (first : before.SameArrival middle) (second : middle.SameArrival after) :
    before.SameArrival after :=
  ⟨second.callsign.trans first.callsign, second.destination.trans first.destination⟩

end SameArrival

/-- Setting the landing time concerns nothing else but the fix. -/
theorem commitLandingTime_frame (done : flight.commitLandingTime time = .ok after) :
    ∃ fix, after = { flight with landing := { flight.landing with scheduled := time }, fix } := by
  unfold commitLandingTime at done
  dsimp only at done
  -- The fix decides what happens: there is none, it is behind the flight, or it is still ahead.
  split at done
  · cases done
    exact ⟨flight.fix, rfl⟩
  · split at done
    · cases done
      exact ⟨flight.fix, rfl⟩
    · obtain ⟨scheduled, _, done⟩ := bind_eq_ok.mp done
      cases pure_eq_ok.mp done
      exact ⟨_, rfl⟩

/-- Pinning the landing time concerns nothing else but the fix. -/
theorem pinLandingTime_frame (done : flight.pinLandingTime time = .ok after) :
    ∃ fix, after = { flight with
      manualLandingTime := true, landing := { flight.landing with scheduled := time }, fix } :=
  commitLandingTime_frame done

/-- A change of the fix that is not refused concerns nothing else. -/
theorem updateFix_frame {change : FeederFix → FeederFix}
    (done : flight.updateFix change = .ok after) : ∃ fix, after = { flight with fix } := by
  unfold updateFix at done
  split at done
  · cases done
    exact ⟨flight.fix, rfl⟩
  · -- A fix that is passed is refused, so the one that is changed is still ahead.
    split at done
    · cases done
    · cases done
      exact ⟨_, rfl⟩

/-- Activation is no change of the arrival. -/
theorem activate_sameArrival (flight : Flight) (now : Instant) :
    flight.SameArrival (flight.activate now) := by
  obtain ⟨landing, fix, same, _⟩ := flight.activate_frame now
  rw [same]
  exact ⟨rfl, rfl⟩

/-- An attempt that is not refused gives the flight that was attempted. -/
theorem attempt_eq_ok {result : Except Refusal Flight}
    (done : attempt result = .ok (answer, after)) : result = .ok after := by
  obtain ⟨changed, attempted, done⟩ := bind_eq_ok.mp done
  cases pure_eq_ok.mp done
  exact liftRefusal_eq_ok.mp attempted

/-- A computation on the clock that comes to an end gives the flight that was computed. -/
theorem onClock_eq_ok {result : Except Overflow Flight}
    (done : onClock result = .ok (answer, after)) : result = .ok after := by
  obtain ⟨changed, computed, done⟩ := bind_eq_ok.mp done
  cases pure_eq_ok.mp done
  exact liftOverflow_eq_ok.mp computed

/-- An operation that is not refused is no change of the arrival. -/
theorem answer_sameArrival (done : flight.answer operation = .ok (answer, after)) :
    flight.SameArrival after := by
  cases operation with
  | activate now =>
    cases done
    exact flight.activate_sameArrival now
  | setState target =>
    rw [setState_eq_ok (attempt_eq_ok done)]
    exact ⟨rfl, rfl⟩
  | resume now =>
    -- The flight is unstable again before it is activated.
    obtain ⟨_, rfl⟩ := resume_eq_ok (attempt_eq_ok done)
    have unstable : flight.SameArrival { flight with state := .unstable } := ⟨rfl, rfl⟩
    exact unstable.trans (activate_sameArrival _ now)
  | updateFixEstimate _ | scheduleFix _ | recordCrossing _ =>
    obtain ⟨fix, rfl⟩ := updateFix_frame (attempt_eq_ok done)
    exact ⟨rfl, rfl⟩
  | schedule time runway =>
    obtain ⟨fix, rfl⟩ := commitLandingTime_frame (onClock_eq_ok done)
    exact ⟨rfl, rfl⟩
  | pinLandingTime time =>
    obtain ⟨fix, rfl⟩ := pinLandingTime_frame (onClock_eq_ok done)
    exact ⟨rfl, rfl⟩
  | order other =>
    -- Comparing two flights only looks at them.
    obtain ⟨_, _, done⟩ := bind_eq_ok.mp done
    cases pure_eq_ok.mp done
    exact .refl flight
  | promote _ _ | setSystemEstimates _ _ | updateLandingEstimate _ | assignRunway _ _ | releaseRunway
  | setArrival _ | setHighPriority _ | setNoDelay _ | releaseLandingTime | setFlow _
  | updatePosition _ =>
    -- What is left sets single fields, none of which tells the arrivals apart.
    cases done
    exact ⟨rfl, rfl⟩

/-- A run of operations is no change of the arrival. -/
theorem Runs.sameArrival {steps : List Step} (run : before.Runs steps after) :
    before.SameArrival after :=
  run.relates_of_answer SameArrival SameArrival.refl SameArrival.trans answer_sameArrival

/-- Operations one after the other are no change of the arrival, refused ones included. -/
theorem performAll_sameArrival {answers : List (Except Refusal Answer)}
    (done : flight.performAll operations = .ok (answers, after)) : flight.SameArrival after := by
  obtain ⟨steps, run, _, _⟩ := performAll_eq_ok.mp done
  exact run.sameArrival

/-- A flight that is made ready is still the same arrival. -/
theorem prepare_sameArrival (done : flight.prepare operations = .ok after) :
    flight.SameArrival after := by
  obtain ⟨⟨answers, last⟩, performed, done⟩ := bind_eq_ok.mp done
  cases pure_eq_ok.mp done
  exact performAll_sameArrival performed

end ArrivalManager.Flight
