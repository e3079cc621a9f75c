import ArrivalManager.Proofs.Flight.Identity
import ArrivalManager.Proofs.FlightState

/-! The way of a flight through its states: forward in the chain, or out of it and back to its start. -/

namespace ArrivalManager.Flight

variable {flight first last after : Flight} {target : FlightState} {operation : Operation}
  {answer : Answer} {steps : List Step} {step : Step}

/-- A promotion never leads back in the chain of states. -/
theorem le_promotedState (due : FlightState → Bool) (state : FlightState) :
    state ≤ promotedState due state := by
  -- Whichever promotions are due, each of them leads further on from the state that it starts from.
  cases state <;> simp only [promotedState]
  all_goals repeat' split
  all_goals decide

/-- A change of the state that is not refused goes forward in the chain, or out of it. -/
theorem le_of_setState (done : flight.setState target = .ok after) : flight.state ≤ after.state := by
  have changed := setState_eq_ok done
  unfold setState at done
  split at done
  · cases done
  · rename_i present
    dsimp only at done
    split at done
    · cases done
    · rename_i allowed
      rw [changed]
      show flight.state ≤ target
      by_cases forward : flight.state.isSequenced = true ∧ flight.state ≤ target
      · exact forward.2
      · -- The target lies outside the chain, above all states that a flight can still leave.
        have outside : ¬ target.isSequenced = true := fun sequenced => allowed ⟨forward, sequenced⟩
        exact FlightState.le_of_not_isSequenced present outside

/-- Whether an operation asks for a flight to be brought back into the chain. -/
def Operation.isResumption : Operation → Bool
  | .resume _ => true
  | _ => false

/-- A resumption that is not refused leads from outside of the chain to its start. -/
theorem state_of_resumption (resumption : operation.isResumption = true)
    (done : flight.answer operation = .ok (answer, after)) :
    flight.state = .desequenced ∧ after.state = .unstable := by
  cases operation with
  | resume now =>
    obtain ⟨parked, rfl⟩ := resume_eq_ok (attempt_eq_ok done)
    -- Activation, which follows the change of the state, leaves it as it is.
    obtain ⟨landing, fix, same, _⟩ := activate_frame { flight with state := .unstable } now
    rw [same]
    exact ⟨parked, rfl⟩
  | _ => contradiction

/-- Any other operation that is not refused leaves the state where it is, or moves it forward. -/
theorem le_of_answer (other : operation.isResumption = false)
    (done : flight.answer operation = .ok (answer, after)) : flight.state ≤ after.state := by
  cases operation with
  | resume now => contradiction
  | activate now =>
    cases done
    obtain ⟨landing, fix, same, _⟩ := flight.activate_frame now
    rw [same]
  | setState target => exact le_of_setState (attempt_eq_ok done)
  | promote now thresholds =>
    cases done
    exact le_promotedState _ _
  | updateFixEstimate _ | scheduleFix _ | recordCrossing _ =>
    obtain ⟨fix, rfl⟩ := updateFix_frame (attempt_eq_ok done)
    exact le_rfl
  | schedule time runway =>
    obtain ⟨fix, rfl⟩ := commitLandingTime_frame (onClock_eq_ok done)
    exact le_rfl
  | pinLandingTime time =>
    obtain ⟨fix, rfl⟩ := pinLandingTime_frame (onClock_eq_ok done)
    exact le_rfl
  | order other =>
    -- Comparing two flights only looks at them.
    obtain ⟨_, _, done⟩ := bind_eq_ok.mp done
    cases pure_eq_ok.mp done
    exact le_rfl
  | setSystemEstimates _ _ | updateLandingEstimate _ | assignRunway _ _ | releaseRunway
  | setArrival _ | setHighPriority _ | setNoDelay _ | releaseLandingTime | setFlow _
  | updatePosition _ =>
    -- What is left sets single fields, none of which is the state.
    cases done
    exact le_rfl

/-- Whether a step brings a flight back into the chain: it is a resumption that was not refused. -/
def Step.resumes (step : Step) : Bool :=
  step.operation.isResumption && step.outcome.answer.isOk

/-- What a single operation may do to the state of a flight. -/
structure Step.Progresses (step : Step) : Prop where
  /-- Only a resumption leads to an earlier state. -/
  forward : step.resumes = false → step.before.state ≤ step.after.state
  /-- A resumption leads from outside of the chain to its start. -/
  resumed : step.resumes = true → step.before.state = .desequenced ∧ step.after.state = .unstable
  /-- A flight that was taken out is brought back only by a resumption. -/
  parked : step.before.state = .desequenced → step.resumes = false →
    step.after.state = .desequenced ∨ step.after.state = .removed
  /-- A flight that was taken out for good stays out. -/
  removed : step.before.state = .removed → step.after.state = .removed
  /-- An operation that is refused changes nothing about the flight. -/
  refused : ∀ refusal, step.outcome.answer = .error refusal → step.after = step.before

/-- Where the state moves, and where it stays, says all that a step may do to it. -/
theorem Step.Progresses.of_forward
    (forward : step.resumes = false → step.before.state ≤ step.after.state)
    (resumed : step.resumes = true → step.before.state = .desequenced ∧ step.after.state = .unstable)
    (refused : ∀ refusal, step.outcome.answer = .error refusal → step.after = step.before) :
    step.Progresses where
  forward := forward
  resumed := resumed
  parked left unresumed := by
    have further := forward unresumed
    rw [left] at further
    exact FlightState.eq_of_desequenced_le further
  removed gone := by
    have unresumed : step.resumes = false := by
      -- A resumption would have found the flight desequenced, not removed.
      by_contra resumes
      rw [(resumed (by simpa using resumes)).1] at gone
      contradiction
    have further := forward unresumed
    rw [gone] at further
    exact FlightState.eq_of_removed_le further
  refused := refused

/-- Every operation that is carried out moves the state as it may. -/
theorem progresses_of_performed {before : Flight} {outcome : Outcome Flight Answer}
    (performed : before.perform operation = .ok outcome) :
    Step.Progresses ⟨before, operation, outcome⟩ := by
  rcases Outcome.ofFaulty_eq_ok performed with ⟨refusal, _, rfl⟩ | ⟨answer, after, answered, rfl⟩
  · -- A refused operation is no resumption, and leaves the flight as it was.
    have unresumed : Step.resumes ⟨before, operation, ⟨.error refusal, before⟩⟩ = false :=
      Bool.and_false _
    apply Step.Progresses.of_forward
    · intro _
      exact le_rfl
    · intro resumes
      rw [unresumed] at resumes
      contradiction
    · intro _ _
      rfl
  · -- One that is not refused brings the flight back exactly if it asks for that.
    have asks : Step.resumes ⟨before, operation, ⟨.ok answer, after⟩⟩ = operation.isResumption :=
      Bool.and_true _
    apply Step.Progresses.of_forward
    · intro unresumed
      exact le_of_answer (asks.symm.trans unresumed) answered
    · intro resumes
      exact state_of_resumption (asks.symm.trans resumes) answered
    · intro refusal refused
      contradiction

namespace Runs

/-- Without a resumption, a run leads forward. -/
theorem le_of_unresumed (run : first.Runs steps last)
    (unresumed : ∀ step ∈ steps, step.resumes = false) : first.state ≤ last.state := by
  apply run.relates (·.state ≤ ·.state) (fun _ => le_rfl) le_trans
  intro step taken
  exact (progresses_of_performed (run.performed taken)).forward (unresumed step taken)

/-- A flight that was taken out for good is out at the end of every run. -/
theorem removed (run : first.Runs steps last) (gone : first.state = .removed) :
    last.state = .removed := by
  induction run with
  | nil flight => exact gone
  | cons performed followed ih => exact ih ((progresses_of_performed performed).removed gone)

end Runs

/--
No run of operations moves a flight back to an earlier state, unless it brings the flight back into
the chain.

Each step progresses as it may, and so does the run as a whole: without a resumption it leads
forward, and a flight that was taken out for good is never brought back.
-/
theorem runs_progress (run : first.Runs steps last) :
    (∀ step ∈ steps, step.Progresses)
      ∧ ((∀ step ∈ steps, step.resumes = false) → first.state ≤ last.state)
      ∧ (first.state = .removed → last.state = .removed) := by
  refine ⟨?_, run.le_of_unresumed, run.removed⟩
  intro step taken
  exact progresses_of_performed (run.performed taken)

/-- An arrival of which no more is known than when it is expected. -/
def sampleExpected : Flight := .inbound "QFA1" ⟨⟨.medium, true⟩, "B738"⟩ "YSSY" .epoch

/-- Operations that take a flight out, bring it back and take it out for good, among refused ones. -/
def sampleDetour : List Operation :=
  [.setState .frozen, .setState .unstable, .resume .epoch, .setState .desequenced,
    .setState .frozen, .resume .epoch, .setState .removed, .resume .epoch, .setState .landed]

/-- A detour is refused at five points, and progresses at all of them. -/
theorem runs_progress_sampleDetour :
    ∃ steps last, sampleExpected.Runs steps last ∧ steps.map (·.operation) = sampleDetour
      ∧ steps.map (·.outcome.answer.isOk)
        = [true, false, false, true, false, true, true, false, false]
      ∧ last.state = .removed ∧ ∀ step ∈ steps, step.Progresses := by
  obtain ⟨steps, run, operations, answers⟩ := performAll_eq_ok.mp
    (rfl : sampleExpected.performAll sampleDetour = .ok (_, _))
  refine ⟨steps, _, run, operations, ?_, rfl, (runs_progress run).1⟩
  have succeeded := congrArg (List.map Except.isOk) answers
  rw [List.map_map] at succeeded
  exact succeeded

end ArrivalManager.Flight
