import ArrivalManager.Flight.Operation
import ArrivalManager.Proofs.Result

/-! Runs of operations on a flight, taken apart into the steps that make them up. -/

namespace ArrivalManager.Flight

/-- One operation of a run: the flight that it was carried out on, and what became of it. -/
structure Step where
  before : Flight
  operation : Operation
  outcome : Outcome Flight Answer

/-- The flight that a step leaves. -/
def Step.after (step : Step) : Flight := step.outcome.after

/-- Operations one after the other, each of them on the flight that the one before it left. -/
inductive Runs : Flight → List Step → Flight → Prop where
  /-- A run without operations ends where it begins. -/
  | nil (flight : Flight) : Runs flight [] flight
  /-- A run goes on from what its first operation left, whether that was refused or not. -/
  | cons {before last : Flight} {operation : Operation} {outcome : Outcome Flight Answer}
      {rest : List Step} (performed : before.perform operation = .ok outcome)
      (followed : Runs outcome.after rest last) : Runs before (⟨before, operation, outcome⟩ :: rest) last

variable {flight first last before after : Flight} {operation : Operation} {step : Step}
  {operations : List Operation} {steps earlier later : List Step}

/-- What carries out operations one after the other comes to an end exactly if there is a run of them. -/
theorem performAll_eq_ok {answers : List (Except Refusal Answer)} :
    flight.performAll operations = .ok (answers, last)
      ↔ ∃ steps, flight.Runs steps last ∧ steps.map (·.operation) = operations
        ∧ steps.map (·.outcome.answer) = answers := by
  constructor
  · intro done
    induction operations generalizing flight answers with
    | nil =>
      cases done
      exact ⟨[], .nil _, rfl, rfl⟩
    | cons operation rest ih =>
      obtain ⟨outcome, performed, done⟩ := bind_eq_ok.mp done
      obtain ⟨⟨others, reached⟩, followed, done⟩ := bind_eq_ok.mp done
      cases pure_eq_ok.mp done
      -- The rest is a run from what the first operation left.
      obtain ⟨steps, run, rfl, rfl⟩ := ih followed
      exact ⟨_, .cons performed run, rfl, rfl⟩
  · rintro ⟨steps, run, rfl, rfl⟩
    induction run with
    | nil flight => rfl
    | cons performed followed ih =>
      simp only [List.map_cons, performAll]
      rw [performed]
      simp only [Bind.bind, Except.bind]
      rw [ih]
      rfl

namespace Runs

/-- A run is a run to each of its steps and a run from there. -/
theorem split (run : first.Runs (earlier ++ step :: later) last) :
    first.Runs earlier step.before ∧ step.before.perform step.operation = .ok step.outcome
      ∧ step.after.Runs later last := by
  induction earlier generalizing first with
  | nil =>
    cases run with
    | cons performed followed => exact ⟨.nil _, performed, followed⟩
  | cons head rest ih =>
    cases run with
    | cons performed followed =>
      obtain ⟨reached, own, left⟩ := ih followed
      exact ⟨.cons performed reached, own, left⟩

/-- Every step of a run carries out its operation on the flight before it. -/
theorem performed (run : first.Runs steps last) (taken : step ∈ steps) :
    step.before.perform step.operation = .ok step.outcome := by
  obtain ⟨earlier, later, rfl⟩ := List.append_of_mem taken
  exact run.split.2.1

/-- What each step of a run relates, the run relates. -/
theorem relates (relation : Flight → Flight → Prop) (refl : ∀ flight, relation flight flight)
    (trans : ∀ {before middle after}, relation before middle → relation middle after →
      relation before after)
    (run : first.Runs steps last) (related : ∀ step ∈ steps, relation step.before step.after) :
    relation first last := by
  induction run with
  | nil flight => exact refl flight
  | cons performed followed ih =>
    have taken := related _ List.mem_cons_self
    have rest := ih fun step later => related step (List.mem_cons_of_mem _ later)
    exact trans taken rest

/-- What every operation relates that is not refused, the run relates. -/
theorem relates_of_answer (relation : Flight → Flight → Prop)
    (refl : ∀ flight, relation flight flight)
    (trans : ∀ {before middle after}, relation before middle → relation middle after →
      relation before after)
    (answered : ∀ {before operation answer after},
      before.answer operation = .ok (answer, after) → relation before after)
    (run : first.Runs steps last) : relation first last := by
  apply run.relates relation refl trans
  intro step taken
  rcases Outcome.ofFaulty_eq_ok (run.performed taken) with
    ⟨refusal, _, refused⟩ | ⟨answer, changed, done, succeeded⟩
  · -- A refused operation leaves the flight as it was.
    rw [Step.after, refused]
    exact refl _
  · rw [Step.after, succeeded]
    exact answered done

end Runs

end ArrivalManager.Flight
