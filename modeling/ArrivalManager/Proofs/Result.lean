import ArrivalManager.Refusal

/-! Computations that may fail, opened step by step. -/

namespace ArrivalManager

/-- Two steps give a result exactly if the first one does and the second one does from there. -/
theorem bind_eq_ok {ε α β : Type} {first : Except ε α} {next : α → Except ε β} {result : β} :
    (first >>= next) = .ok result ↔ ∃ middle, first = .ok middle ∧ next middle = .ok result := by
  cases first with
  | error fault => simp [Bind.bind, Except.bind]
  | ok middle => simp [Bind.bind, Except.bind]

/-- A computation that only gives a value gives that value. -/
theorem pure_eq_ok {ε α : Type} {value result : α} :
    (pure value : Except ε α) = .ok result ↔ value = result := by
  simp [Pure.pure, Except.pure]

/-- What is given along with an answer was computed before. -/
theorem answer_eq_ok {ε α β : Type} {computed : Except ε α} {answer given : β} {result : α}
    (done : (do return (answer, ← computed)) = .ok (given, result)) : computed = .ok result := by
  obtain ⟨_, same, done⟩ := bind_eq_ok.mp done
  cases pure_eq_ok.mp done
  exact same

/-- What is given along with an answer in other terms was computed before. -/
theorem restate_eq_ok {ε α β γ : Type} {computed : Except ε (γ × α)} {restate : γ → β} {given : β}
    {result : α}
    (done : (do
      let (answer, value) ← computed
      return (restate answer, value)) = .ok (given, result)) :
    ∃ answer, computed = .ok (answer, result) := by
  obtain ⟨⟨answer, _⟩, same, done⟩ := bind_eq_ok.mp done
  cases pure_eq_ok.mp done
  exact ⟨answer, same⟩

/-- Two steps fail exactly if the first one does, or the second one does from there. -/
theorem bind_eq_error {ε α β : Type} {first : Except ε α} {next : α → Except ε β} {fault : ε} :
    (first >>= next) = .error fault
      ↔ first = .error fault ∨ ∃ middle, first = .ok middle ∧ next middle = .error fault := by
  cases first with
  | error fault => simp [Bind.bind, Except.bind]
  | ok middle => simp [Bind.bind, Except.bind]

/-- What gives a result when something is done with its value gives a value itself. -/
theorem map_eq_ok {ε α β : Type} {computed : Except ε α} {change : α → β} {result : β} :
    computed.map change = .ok result ↔ ∃ value, computed = .ok value ∧ change value = result := by
  cases computed with
  | error fault => simp [Except.map]
  | ok value => simp [Except.map]

/-- A value stays the same when the fault that there could have been is restated. -/
theorem mapError_eq_ok {ε δ α : Type} {computed : Except ε α} {restate : ε → δ} {value : α} :
    computed.mapError restate = .ok value ↔ computed = .ok value := by
  cases computed with
  | error fault => exact ⟨nofun, nofun⟩
  | ok given =>
    constructor
    · rintro ⟨⟩
      rfl
    · rintro ⟨⟩
      rfl

/-- What fails when its fault is restated fails for a fault that is restated so. -/
theorem mapError_eq_error {ε δ α : Type} {computed : Except ε α} {restate : ε → δ} {fault : δ} :
    computed.mapError restate = .error fault
      ↔ ∃ other, computed = .error other ∧ restate other = fault := by
  cases computed with
  | error other =>
    constructor
    · rintro ⟨⟩
      exact ⟨other, rfl, rfl⟩
    · rintro ⟨_, ⟨⟩, rfl⟩
      rfl
  | ok given => exact ⟨nofun, nofun⟩

/-- What fails when something is done with its value fails for itself. -/
theorem map_eq_error {ε α β : Type} {computed : Except ε α} {change : α → β} {fault : ε}
    (failed : computed.map change = .error fault) : computed = .error fault := by
  cases computed with
  | error other =>
    cases failed
    rfl
  | ok value => cases failed

/-- A computation that is looked at for its value only has one exactly if it gives it. -/
theorem toOption_eq_some {ε α : Type} {computed : Except ε α} {value : α} :
    computed.toOption = some value ↔ computed = .ok value := by
  cases computed with
  | error fault => simp [Except.toOption]
  | ok given => simp [Except.toOption]

/-- A computation that is looked at for its value only has none exactly if it gives none. -/
theorem toOption_eq_none {ε α : Type} {computed : Except ε α} :
    computed.toOption = none ↔ ¬ ∃ value, computed = .ok value := by
  cases computed with
  | error fault => simp [Except.toOption]
  | ok given => simp [Except.toOption]

/-- A value stays the same within a computation that may also overflow. -/
@[simp] theorem liftRefusal_ok {α : Type} (value : α) :
    (liftM (Except.ok value : Except Refusal α) : Except Fault α) = .ok value := rfl

/-- A refusal stays one within a computation that may also overflow. -/
@[simp] theorem liftRefusal_error {α : Type} (refusal : Refusal) :
    (liftM (Except.error refusal : Except Refusal α) : Except Fault α) = .error (.refused refusal) := rfl

/-- A value stays the same within a computation that may also be refused. -/
@[simp] theorem liftOverflow_ok {α : Type} (value : α) :
    (liftM (Except.ok value : Except Overflow α) : Except Fault α) = .ok value := rfl

/-- An overflow stays one within a computation that may also be refused. -/
@[simp] theorem liftOverflow_error {α : Type} (overflow : Overflow) :
    (liftM (Except.error overflow : Except Overflow α) : Except Fault α) = .error (.overflowed overflow) :=
  rfl

/-- What may be refused gives the same within a computation that may also overflow. -/
theorem liftRefusal_eq_ok {α : Type} {result : Except Refusal α} {value : α} :
    (liftM result : Except Fault α) = .ok value ↔ result = .ok value := by
  cases result with
  | error refusal => simp
  | ok given => simp

/-- What may be refused is refused alike within a computation that may also overflow. -/
theorem liftRefusal_eq_refused {α : Type} {result : Except Refusal α} {refusal : Refusal} :
    (liftM result : Except Fault α) = .error (.refused refusal) ↔ result = .error refusal := by
  cases result with
  | error other => simp
  | ok given => simp

/-- What may overflow gives the same within a computation that may also be refused. -/
theorem liftOverflow_eq_ok {α : Type} {result : Except Overflow α} {value : α} :
    (liftM result : Except Fault α) = .ok value ↔ result = .ok value := by
  cases result with
  | error overflow => simp
  | ok given => simp

/-- What may overflow fails within a computation that may also be refused exactly if it overflows. -/
theorem liftOverflow_eq_error {α : Type} {result : Except Overflow α} {fault : Fault} :
    (liftM result : Except Fault α) = .error fault
      ↔ ∃ overflow, result = .error overflow ∧ fault = .overflowed overflow := by
  cases result with
  | error overflow => simp [eq_comm]
  | ok given => simp

/-- What may overflow is not refused within a computation that may be. -/
theorem liftOverflow_ne_refused {α : Type} {result : Except Overflow α} {refusal : Refusal} :
    (liftM result : Except Fault α) ≠ .error (.refused refusal) := by
  cases result with
  | error overflow => simp
  | ok given => simp

/-- An answer in other terms is a refusal exactly if the answer itself is. -/
theorem Outcome.map_refused {σ α β : Type} {restate : α → β} {outcome : Outcome σ α}
    {refusal : Refusal} :
    (outcome.map restate).answer = .error refusal ↔ outcome.answer = .error refusal := by
  cases answered : outcome.answer with
  | error other => simp [Outcome.map, answered, Except.map]
  | ok answer => simp [Outcome.map, answered, Except.map]

/-- An outcome with its answer in other terms is that of a refusal exactly if it was one before. -/
theorem Outcome.map_eq_refused {σ α β : Type} {restate : α → β} {outcome : Outcome σ α}
    {refusal : Refusal} {after : σ} :
    outcome.map restate = ⟨.error refusal, after⟩ ↔ outcome = ⟨.error refusal, after⟩ := by
  rcases outcome with ⟨other | answer, left⟩
  · simp [Outcome.map, Except.map]
  · simp [Outcome.map, Except.map]

/-- An operation that comes to an end is refused and changes nothing, or gives what it computed. -/
theorem Outcome.ofFaulty_eq_ok {σ α : Type} {before : σ} {result : Except Fault (α × σ)}
    {outcome : Outcome σ α} (done : Outcome.ofFaulty before result = .ok outcome) :
    (∃ refusal, result = .error (.refused refusal) ∧ outcome = ⟨.error refusal, before⟩)
      ∨ ∃ answer after, result = .ok (answer, after) ∧ outcome = ⟨.ok answer, after⟩ := by
  unfold Outcome.ofFaulty at done
  split at done
  · cases done
    exact .inr ⟨_, _, rfl, rfl⟩
  · cases done
    exact .inl ⟨_, rfl, rfl⟩
  · -- An overflow leaves no outcome at all.
    cases done

end ArrivalManager
