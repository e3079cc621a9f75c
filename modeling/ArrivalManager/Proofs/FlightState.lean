import Mathlib.Order.Defs.LinearOrder
import ArrivalManager.FlightState

/-! How the stages of a flight are ordered, and how the kinds of them exclude each other. -/

namespace ArrivalManager.FlightState

/-- Different states have different places in the total order. -/
theorem eq_of_rank_eq {left right : FlightState} (same : left.rank = right.rank) : left = right := by
  cases left <;> cases right <;> first | rfl | contradiction

instance : LinearOrder FlightState where
  le_refl state := Nat.le_refl state.rank
  le_trans _ _ _ := Nat.le_trans
  lt_iff_le_not_ge _ _ := Nat.lt_iff_le_and_not_ge
  le_antisymm _ _ below above := eq_of_rank_eq (Nat.le_antisymm below above)
  le_total left right := Nat.le_total left.rank right.rank
  toDecidableLE := inferInstance
  compare_eq_compareOfLessAndEq left right := by cases left <;> cases right <;> rfl

variable {state target : FlightState}

/-- A flight that keeps its landing does not wait for another one. -/
theorem isSchedulable_of_anchored (anchored : state.isAnchored = true) :
    state.isSchedulable = false := by
  cases state <;> simp [isAnchored] at anchored <;> rfl

/-- A flight that is fixed in its position keeps its landing. -/
theorem isAnchored_of_positionIsFixed (fixed : state.positionIsFixed = true) :
    state.isAnchored = true := by
  cases state <;> simp [positionIsFixed] at fixed <;> rfl

/-- A flight that waits for a pass is in the chain of states. -/
theorem isSequenced_of_schedulable (waits : state.isSchedulable = true) :
    state.isSequenced = true := by
  cases state <;> simp [isSchedulable] at waits <;> rfl

/-- The states in the chain are those that wait for a pass and those that keep their landing. -/
theorem isAnchored_of_sequenced (sequenced : state.isSequenced = true)
    (settled : state.isSchedulable = false) : state.isAnchored = true := by
  cases state <;> simp [isSequenced, isSchedulable] at sequenced settled <;> rfl

/-- In the chain of states, a flight that is stable or later keeps its landing. -/
theorem isAnchored_of_stable_le (sequenced : state.isSequenced = true)
    (committed : .stable ≤ state) : state.isAnchored = true := by
  cases state with
  | new | unstable => exact absurd committed (by decide)
  | desequenced | removed => simp [isSequenced] at sequenced
  | stable | superStable | frozen | landed => rfl

/-- In the chain, a flight that does not wait for a pass is between the unstable and the landed ones. -/
theorem bounds_of_settled (sequenced : state.isSequenced = true)
    (settled : state.isSchedulable = false) : .unstable ≤ state ∧ state ≤ .landed := by
  cases state <;> revert sequenced settled <;> decide

/-- Of the flights that are published, those that wait are unstable. -/
theorem eq_unstable_of_schedulable (waits : state.isSchedulable = true) (known : .unstable ≤ state) :
    state = .unstable := by
  cases state <;> revert waits known <;> decide

/-- Outside the chain a flight is further than in any state but the one that nothing leaves. -/
theorem le_of_not_isSequenced (present : state ≠ .removed) (outside : ¬ target.isSequenced = true) :
    state ≤ target := by
  cases target with
  | desequenced | removed => cases state <;> first | decide | contradiction
  | new | unstable | stable | superStable | frozen | landed => exact absurd rfl outside

/-- From outside the chain, the only way further leads out for good. -/
theorem eq_of_desequenced_le (further : .desequenced ≤ state) :
    state = .desequenced ∨ state = .removed := by
  cases state <;> revert further <;> decide

/-- There is no way further for a flight that is out for good. -/
theorem eq_of_removed_le (further : .removed ≤ state) : state = .removed := by
  cases state <;> revert further <;> decide

end ArrivalManager.FlightState
