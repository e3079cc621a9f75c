import ArrivalManager.Time

/-! Counts of the lookups that missed, carried along beside a result. -/

namespace ArrivalManager

/-- How often a lookup missed and its user fell back, by the kind of lookup. -/
structure Misses where
  /-- No time to go was known for a runway. -/
  trajectory : Nat
  /-- There was no average time to go to fall back to either. -/
  averageTrajectory : Nat
  /-- The place of a fix was not known. -/
  fix : Nat
deriving DecidableEq

namespace Misses

/-- No lookup missed. -/
def none : Misses := ⟨0, 0, 0⟩

instance : Add Misses := ⟨fun left right =>
  ⟨left.trajectory + right.trajectory, left.averageTrajectory + right.averageTrajectory,
    left.fix + right.fix⟩⟩

end Misses

/-- A result and the misses on the way to it. -/
structure Counted (α : Type) where
  result : α
  misses : Misses

namespace Counted

instance : Monad Counted where
  pure result := ⟨result, .none⟩
  bind first next :=
    let second := next first.result
    ⟨second.result, first.misses + second.misses⟩

/-- A step that only counts. -/
def tally (misses : Misses) : Counted Unit := ⟨(), misses⟩

end Counted

/-- A computation on the clock that counts its misses, also those before an overflow. -/
abbrev Estimation := ExceptT Overflow Counted

end ArrivalManager
