import ArrivalManager.Lookup.Misses
import ArrivalManager.Proofs.Result

/-! Computations that count their misses, opened step by step; the counts do not affect results. -/

namespace ArrivalManager

/-- The result of two counted steps is that of the second one after the first one. -/
@[simp] theorem Counted.bind_result {α β : Type} (first : Counted α) (next : α → Counted β) :
    (first >>= next).result = (next first.result).result := rfl

/-- A value that is not looked up is the result itself. -/
@[simp] theorem Counted.pure_result {α : Type} (value : α) : (pure value : Counted α).result = value :=
  rfl

/-- Misses add up in each of their kinds. -/
theorem Misses.add_eq (left right : Misses) : left + right =
    ⟨left.trajectory + right.trajectory, left.averageTrajectory + right.averageTrajectory,
      left.fix + right.fix⟩ := rfl

/-- To miss nothing first adds nothing to what is missed later. -/
theorem Misses.none_add (misses : Misses) : .none + misses = misses := by
  simp only [Misses.add_eq, Misses.none, Nat.zero_add]

/-- To miss nothing later adds nothing to what was missed first. -/
theorem Misses.add_none (misses : Misses) : misses + .none = misses := rfl

/-- Misses may be added up in any grouping. -/
theorem Misses.add_assoc (first second third : Misses) :
    first + second + third = first + (second + third) := by
  simp only [Misses.add_eq, Nat.add_assoc]

instance : LawfulMonad Counted := LawfulMonad.mk' Counted
  (fun counted => congrArg (Counted.mk counted.result) (Misses.add_none counted.misses))
  (fun value next => congrArg (Counted.mk (next value).result) (Misses.none_add (next value).misses))
  (fun first second third => congrArg (Counted.mk _) (Misses.add_assoc first.misses _ _))

namespace Estimation

variable {α β : Type}

/-- A computation on the clock gives a result, however many lookups it missed. -/
def Gives (estimation : Estimation α) (result : α) : Prop := estimation.run.result = .ok result

/-- A computation does not give two results. -/
theorem Gives.unique {estimation : Estimation α} {first second : α} (one : Gives estimation first)
    (other : Gives estimation second) : first = second :=
  Except.ok.inj (one.symm.trans other)

/-- Two steps give a result exactly if the first one does and the second one does from there. -/
theorem bind_gives {first : Estimation α} {next : α → Estimation β} {result : β} :
    Gives (first >>= next) result ↔ ∃ middle, Gives first middle ∧ Gives (next middle) result := by
  -- The misses are counted besides the result, so only the results matter.
  simp only [Gives, ExceptT.run_bind, Counted.bind_result]
  cases first.run.result with
  | error overflow => simp
  | ok middle => simp

/-- A computation that only gives a value gives that value. -/
@[simp] theorem pure_gives {value result : α} :
    Gives (pure value) result ↔ value = result := by
  show (Except.ok value : Except Overflow α) = .ok result ↔ _
  simp

/-- What is done with a result matters only for the result that a computation gives. -/
theorem map_congr {estimation : Estimation α} {first second : α → β}
    (same : ∀ result, Gives estimation result → first result = second result) :
    first <$> estimation = second <$> estimation := by
  apply ExceptT.ext
  rw [ExceptT.run_map, ExceptT.run_map]
  refine congrArg (Counted.mk · _) ?_
  -- An overflow is given on as it is.
  cases given : estimation.run.result with
  | error overflow => rfl
  | ok result => exact congrArg Except.ok (same result given)

/-- A computation that misses nothing gives what it would give alone. -/
@[simp] theorem lift_gives {computation : Except Overflow α} {result : α} :
    Gives (liftM computation) result ↔ computation = .ok result := Iff.rfl

/-- A lookup gives what it results in, whether or not it missed. -/
@[simp] theorem lookup_gives {lookup : Counted α} {result : α} :
    Gives (liftM lookup) result ↔ lookup.result = result := by
  show (Except.ok lookup.result : Except Overflow α) = .ok result ↔ _
  simp

end Estimation

end ArrivalManager
