import ArrivalManager.Refusal

/-! Windows in which nothing lands, and the slots by which controllers declare them. -/

namespace ArrivalManager

/-- A window that begins with its start and ends just before its finish. -/
structure Blockout where
  start : Instant
  finish : Instant
  /-- A window is never empty. -/
  start_lt_finish : start < finish
deriving DecidableEq

namespace Blockout

/-- The window between two times, if it is not empty. -/
def between (start finish : Instant) : Except Refusal Blockout :=
  if ordered : start < finish then .ok ⟨start, finish, ordered⟩
  else .error (.invalidSlotTimes start finish)

/-- Whether a time lies in the window. -/
def contains (blockout : Blockout) (time : Instant) : Bool :=
  blockout.start ≤ time && time < blockout.finish

end Blockout

/-- A window that a controller keeps clear of arrivals on some runways. -/
structure Slot where
  id : SlotId
  period : Blockout
  runways : List String
deriving DecidableEq

namespace Slot

/-- A new slot under an unused number. -/
def declare (id : SlotId) (start finish : Instant) (runways : List String) :
    Except Refusal Slot := do
  return ⟨id, ← Blockout.between start finish, runways⟩

/-- Whether the slot keeps arrivals off a runway. -/
def appliesTo (slot : Slot) (runway : String) : Bool := slot.runways.contains runway

/-- The slot moved to another window. -/
def reschedule (slot : Slot) (start finish : Instant) : Except Refusal Slot := do
  return { slot with period := ← Blockout.between start finish }

end Slot

end ArrivalManager
