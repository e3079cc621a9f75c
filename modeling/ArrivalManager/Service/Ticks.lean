import ArrivalManager.Service.Command

/-! Recomputations of one airport at regular intervals. -/

namespace ArrivalManager

/-- Why an airport is no longer recomputed. -/
inductive TickFault where
  /-- A recomputation left the clock. -/
  | overflowed (overflow : Overflow)
  /-- No time passes between recomputations. -/
  | noPeriod
deriving DecidableEq

/-- The text that explains why an airport is no longer recomputed. -/
def TickFault.message : TickFault → String
  | .overflowed overflow => overflow.message
  | .noPeriod => "`period` must be non-zero."

/-- What a run of recomputations leads to: how many began, and what they published, in order. -/
structure TickRun where
  ticks : Nat
  registry : Registry
  published : List Snapshot

namespace Service

/--
Recomputes an airport for so many ticks, each at the next reading of a clock.

The run ends early with the first tick for which the airport is not managed; other refusals do not
end it.
-/
def tickTimes (service : Service) (airport : String) (clock : Nat → Except Overflow Instant) :
    Registry → Nat → Nat → Except Overflow TickRun
  | registry, _, 0 => .ok ⟨0, registry, []⟩
  | registry, reading, remaining + 1 => do
    let now ← clock reading
    let reply ← service.execute registry airport now .recompute
    match reply.answer with
    | .error (.unknownAirport _) => return ⟨1, reply.registry, reply.published.toList⟩
    | _ =>
      let run ← service.tickTimes airport clock reply.registry (reading + 1) remaining
      return ⟨run.ticks + 1, run.registry, reply.published.toList ++ run.published⟩

/-- How often a tick comes in an interval, the first time at its beginning. -/
def tickCount (period stop : Duration) : Nat :=
  ((stop.nanos + period.nanos - 1) / period.nanos).toNat

/-- Recomputes an airport at the beginning of each period until the run is stopped. -/
def runTicks (service : Service) (airport : String) (clock : Nat → Except Overflow Instant)
    (registry : Registry) (period stop : Duration) : Except TickFault TickRun :=
  if period = .zero then .error .noPeriod
  else
    (service.tickTimes airport clock registry 0 (tickCount period stop)).mapError .overflowed

/-- A clock that begins at a time and moves on by one step with each reading. -/
def steppedClock (start : Instant) (step : Duration) (reading : Nat) : Except Overflow Instant :=
  start.plus ⟨step.nanos * reading⟩

end Service

end ArrivalManager
