import ArrivalManager.Replay.Record

/-! The course of a replay: the seconds on its simulated clock, and how often each recomputes. -/

namespace ArrivalManager

/-- One second of a replay. -/
structure Moment where
  /-- Seconds since midnight. -/
  second : Int
  /-- How often every airport is recomputed, once the updates of the second are handed on. -/
  ticks : Nat

/-- A replay to come: how far the simulated clock runs, at what pace, and what it meets. -/
structure Replay where
  /-- The records in the order of their times. -/
  records : List Record
  /-- The first second, that of the first record. -/
  first : Int
  /-- How many seconds are lived through. -/
  seconds : Nat
  /-- The nanoseconds of real time that one second takes. -/
  pause : Nat
  /-- The nanoseconds of real time between recomputations. -/
  period : Nat

namespace Replay

/-- The clock runs on for two hours after the last update, so that the last arrivals can land. -/
def drainSeconds : Nat := 7200

/-- The last second that the simulated clock can show. -/
def lastSecond : Int := 0x7FFFFFFFFFFFFFFF

/-- Records in the order of their times; those of one time stay in their order. -/
def inTimeOrder (records : List Record) : List Record :=
  records.mergeSort fun left right => left.time ≤ right.time

/--
The replay of some records at the pace of the settings; none if there are no records.

Nothing is lived through unless the real time of a tick and of a second, and the last second of the
simulated clock, can all be represented.
-/
def ofRecords? (settings : Settings) (records : List Record) :
    Except Overflow (Option Replay) :=
  let ordered := inTimeOrder records
  match ordered.head?, ordered.getLast? with
  | some first, some last => do
    let period ← settings.tickPeriod
    let pause ← settings.replaySpeed.adjust 1000000000
    if lastSecond < last.time + drainSeconds then throw .secondCount
    return some {
      records := ordered
      first := first.time
      seconds := (last.time - first.time).toNat + drainSeconds + 1
      pause, period }
  | _, _ => .ok none

/-- The milliseconds of real time that one second takes; a pause ends with a whole millisecond. -/
def pauseMillis (replay : Replay) : Nat := (replay.pause + 999999) / 1000000

/--
The recomputations that come due before a millisecond of real time.

They follow each other at the exact period, the first one at once, and each waits for the end of the
millisecond that it falls in.
-/
def ticksBefore (replay : Replay) (millis : Nat) : Nat :=
  if millis = 0 then 0 else (millis - 1) * 1000000 / replay.period + 1

/--
The second at an offset from the first one.

Recomputations belong to the second in which they come due.
-/
def moment (replay : Replay) (offset : Nat) : Moment :=
  { second := replay.first + offset
    ticks := replay.ticksBefore ((offset + 1) * replay.pauseMillis)
      - replay.ticksBefore (offset * replay.pauseMillis) }

end Replay

end ArrivalManager
