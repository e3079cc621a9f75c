import ArrivalManager.Replay.Moment
import ArrivalManager.Service.Interruption
import ArrivalManager.Service.Ticks

/-! The replay of recorded traffic on a simulated clock that moves on second by second. -/

namespace ArrivalManager

/-- Why a replay has no result. -/
inductive ReplayFault where
  | noRecords
  /-- The recomputations of an airport came to an end too early; airports are counted from one. -/
  | ticksEnded (airport : Nat) (fault : TickFault)
deriving DecidableEq

/-- The text reported for a replay that has no result. -/
def ReplayFault.message : ReplayFault → String
  | .noRecords => "No flight updates"
  | .ticksEnded airport fault =>
    "task " ++ toString airport ++ " panicked with message \"" ++ fault.message ++ "\""

namespace Replay

/-- How far a replay has come. -/
structure Progress where
  /-- What the simulated clock shows, in seconds since midnight. -/
  elapsed : Int
  registry : Registry
  /-- The airports that are no longer recomputed. -/
  ended : List (String × TickFault)
  /-- What was published on the way, the latest first. -/
  published : List Snapshot

/-- A replay that is about to begin; without a period no airport is ever recomputed. -/
def start (replay : Replay) (registry : Registry) : Progress :=
  { elapsed := replay.first
    registry
    ended := if replay.period = 0 then registry.airports.map (·, .noPeriod) else []
    published := [] }

namespace Progress

/-- The replay goes on with a reply, whatever it answers. -/
def take (progress : Progress) (reply : Reply) : Progress :=
  { progress with
    registry := reply.registry
    published := reply.published.toList ++ progress.published }

/-- The replay goes on without recomputing an airport any more. -/
def endTicks (progress : Progress) (airport : String) (overflow : Overflow) : Progress :=
  { progress with ended := (airport, .overflowed overflow) :: progress.ended }

/--
The end of a replay as its result.

A replay that outlived the recomputations of an airport has none; the first such airport is named.
-/
def result (progress : Progress) : Except ReplayFault Progress :=
  let faults := progress.registry.airports.zipIdx.filterMap fun (airport, index) =>
    (progress.ended.lookup airport).map (ReplayFault.ticksEnded (index + 1))
  match faults.head? with
  | some fault => .error fault
  | none => .ok progress

/-- The flights that are tracked or desequenced at any airport. -/
def trackedCount (progress : Progress) : Nat :=
  (progress.registry.sequences.flatMap fun sequence =>
    sequence.flights ++ sequence.desequenced).length

end Progress

/-- Hands one record on to the airport it is bound for, at the time that the clock shows. -/
def deliver (service : Service) (midnight : Instant) (progress : Progress) (record : Record) :
    Except Overflow Progress := do
  let now ← Record.instantAt midnight progress.elapsed
  let update ← record.toUpdate midnight
  return progress.take
    (← service.execute progress.registry record.destination now (.updateFlight update))

/-- Hands on the records in front whose time has come, and also gives those that are left. -/
def deliverDue (service : Service) (midnight : Instant) :
    List Record → Progress → Except Overflow (List Record × Progress)
  | [], progress => .ok ([], progress)
  | record :: rest, progress =>
    if record.time ≤ progress.elapsed then do
      deliverDue service midnight rest (← deliver service midnight progress record)
    else .ok (record :: rest, progress)

/--
Recomputes one airport at the time that the clock shows.

An overflow does not end the replay, but the airport is not recomputed again, and what was done up
to the overflow stays done.
-/
def tick (service : Service) (midnight : Instant) (progress : Progress) (airport : String) :
    Progress :=
  if (progress.ended.lookup airport).isSome then progress
  else
    match Record.instantAt midnight progress.elapsed with
    | .error overflow => progress.endTicks airport overflow
    | .ok now =>
      match service.execute progress.registry airport now .recompute with
      | .ok reply => progress.take reply
      | .error overflow =>
        { progress with
          registry := service.interruptedAt progress.registry airport now }.endTicks airport
          overflow

/-- Recomputes every airport in turn. -/
def tickAll (service : Service) (midnight : Instant) (progress : Progress) : Progress :=
  progress.registry.airports.foldl (tick service midnight) progress

/-- Lives through one second: the clock goes on, the updates come in, and then the recomputations. -/
def live (service : Service) (midnight : Instant) (moment : Moment) (waiting : List Record)
    (progress : Progress) : Except Overflow (List Record × Progress) := do
  let (rest, updated) ←
    deliverDue service midnight waiting { progress with elapsed := moment.second }
  return (rest, Nat.repeat (tickAll service midnight) moment.ticks updated)

/--
Lives through so many seconds from an offset on, with the records that wait for their time.

Each second is made up only when it is reached, so an overflow ends even the longest replay.
-/
def liveFrom (replay : Replay) (service : Service) (midnight : Instant) :
    Nat → Nat → List Record → Progress → Except Overflow Progress
  | 0, _, _, progress => .ok progress
  | seconds + 1, offset, waiting, progress => do
    let (rest, lived) ← live service midnight (replay.moment offset) waiting progress
    replay.liveFrom service midnight seconds (offset + 1) rest lived

/-- Lives through a replay from its first second to its last one. -/
def run (replay : Replay) (service : Service) (midnight : Instant) (registry : Registry) :
    Except Overflow Progress :=
  replay.liveFrom service midnight replay.seconds 0 replay.records (replay.start registry)

/-- The result of replaying records. -/
def ofRecords (service : Service) (midnight : Instant) (registry : Registry)
    (records : List Record) : Except Overflow (Except ReplayFault Progress) := do
  match ← ofRecords? service.settings records with
  | none => return .error .noRecords
  | some replay => return (← replay.run service midnight registry).result

end Replay

end ArrivalManager
