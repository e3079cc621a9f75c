import ArrivalManager.Replay
import ArrivalManager.SampleAirport

/-! The command line: replays a file of recorded traffic at the sample airport. -/

namespace ArrivalManager

/-- A flight in a summary: callsign, runway and the time of day of its landing. -/
def Flight.summary (flight : Flight) : String :=
  " ".intercalate [flight.callsign, flight.runway.getD "-",
    timeOfDayText flight.landing.scheduled.secondOfDay]

/-- A snapshot on one line: airport, time of day, mode and the tracked flights. -/
def Snapshot.summary (snapshot : Snapshot) : String :=
  snapshot.airport ++ " " ++ timeOfDayText snapshot.time.secondOfDay ++ " [" ++ snapshot.mode
    ++ "] " ++ ", ".intercalate (snapshot.flights.map (·.summary))

/-- The misses of a replay on one line. -/
def Misses.summary (misses : Misses) : String :=
  "lookup misses: " ++ toString misses.trajectory ++ " trajectories ("
    ++ toString misses.averageTrajectory ++ " without an average), " ++ toString misses.fix
    ++ " fixes"

/-- The service of the sample airport. -/
def Service.sample (settings : Settings) : Service :=
  { rule := WakeTable.standard.rule
    performance := PerformanceTable.common.lookup
    fixes := FixTable.sample.lookup
    arrivals := ArrivalTable.sample.lookup
    settings }

/-- The file that is replayed unless another one is named. -/
def sampleRecordsPath : String := "./test_data/arrivals.csv"

/-- The settings among the variables of the process. -/
def readEnvironment : IO Environment := do
  let values ← Settings.keys.mapM fun key => return (key, ← IO.getEnv key)
  return fun key => (values.lookup key).join

/-- The milliseconds that one pause may take at most. -/
def longestPause : Nat := 0xFFFFFFFF

/--
Lives through a replay at its pace and prints each snapshot.

Only times of day are printed, so any day serves as well as another.
-/
def printReplay (replay : Replay) (service : Service) (registry : Registry) :
    IO (Except Overflow Replay.Progress) := do
  let mut progress := replay.start registry
  let mut waiting := replay.records
  for offset in [0 : replay.seconds] do
    match Replay.live service .epoch (replay.moment offset) waiting
      { progress with published := [] } with
    | .error overflow => return .error overflow
    | .ok (rest, lived) =>
      for snapshot in lived.published.reverse do
        IO.println snapshot.summary
      progress := lived
      waiting := rest
      IO.sleep (min replay.pauseMillis longestPause).toUInt32
  return .ok progress

/-- Prints what became of a replay. -/
def printResult (registry : Registry) (result : Except ReplayFault Replay.Progress) : IO Unit := do
  match result with
  | .error fault => IO.eprintln ("replay failed: " ++ fault.message)
  | .ok last =>
    IO.println ("replay finished with " ++ toString last.trackedCount ++ " flights still tracked")
  IO.println registry.misses.summary

/-- Replays the records in a file; answers the exit code. -/
def replayFile (settings : Settings) (path : String) : IO UInt32 := do
  let service := Service.sample settings
  let (_, registry) := Registry.empty.createAll [.sample]
  let bytes ← IO.FS.readBinFile path
  match Record.ofBytes (bytes.toList.map (·.toNat)) with
  | .error fault =>
    IO.eprintln ("Error: " ++ fault.message)
    return 1
  | .ok records =>
    match Replay.ofRecords? settings records with
    | .error overflow =>
      IO.eprintln overflow.message
      return 1
    | .ok none =>
      printResult registry (.error .noRecords)
      return 0
    | .ok (some replay) =>
      match ← printReplay replay service registry with
      | .error overflow =>
        IO.eprintln overflow.message
        return 1
      | .ok last =>
        printResult last.registry last.result
        return 0

end ArrivalManager

/-- Replays the file in the variable `REPLAY_CSV`, or the sample one. -/
def main : IO UInt32 := do
  match ArrivalManager.Settings.ofEnvironment (← ArrivalManager.readEnvironment) with
  | .error fault =>
    IO.eprintln ("Error: " ++ fault.message)
    return 1
  | .ok settings =>
    let path ← IO.getEnv "REPLAY_CSV"
    ArrivalManager.replayFile settings (path.getD ArrivalManager.sampleRecordsPath)
