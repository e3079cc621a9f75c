import ArrivalManager.Lookup

/-! Lookups that read tables kept in memory. -/

namespace ArrivalManager

/-- Rows of a key and a value, each key once, in the order in which the keys first came. -/
abbrev Table (κ α : Type) := List (κ × α)

namespace Table

/-- The table with a value under a key, in place of the value the key had. -/
def insert {κ α : Type} [BEq κ] (table : Table κ α) (key : κ) (value : α) : Table κ α :=
  if table.any (·.1 == key) then
    table.map fun row => if row.1 == key then (key, value) else row
  else table ++ [(key, value)]

/-- The table of some rows; of two rows with one key the later one counts. -/
def ofRows {κ α : Type} [BEq κ] (rows : List (κ × α)) : Table κ α :=
  rows.foldl (fun table row => table.insert row.1 row.2) []

/-- The value under a key. -/
def find? {κ α : Type} [BEq κ] (table : Table κ α) (key : κ) : Option α :=
  (List.find? (fun row => row.1 == key) table).map (·.2)

end Table

/-- The performance of aircraft types by their designators. -/
abbrev PerformanceTable := Table String Performance

/-- Common types. -/
def PerformanceTable.common : PerformanceTable :=
  .ofRows [
    ("A320", ⟨.medium, true⟩),
    ("A321", ⟨.medium, true⟩),
    ("A332", ⟨.heavy, true⟩),
    ("A388", ⟨.superHeavy, true⟩),
    ("B38M", ⟨.medium, true⟩),
    ("B738", ⟨.medium, true⟩),
    ("B789", ⟨.heavy, true⟩),
    ("DH8D", ⟨.medium, false⟩),
    ("E190", ⟨.medium, true⟩),
    ("SF34", ⟨.light, false⟩)]

/-- The lookup that reads a table of types. -/
def PerformanceTable.lookup (table : PerformanceTable) : PerformanceLookup := table.find?

/-- The places of fixes by their names. -/
abbrev FixTable := Table String Coordinate

/-- The lookup that reads a table of fixes. -/
def FixTable.lookup (table : FixTable) : FixLookup := table.find?

/-- The wake separation of a leader and a trailer by their categories. -/
abbrev WakeTable := Table (WakeCategory × WakeCategory) Duration

/-- The usual separation in time; pairs that are not listed need none. -/
def WakeTable.standard : WakeTable :=
  .ofRows [
    ((.superHeavy, .heavy), .ofSeconds 120),
    ((.superHeavy, .medium), .ofSeconds 180),
    ((.superHeavy, .light), .ofSeconds 180),
    ((.heavy, .heavy), .ofSeconds 90),
    ((.heavy, .medium), .ofSeconds 120),
    ((.heavy, .light), .ofSeconds 180),
    ((.medium, .light), .ofSeconds 120)]

/-- The rule that reads a table of wake separations; the mode does not matter to it. -/
def WakeTable.rule (table : WakeTable) : SeparationRule :=
  fun leader trailer _ => table.find? (leader.wake, trailer.wake)

/-- The path of an arrival: from a fix to a runway, by a procedure or by any. -/
structure Trajectory where
  airport : String
  fix : String
  arrival : Option String
  runway : String
deriving DecidableEq

/-- The flow of arrivals from a fix to a runway. -/
structure ArrivalFlow where
  airport : String
  fix : String
  runway : String
deriving DecidableEq

/-- Times to go and intervals between arrivals; neither depends on the aircraft. -/
structure ArrivalTable where
  timesToGo : Table Trajectory Duration
  intervals : Table ArrivalFlow Duration

namespace ArrivalTable

/-- The time to go by a procedure, or by any procedure where none or an unknown one is given. -/
def timeToGo (table : ArrivalTable) (airport fix : String) (arrival : Option String)
    (runway : String) : Option Duration :=
  (arrival.bind fun name => table.timesToGo.find? ⟨airport, fix, some name, runway⟩).or
    (table.timesToGo.find? ⟨airport, fix, none, runway⟩)

/-- The sum of durations, which may become too long on the way. -/
def total : List Duration → Except Overflow Duration :=
  List.foldlM (fun sum span => sum.plus span) .zero

/-- The average of all times to go from a fix of an airport, if there are any. -/
def averageTimeToGo (table : ArrivalTable) (airport fix : String) :
    Except Overflow (Option Duration) :=
  let times := (table.timesToGo.filter fun row =>
    row.1.airport = airport ∧ row.1.fix = fix).map (·.2)
  if times.isEmpty then .ok none
  else do return some ((← total times).divide times.length)

/-- The lookup that reads the two tables. -/
def lookup (table : ArrivalTable) : ArrivalLookup :=
  { timeToGo := fun airport fix arrival runway _ => table.timeToGo airport fix arrival runway
    averageTimeToGo := table.averageTimeToGo
    arrivalInterval := fun airport fix runway _ => table.intervals.find? ⟨airport, fix, runway⟩ }

end ArrivalTable

end ArrivalManager
