import ArrivalManager.Service
import ArrivalManager.Text.Lines
import ArrivalManager.Text.Utf8

/-! Recorded flight data: one update per line of text, with times in seconds since midnight. -/

namespace ArrivalManager

/-- One recorded update. -/
structure Record where
  /-- The time the update was received, in seconds since midnight like the other times. -/
  time : Int
  callsign : String
  typeCode : String
  origin : String
  destination : String
  /-- The feeder fix and the estimate there, if the flight has a fix. -/
  fix : Option (String × Int)
  /-- The estimate of the landing. -/
  landing : Int
  position : Position

/-- Why a file of records can not be read. -/
inductive RecordFault where
  | notText (fault : Utf8Fault)
  /-- A line does not have one value for each field. -/
  | wrongCount (count : Nat) (line : String)
  | badInteger (fault : IntegerFault)
  | badReal (fault : RealFault)
deriving DecidableEq

/-- The values on a line. -/
def fieldsPerRecord : Nat := 12

/-- The text reported for a file that can not be read. -/
def RecordFault.message : RecordFault → String
  | .notText fault => fault.message
  | .wrongCount count line =>
    "expected " ++ toString fieldsPerRecord ++ " values, got " ++ toString count ++ ": '" ++ line
      ++ "'"
  | .badInteger fault => fault.message
  | .badReal fault => fault.message

namespace Record

/-- A signed number of so many bits in a field. -/
def readInteger (bits : Nat) (field : List Char) : Except RecordFault Int :=
  (readSigned bits field).mapError .badInteger

/-- A real number in a field. -/
def readNumber (field : List Char) : Except RecordFault Float :=
  (readReal field).mapError .badReal

/-- The feeder fix in a field, with its estimate in the next one; a dash stands for no fix. -/
def readFix (fix estimate : List Char) : Except RecordFault (Option (String × Int)) :=
  if fix = ['-'] then .ok none
  else do return some (String.ofList fix, ← readInteger 64 estimate)

/-- The record on a line. -/
def ofLine (line : List Char) : Except RecordFault Record :=
  match splitFields line with
  | [time, callsign, typeCode, origin, destination, fix, fixEstimate, landing, latitude, longitude,
      altitude, groundSpeed] => do
    let time ← readInteger 64 time
    let fix ← readFix fix fixEstimate
    let landing ← readInteger 64 landing
    let latitude ← readNumber latitude
    let longitude ← readNumber longitude
    let altitude ← readInteger 32 altitude
    let groundSpeed ← readNumber groundSpeed
    return {
      time, fix, landing
      callsign := String.ofList callsign
      typeCode := String.ofList typeCode
      origin := String.ofList origin
      destination := String.ofList destination
      position := ⟨⟨latitude, longitude⟩, altitude, groundSpeed⟩ }
  | fields => .error (.wrongCount fields.length (String.ofList line))

/-- Blank lines, and lines that begin with a number sign, hold no record. -/
def isComment (line : List Char) : Bool := line.all isBlank || line.head? = some '#'

/-- The records in a text, one on each line that is no comment. -/
def ofText (text : List Char) : Except RecordFault (List Record) :=
  ((textLines text).filter fun line => ¬ isComment line).mapM ofLine

/-- The records in a file of these bytes. -/
def ofBytes (bytes : List Nat) : Except RecordFault (List Record) := do
  ofText (← (decodeUtf8 bytes).mapError .notText)

/-- The instant so many seconds after midnight. -/
def instantAt (midnight : Instant) (second : Int) : Except Overflow Instant := do
  midnight.plus (← (Duration.ofSeconds second).checked .seconds)

/-- The flight data update that was recorded on the day that began at midnight. -/
def toUpdate (record : Record) (midnight : Instant) : Except Overflow FlightUpdate := do
  let fix ← match record.fix with
    | none => pure none
    | some (identifier, estimate) =>
      pure (some ⟨identifier, ← instantAt midnight estimate, none⟩)
  let landing ← instantAt midnight record.landing
  return {
    callsign := record.callsign
    typeCode := record.typeCode
    origin := some record.origin
    destination := record.destination
    fix, landing
    arrival := none
    runway := none
    position := some record.position }

end Record

end ArrivalManager
