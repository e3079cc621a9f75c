import ArrivalManager.Flight
import ArrivalManager.Speed
import ArrivalManager.Text.Blank
import ArrivalManager.Text.Real

/-! The settings of the sequencer, and how they are read from named texts. -/

namespace ArrivalManager

/-- What can be set when the sequencer starts. -/
structure Settings where
  thresholds : Thresholds
  /-- The distance to its feeder fix at which a flight begins to be tracked. -/
  creationRangeNm : Float
  /-- How long flights stay in the sequence after landing. -/
  landedRetention : Duration
  /-- How long after landing updates for flights no longer sequenced are refused. -/
  retiredRetention : Duration
  /-- The seconds between recomputations. -/
  tickSeconds : Nat
  replaySpeed : Speed

/-- The settings where nothing else is asked for. -/
def Settings.standard : Settings :=
  { thresholds := .standard
    creationRangeNm := 200.0
    landedRetention := .ofMinutes 5
    retiredRetention := .ofMinutes 30
    tickSeconds := 30
    replaySpeed := .fastForward 60 }

/-- The real time between the recomputations of a replay, in nanoseconds. -/
def Settings.tickPeriod (settings : Settings) : Except Overflow Nat :=
  settings.replaySpeed.adjust (settings.tickSeconds * 1000000000)

/-- Why settings can not be read. -/
inductive SettingsFault where
  /-- A text does not have the form of its setting. -/
  | invalidValue (key value : String)
  /-- A setting that must be positive is zero. -/
  | notPositive (key : String)
  /-- A number is too large for the time it stands for. -/
  | overflowed (overflow : Overflow)
deriving DecidableEq

/-- The text reported for settings that can not be read. -/
def SettingsFault.message : SettingsFault → String
  | .invalidValue key value => "invalid value for " ++ key ++ ": '" ++ value ++ "'"
  | .notPositive key => key ++ " must be greater than zero"
  | .overflowed overflow => overflow.message

/-- The texts of the settings by their names. -/
abbrev Environment := String → Option String

namespace Environment

/-- The value of a setting, if it is set; white space around its text does not matter. -/
def read {α : Type} (environment : Environment) (key : String) (parse : List Char → Option α) :
    Except SettingsFault (Option α) :=
  match environment key with
  | none => .ok none
  | some text =>
    match parse (trimBlanks text.toList) with
    | some value => .ok (some value)
    | none => .error (.invalidValue key text)

/-- A number of minutes or seconds as a duration, if it is set and not too large. -/
def readDuration (environment : Environment) (key : String) (unit : Int → Duration)
    (overflow : Overflow) (standard : Duration) : Except SettingsFault Duration := do
  match ← environment.read key fun text => (readSigned 64 text).toOption with
  | none => return standard
  | some count => ((unit count).checked overflow).mapError .overflowed

/-- A number of minutes as a duration. -/
def readMinutes (environment : Environment) (key : String) (standard : Duration) :
    Except SettingsFault Duration :=
  environment.readDuration key .ofMinutes .minutes standard

/-- A number of seconds as a duration. -/
def readSeconds (environment : Environment) (key : String) (standard : Duration) :
    Except SettingsFault Duration :=
  environment.readDuration key .ofSeconds .seconds standard

end Environment

/-- The names of all settings. -/
def Settings.keys : List String :=
  ["TICK_INTERVAL_SECONDS", "STABLE_THRESHOLD_MINUTES", "FROZEN_THRESHOLD_MINUTES",
    "MINIMUM_UNSTABLE_SECONDS", "FLIGHT_CREATION_RANGE_NM", "LANDED_RETENTION_MINUTES",
    "RETIRED_RETENTION_MINUTES", "REPLAY_SPEED"]

/-- The standard settings with those of the environment in their places. -/
def Settings.ofEnvironment (environment : Environment) : Except SettingsFault Settings := do
  let standard := Settings.standard
  let tickKey := "TICK_INTERVAL_SECONDS"
  let tick ← environment.read tickKey fun text => (readUnsigned 64 text).toOption
  if tick = some 0 then throw (.notPositive tickKey)
  let stable ← environment.readMinutes "STABLE_THRESHOLD_MINUTES" standard.thresholds.stable
  let frozen ← environment.readMinutes "FROZEN_THRESHOLD_MINUTES" standard.thresholds.frozen
  let minimumUnstable ←
    environment.readSeconds "MINIMUM_UNSTABLE_SECONDS" standard.thresholds.minimumUnstable
  let range ← environment.read "FLIGHT_CREATION_RANGE_NM" fun text => (readReal text).toOption
  let landed ← environment.readMinutes "LANDED_RETENTION_MINUTES" standard.landedRetention
  let retired ← environment.readMinutes "RETIRED_RETENTION_MINUTES" standard.retiredRetention
  let speed ← environment.read "REPLAY_SPEED" fun text => Speed.ofText? (String.ofList text)
  return {
    thresholds := ⟨stable, frozen, minimumUnstable⟩
    creationRangeNm := range.getD standard.creationRangeNm
    landedRetention := landed
    retiredRetention := retired
    tickSeconds := tick.getD standard.tickSeconds
    replaySpeed := speed.getD standard.replaySpeed }

end ArrivalManager
