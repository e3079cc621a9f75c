import ArrivalManager.Proofs.Result
import ArrivalManager.Settings

/-! What can be wrong with a setting, and that reading the settings reports the first such thing. -/

namespace ArrivalManager

namespace Duration

/-- A number of minutes is held by a duration up to the most minutes in either direction. -/
theorem ofMinutes_inRange (count : Int) :
    (ofMinutes count).InRange ↔ count.natAbs ≤ 153722867280912 := by
  unfold InRange longestNanos ofMinutes ofSeconds nanosPerSecond
  dsimp only
  omega

/-- A number of seconds is held by a duration up to the most seconds in either direction. -/
theorem ofSeconds_inRange (count : Int) :
    (ofSeconds count).InRange ↔ count.natAbs ≤ 9223372036854775 := by
  unfold InRange longestNanos ofSeconds nanosPerSecond
  dsimp only
  omega

/-- A duration that is not represented is reported as the overflow that it is. -/
theorem checked_eq_error {span : Duration} {overflow other : Overflow} :
    span.checked overflow = .error other ↔ ¬ span.InRange ∧ overflow = other := by
  unfold checked
  split
  · simp [*]
  · simp [*]

end Duration

/-- What the text of a setting stands for. -/
inductive SettingForm where
  /-- A number of seconds of which there must be one at least. -/
  | interval
  | minutes
  | seconds
  | real
  | speed

namespace SettingForm

/-- Whether a text can be read as what a setting stands for; white space around it does not matter. -/
def Reads (form : SettingForm) (text : String) : Prop :=
  match form with
  | .interval => ∃ count, readUnsigned 64 (trimBlanks text.toList) = .ok count
  | .minutes | .seconds => ∃ count, readSigned 64 (trimBlanks text.toList) = .ok count
  | .real => ∃ value, readReal (trimBlanks text.toList) = .ok value
  | .speed => ∃ speed, Speed.ofText? (String.ofList (trimBlanks text.toList)) = some speed

/-- The most units that a duration holds in either direction, and the overflow beyond them. -/
def longest? : SettingForm → Option (Nat × Overflow)
  | .minutes => some (153722867280912, .minutes)
  | .seconds => some (9223372036854775, .seconds)
  | .interval | .real | .speed => none

/-- The ways in which the text of a setting is of no use, each with what is reported for it. -/
inductive Rejects (form : SettingForm) (key text : String) : SettingsFault → Prop where
  /-- The text does not have the form of the setting. -/
  | unread (unread : ¬ form.Reads text) : Rejects form key text (.invalidValue key text)
  /-- The text is zero where there must be one at least. -/
  | zero (interval : form = .interval)
    (read : readUnsigned 64 (trimBlanks text.toList) = .ok 0) : Rejects form key text (.notPositive key)
  /-- The text is a number of minutes or seconds that no duration holds. -/
  | oversized {most : Nat} {overflow : Overflow} {count : Int}
    (bounded : form.longest? = some (most, overflow))
    (read : readSigned 64 (trimBlanks text.toList) = .ok count) (beyond : most < count.natAbs) :
    Rejects form key text (.overflowed overflow)

end SettingForm

/-- The settings in the order in which they are read. -/
def Settings.forms : List (String × SettingForm) :=
  [("TICK_INTERVAL_SECONDS", .interval), ("STABLE_THRESHOLD_MINUTES", .minutes),
    ("FROZEN_THRESHOLD_MINUTES", .minutes), ("MINIMUM_UNSTABLE_SECONDS", .seconds),
    ("FLIGHT_CREATION_RANGE_NM", .real), ("LANDED_RETENTION_MINUTES", .minutes),
    ("RETIRED_RETENTION_MINUTES", .minutes), ("REPLAY_SPEED", .speed)]

/-- The settings that are read are those that are named. -/
theorem Settings.map_forms : forms.map (·.1) = keys := rfl

namespace Environment

/-- A setting that is set to a text that is of no use. -/
def Flawed (environment : Environment) (setting : String × SettingForm) (fault : SettingsFault) :
    Prop :=
  ∃ text, environment setting.1 = some text ∧ setting.2.Rejects setting.1 text fault

/-- A setting that is set to a number of minutes or seconds that no duration holds. -/
def Oversized (environment : Environment) (setting : String × SettingForm) : Prop :=
  ∃ text most overflow count, environment setting.1 = some text
    ∧ setting.2.longest? = some (most, overflow)
    ∧ readSigned 64 (trimBlanks text.toList) = .ok count ∧ most < count.natAbs

/-- A setting that is not set, or is set to a text that can be used. -/
def Usable (environment : Environment) (setting : String × SettingForm) : Prop :=
  ∀ fault, ¬ environment.Flawed setting fault

/-- The first of some settings that is of no use, with what is reported for it. -/
def FirstFlaw (environment : Environment) (settings : List (String × SettingForm))
    (fault : SettingsFault) : Prop :=
  ∃ before setting after, settings = before ++ setting :: after
    ∧ (∀ earlier ∈ before, environment.Usable earlier) ∧ environment.Flawed setting fault

variable {environment : Environment} {setting : String × SettingForm}
  {settings : List (String × SettingForm)} {fault : SettingsFault} {α β : Type}

/-- Among what can be wrong with a setting, only a number that is too large is an overflow. -/
theorem oversized_iff :
    (∃ overflow, environment.Flawed setting (.overflowed overflow)) ↔ environment.Oversized setting := by
  constructor
  · rintro ⟨overflow, text, named, rejects⟩
    cases rejects with
    | oversized bounded read beyond => exact ⟨text, _, _, _, named, bounded, read, beyond⟩
  · rintro ⟨text, most, overflow, count, named, bounded, read, beyond⟩
    exact ⟨overflow, text, named, .oversized bounded read beyond⟩

/-- Without settings there is nothing wrong with them. -/
theorem not_firstFlaw_nil : ¬ environment.FirstFlaw [] fault := by
  rintro ⟨before, setting, after, split, _⟩
  simp at split

/-- What is wrong first is wrong with the first setting, or that one can be used. -/
theorem firstFlaw_cons : environment.FirstFlaw (setting :: settings) fault
    ↔ environment.Flawed setting fault
      ∨ environment.Usable setting ∧ environment.FirstFlaw settings fault := by
  constructor
  · rintro ⟨before, flawed, after, split, usable, flaw⟩
    -- The settings before the flawed one are none, or begin with the first setting.
    cases before with
    | nil =>
      obtain ⟨rfl, rfl⟩ := List.cons.inj split
      exact .inl flaw
    | cons first rest =>
      obtain ⟨rfl, rfl⟩ := List.cons.inj split
      refine .inr ⟨usable setting List.mem_cons_self, rest, flawed, after, rfl, ?_, flaw⟩
      exact fun earlier member => usable earlier (List.mem_cons_of_mem _ member)
  · rintro (flaw | ⟨first, before, flawed, after, rfl, usable, flaw⟩)
    · exact ⟨[], setting, settings, rfl, by simp, flaw⟩
    · refine ⟨setting :: before, flawed, after, rfl, fun earlier member => ?_, flaw⟩
      rcases List.mem_cons.mp member with rfl | member
      · exact first
      · exact usable earlier member

/-- Only if all settings can be used, nothing is wrong first. -/
theorem usable_iff_not_firstFlaw : (∀ setting ∈ settings, environment.Usable setting)
    ↔ ∀ fault, ¬ environment.FirstFlaw settings fault := by
  induction settings with
  | nil => simp [not_firstFlaw_nil]
  | cons setting settings ih =>
    simp only [List.forall_mem_cons, ih, firstFlaw_cons, not_or, not_and]
    constructor
    · rintro ⟨first, others⟩ fault
      exact ⟨first fault, fun _ => others fault⟩
    · intro none
      have first : environment.Usable setting := fun fault => (none fault).1
      exact ⟨first, fun fault => (none fault).2 first⟩

/-- A step that fails for what is wrong with a setting, and gives a value otherwise. -/
def Reports (environment : Environment) (settings : List (String × SettingForm))
    (step : Except SettingsFault α) : Prop :=
  ∀ fault, step = .error fault ↔ environment.FirstFlaw settings fault

/-- A step that reads nothing reports nothing. -/
theorem reports_pure (value : α) : environment.Reports [] (pure value) := by
  intro fault
  simp [not_firstFlaw_nil, Pure.pure, Except.pure]

/-- A step that reads one setting reports what is wrong with it. -/
theorem reports_single {step : Except SettingsFault α}
    (flaws : ∀ fault, step = .error fault ↔ environment.Flawed setting fault) :
    environment.Reports [setting] step := by
  intro fault
  simp [flaws, firstFlaw_cons, not_firstFlaw_nil]

/-- A step that reads one setting, and then others, reports what is wrong with the first of them. -/
theorem Reports.bind {step : Except SettingsFault α} {next : α → Except SettingsFault β}
    (first : environment.Reports [setting] step)
    (others : ∀ value, environment.Reports settings (next value)) :
    environment.Reports (setting :: settings) (step >>= next) := by
  intro fault
  have flaws : ∀ fault, step = .error fault ↔ environment.Flawed setting fault := by
    simpa [Reports, firstFlaw_cons, not_firstFlaw_nil] using first
  rw [bind_eq_error, firstFlaw_cons, flaws]
  -- The step gives a value exactly if the setting can be used.
  refine or_congr_right ⟨?_, ?_⟩
  · rintro ⟨value, given, failed⟩
    refine ⟨fun fault flaw => ?_, (others value fault).mp failed⟩
    rw [(flaws fault).mpr flaw] at given
    cases given
  · rintro ⟨usable, flaw⟩
    cases given : step with
    | error other => exact absurd ((flaws other).mp given) (usable other)
    | ok value => exact ⟨value, rfl, (others value fault).mpr flaw⟩

/-- A setting that is read fails if it is set to a text that is not read, and for nothing else. -/
theorem read_eq_error {key : String} {parse : List Char → Option α} :
    environment.read key parse = .error fault ↔
      ∃ text, environment key = some text ∧ parse (trimBlanks text.toList) = none
        ∧ fault = .invalidValue key text := by
  unfold read
  cases named : environment key with
  | none => simp
  | some text =>
    cases parsed : parse (trimBlanks text.toList) with
    | none => simp [parsed, eq_comm]
    | some value => simp [parsed]

/-- A setting that is read has a value if it is set to a text that is read as that value. -/
theorem read_eq_some {key : String} {parse : List Char → Option α} {value : α} :
    environment.read key parse = .ok (some value) ↔
      ∃ text, environment key = some text ∧ parse (trimBlanks text.toList) = some value := by
  unfold read
  cases named : environment key with
  | none => simp
  | some text =>
    cases parsed : parse (trimBlanks text.toList) with
    | none => simp [parsed]
    | some other => simp [parsed]

/-- A setting of which nothing is asked but its form is reported if it does not have it. -/
theorem reports_read {key : String} {form : SettingForm} {parse : List Char → Option α}
    (plain : form ≠ .interval) (unbounded : form.longest? = none)
    (reads : ∀ text : String, form.Reads text ↔ ∃ value, parse (trimBlanks text.toList) = some value) :
    environment.Reports [(key, form)] (environment.read key parse) := by
  refine reports_single fun fault => ?_
  rw [read_eq_error]
  refine exists_congr fun text => and_congr_right fun _ => ?_
  have unread : parse (trimBlanks text.toList) = none ↔ ¬ form.Reads text := by
    rw [reads, Option.eq_none_iff_forall_ne_some, not_exists]
  constructor
  · rintro ⟨missed, rfl⟩
    exact .unread (unread.mp missed)
  · intro rejects
    -- A setting of this form is refused for neither of the other reasons.
    cases rejects with
    | unread missed => exact ⟨unread.mpr missed, rfl⟩
    | zero interval => exact absurd interval plain
    | oversized bounded => simp [unbounded] at bounded

/-- A number of minutes or seconds is reported if it is no number, or if no duration holds it. -/
theorem reports_readDuration {key : String} {form : SettingForm} {unit : Int → Duration}
    {overflow : Overflow} {most : Nat} {standard : Duration}
    (bounded : form.longest? = some (most, overflow))
    (reads : ∀ text : String, form.Reads text
      ↔ ∃ count, readSigned 64 (trimBlanks text.toList) = .ok count)
    (holds : ∀ count, (unit count).InRange ↔ count.natAbs ≤ most) :
    environment.Reports [(key, form)] (environment.readDuration key unit overflow standard) := by
  refine reports_single fun fault => ?_
  unfold readDuration
  rw [bind_eq_error, read_eq_error]
  constructor
  · rintro (⟨text, named, missed, rfl⟩ | ⟨count?, given, failed⟩)
    · rw [toOption_eq_none, ← reads] at missed
      exact ⟨text, named, .unread missed⟩
    · -- The number is read, so it is the duration that fails.
      cases count? with
      | none => cases failed
      | some count =>
        obtain ⟨text, named, parsed⟩ := read_eq_some.mp given
        obtain ⟨_, missed, rfl⟩ := mapError_eq_error.mp failed
        obtain ⟨outside, rfl⟩ := Duration.checked_eq_error.mp missed
        have beyond := Nat.lt_of_not_le (mt (holds count).mpr outside)
        exact ⟨text, named, .oversized bounded (toOption_eq_some.mp parsed) beyond⟩
  · rintro ⟨text, named, rejects⟩
    cases rejects with
    | unread missed =>
      rw [reads, ← toOption_eq_none] at missed
      exact .inl ⟨text, named, missed, rfl⟩
    | zero interval =>
      subst interval
      cases bounded
    | oversized same read beyond =>
      obtain ⟨rfl, rfl⟩ := Prod.mk.inj (Option.some.inj (bounded.symm.trans same))
      refine .inr ⟨_, read_eq_some.mpr ⟨text, named, toOption_eq_some.mpr read⟩, ?_⟩
      -- Beyond the most units no duration is represented.
      have outside := mt (holds _).mp (Nat.not_le.mpr beyond)
      exact mapError_eq_error.mpr ⟨_, Duration.checked_eq_error.mpr ⟨outside, rfl⟩, rfl⟩

/-- Minutes are reported if they are no number or too many. -/
theorem reports_readMinutes (key : String) (standard : Duration) :
    environment.Reports [(key, .minutes)] (environment.readMinutes key standard) :=
  reports_readDuration rfl (fun _ => Iff.rfl) Duration.ofMinutes_inRange

/-- Seconds are reported if they are no number or too many. -/
theorem reports_readSeconds (key : String) (standard : Duration) :
    environment.Reports [(key, .seconds)] (environment.readSeconds key standard) :=
  reports_readDuration rfl (fun _ => Iff.rfl) Duration.ofSeconds_inRange

/-- An interval that is read, and refused if it is zero. -/
def readInterval (environment : Environment) (key : String) : Except SettingsFault (Option Nat) := do
  let count ← environment.read key fun text => (readUnsigned 64 text).toOption
  if count = some 0 then throw (.notPositive key)
  return count

/-- An interval is reported if it is no number or zero. -/
theorem reports_readInterval (key : String) :
    environment.Reports [(key, .interval)] (environment.readInterval key) := by
  refine reports_single fun fault => ?_
  unfold readInterval
  rw [bind_eq_error, read_eq_error]
  constructor
  · rintro (⟨text, named, missed, rfl⟩ | ⟨count?, given, failed⟩)
    · exact ⟨text, named, .unread (toOption_eq_none.mp missed)⟩
    · -- Of what is read, only zero is refused.
      split at failed
      · rename_i zero
        subst zero
        cases failed
        obtain ⟨text, named, parsed⟩ := read_eq_some.mp given
        exact ⟨text, named, .zero rfl (toOption_eq_some.mp parsed)⟩
      · cases failed
  · rintro ⟨text, named, rejects⟩
    cases rejects with
    | unread missed => exact .inl ⟨text, named, toOption_eq_none.mpr missed, rfl⟩
    | zero _ read =>
      exact .inr ⟨_, read_eq_some.mpr ⟨text, named, toOption_eq_some.mpr read⟩, rfl⟩
    | oversized bounded => cases bounded

end Environment

namespace Settings

/-- The settings are read one after the other, and the interval is looked at before the others. -/
theorem ofEnvironment_eq (environment : Environment) :
    ofEnvironment environment = (do
      let tick ← environment.readInterval "TICK_INTERVAL_SECONDS"
      let stable ← environment.readMinutes "STABLE_THRESHOLD_MINUTES" standard.thresholds.stable
      let frozen ← environment.readMinutes "FROZEN_THRESHOLD_MINUTES" standard.thresholds.frozen
      let minimumUnstable ←
        environment.readSeconds "MINIMUM_UNSTABLE_SECONDS" standard.thresholds.minimumUnstable
      let range ← environment.read "FLIGHT_CREATION_RANGE_NM" fun text => (readReal text).toOption
      let landed ← environment.readMinutes "LANDED_RETENTION_MINUTES" standard.landedRetention
      let retired ← environment.readMinutes "RETIRED_RETENTION_MINUTES" standard.retiredRetention
      let speed ← environment.read "REPLAY_SPEED" fun text => Speed.ofText? (String.ofList text)
      return {
        thresholds := ⟨stable, frozen, minimumUnstable⟩
        creationRangeNm := range.getD standard.creationRangeNm
        landedRetention := landed
        retiredRetention := retired
        tickSeconds := tick.getD standard.tickSeconds
        replaySpeed := speed.getD standard.replaySpeed }) := by
  unfold ofEnvironment Environment.readInterval
  simp only [bind_assoc]
  refine bind_congr fun tick => ?_
  -- An interval of zero ends both, and any other one goes on to the same settings.
  by_cases zero : tick = some 0
  · simp only [zero, if_true]
    rfl
  · simp only [zero, if_false, pure_bind]

/-- Reading the settings reports the first of them that is of no use. -/
theorem reports_ofEnvironment (environment : Environment) :
    environment.Reports forms (ofEnvironment environment) := by
  rw [ofEnvironment_eq]
  -- Each step reads the next one of the settings, and the last one reads nothing.
  refine .bind (Environment.reports_readInterval _) fun tick => ?_
  refine .bind (Environment.reports_readMinutes _ _) fun stable => ?_
  refine .bind (Environment.reports_readMinutes _ _) fun frozen => ?_
  refine .bind (Environment.reports_readSeconds _ _) fun minimumUnstable => ?_
  refine .bind (Environment.reports_read (by simp) rfl fun text => ?_) fun range => ?_
  · simp only [SettingForm.Reads, toOption_eq_some]
  refine .bind (Environment.reports_readMinutes _ _) fun landed => ?_
  refine .bind (Environment.reports_readMinutes _ _) fun retired => ?_
  refine .bind (Environment.reports_read (by simp) rfl fun text => Iff.rfl) fun speed => ?_
  exact Environment.reports_pure _

/--
The settings are read exactly if each of them can be used; otherwise the first that can not is reported.

The computation leaves the range of the durations exactly if that one is a number of minutes or seconds
that no duration holds, whereas a text that is no number at all is an invalid value.
-/
theorem ofEnvironment_reports (environment : Environment) :
    ((∃ settings, ofEnvironment environment = .ok settings)
      ↔ ∀ setting ∈ forms, environment.Usable setting)
    ∧ (∀ fault, ofEnvironment environment = .error fault ↔ environment.FirstFlaw forms fault)
    ∧ ((∃ overflow, ofEnvironment environment = .error (.overflowed overflow))
      ↔ ∃ before setting after, forms = before ++ setting :: after
        ∧ (∀ earlier ∈ before, environment.Usable earlier) ∧ environment.Oversized setting) := by
  have reports := reports_ofEnvironment environment
  refine ⟨?_, reports, ?_⟩
  · rw [Environment.usable_iff_not_firstFlaw]
    simp only [← reports _]
    -- What is not reported is read.
    cases ofEnvironment environment <;> simp
  · simp only [reports _, Environment.FirstFlaw, ← Environment.oversized_iff]
    constructor
    · rintro ⟨overflow, before, setting, after, split, usable, flaw⟩
      exact ⟨before, setting, after, split, usable, overflow, flaw⟩
    · rintro ⟨before, setting, after, split, usable, overflow, flaw⟩
      exact ⟨overflow, before, setting, after, split, usable, flaw⟩

/-- Only the names of the settings are looked up, so an environment may leave out all others. -/
theorem ofEnvironment_congr {environment other : Environment}
    (same : ∀ key ∈ keys, environment key = other key) :
    ofEnvironment environment = ofEnvironment other := by
  have reads {α : Type} (key : String) (parse : List Char → Option α) (named : key ∈ keys) :
      environment.read key parse = other.read key parse := by
    unfold Environment.read
    rw [same key named]
  unfold ofEnvironment Environment.readMinutes Environment.readSeconds Environment.readDuration
  simp (disch := decide) only [reads]

/-- Only the threshold of the stable flights is set, to the largest number of minutes that is read. -/
def sampleLongest : Environment := fun key =>
  if key = "STABLE_THRESHOLD_MINUTES" then some "9223372036854775807" else none

/-- A number of minutes that is read as such is not reported as an invalid value. -/
theorem ofEnvironment_overflows_sampleLongest :
    readSigned 64 (trimBlanks "9223372036854775807".toList) = .ok 9223372036854775807
      ∧ ofEnvironment sampleLongest = .error (.overflowed .minutes)
      ∧ ofEnvironment sampleLongest
        ≠ .error (.invalidValue "STABLE_THRESHOLD_MINUTES" "9223372036854775807") := by
  have overflows : ofEnvironment sampleLongest = .error (.overflowed .minutes) := rfl
  exact ⟨rfl, overflows, by simp [overflows]⟩

end Settings

end ArrivalManager
