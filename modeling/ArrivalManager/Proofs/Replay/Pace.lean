import ArrivalManager.Proofs.Replay.Delivery
import ArrivalManager.Proofs.Settings
import ArrivalManager.Proofs.Text.Integer

/-! The real time between the recomputations of a replay, and the settings that leave none. -/

namespace ArrivalManager

namespace Speed

/-- The factor of a speed, if it has one, is at least one and fits 32 bits. -/
def Bounded : Speed → Prop
  | .realTime => True
  | .fastForward factor | .slowMotion factor => 0 < factor ∧ factor ≤ 4294967295

/-- A factor that is read is at least one and fits 32 bits. -/
theorem readFactor?_bounded {text : List Char} {factor : Nat}
    (read : readFactor? text = some factor) : 0 < factor ∧ factor ≤ 4294967295 := by
  unfold readFactor? at read
  split at read
  · rename_i number parsed
    split at read
    · cases read
      exact ⟨‹0 < factor›, readUnsigned_le parsed⟩
    · cases read
  · cases read

/-- The speeds that are read have such a factor. -/
theorem ofText?_bounded {text : String} {speed : Speed} (read : ofText? text = some speed) :
    speed.Bounded := by
  unfold ofText? at read
  split at read
  · cases read
    trivial
  · -- Both kinds of factors are read alike.
    split at read
    · obtain ⟨factor, parsed, rfl⟩ := Option.map_eq_some_iff.mp read
      exact readFactor?_bounded parsed
    · obtain ⟨factor, parsed, rfl⟩ := Option.map_eq_some_iff.mp read
      exact readFactor?_bounded parsed
    · cases read

end Speed

namespace Environment

/-- An interval that is read is not zero. -/
theorem readInterval_pos {environment : Environment} {key : String} {count : Nat}
    (read : environment.readInterval key = .ok (some count)) : 0 < count := by
  unfold readInterval at read
  obtain ⟨count?, -, kept⟩ := bind_eq_ok.mp read
  split at kept
  · cases kept
  · rename_i nonzero
    cases kept
    exact Nat.pos_of_ne_zero fun zero => nonzero (congrArg some zero)

end Environment

namespace Settings

/-- Settings whose interval is one second at least, and whose speed has a factor that can be read. -/
structure Paced (settings : Settings) : Prop where
  interval : 0 < settings.tickSeconds
  speed : settings.replaySpeed.Bounded

/-- The settings that are read are such ones. -/
theorem paced_ofEnvironment {environment : Environment} {settings : Settings}
    (accepted : ofEnvironment environment = .ok settings) : settings.Paced := by
  rw [ofEnvironment_eq] at accepted
  obtain ⟨tick, readTick, accepted⟩ := bind_eq_ok.mp accepted
  obtain ⟨stable, -, accepted⟩ := bind_eq_ok.mp accepted
  obtain ⟨frozen, -, accepted⟩ := bind_eq_ok.mp accepted
  obtain ⟨minimumUnstable, -, accepted⟩ := bind_eq_ok.mp accepted
  obtain ⟨range, -, accepted⟩ := bind_eq_ok.mp accepted
  obtain ⟨landed, -, accepted⟩ := bind_eq_ok.mp accepted
  obtain ⟨retired, -, accepted⟩ := bind_eq_ok.mp accepted
  obtain ⟨speed, readSpeed, accepted⟩ := bind_eq_ok.mp accepted
  rw [← pure_eq_ok.mp accepted]
  -- What is not set has its standard value, which is in range as well.
  constructor
  · cases tick with
    | none => exact (by decide : 0 < standard.tickSeconds)
    | some count => exact Environment.readInterval_pos readTick
  · cases speed with
    | none => exact ⟨by decide, by decide⟩
    | some speed =>
      obtain ⟨text, -, parsed⟩ := Environment.read_eq_some.mp readSpeed
      exact Speed.ofText?_bounded parsed

/-- So fast that the interval takes less than a nanosecond. -/
def TooFast (settings : Settings) : Prop :=
  ∃ factor, settings.replaySpeed = .fastForward factor
    ∧ settings.tickSeconds * 1000000000 < factor

/-- So slow that the interval takes more seconds than can be counted. -/
def TooSlow (settings : Settings) : Prop :=
  ∃ factor, settings.replaySpeed = .slowMotion factor
    ∧ Speed.mostSeconds < settings.tickSeconds * factor

/-- There is a period, and it does not vanish. -/
def Ticks (settings : Settings) : Prop := ∃ period, settings.tickPeriod = .ok period ∧ 0 < period

variable {settings : Settings}

/-- Nothing is both too fast and too slow. -/
theorem TooFast.not_tooSlow (fast : settings.TooFast) : ¬ settings.TooSlow := by
  -- There is only one speed.
  rintro ⟨factor, slow, _⟩
  obtain ⟨other, same, _⟩ := fast
  rw [same] at slow
  cases slow

/-- There is a period unless the replay is too slow, and it vanishes exactly if it is too fast. -/
theorem tickPeriod_spec (paced : settings.Paced) :
    settings.TooSlow ∧ settings.tickPeriod = .error .product
    ∨ ¬ settings.TooSlow ∧ ∃ period, settings.tickPeriod = .ok period
      ∧ (period = 0 ↔ settings.TooFast) := by
  have interval := paced.interval
  have factors := paced.speed
  unfold tickPeriod
  -- In real time the period is the interval, which is positive.
  cases pace : settings.replaySpeed with
  | realTime =>
    refine .inr ⟨by simp [TooSlow, pace], _, rfl, ?_⟩
    simp only [TooFast, pace, reduceCtorEq, false_and, exists_false, iff_false]
    omega
  | fastForward factor =>
    rw [pace] at factors
    refine .inr ⟨by simp [TooSlow, pace], _, rfl, ?_⟩
    -- The quotient is truncated.
    have positive : max factor 1 = factor := Nat.max_eq_left factors.1
    simp [TooFast, pace, positive, Nat.div_eq_zero_iff, Nat.ne_of_gt factors.1]
  | slowMotion factor =>
    rw [pace] at factors
    have positive : max factor 1 = factor := Nat.max_eq_left factors.1
    have seconds : settings.tickSeconds * 1000000000 * max factor 1 / 1000000000
        = settings.tickSeconds * factor := by
      rw [positive, Nat.mul_right_comm, Nat.mul_div_cancel _ (by decide)]
    simp only [Speed.adjust, seconds]
    by_cases fits : settings.tickSeconds * factor ≤ Speed.mostSeconds
    · refine .inr ⟨by simpa [TooSlow, pace] using fits, _, if_pos fits, ?_⟩
      -- A product of positive numbers does not vanish.
      have product : 0 < settings.tickSeconds * 1000000000 * max factor 1 :=
        Nat.mul_pos (Nat.mul_pos interval (by decide)) (by omega)
      simp [TooFast, pace, Nat.ne_of_gt product]
    · exact .inl ⟨⟨factor, pace, Nat.lt_of_not_le fits⟩, if_neg fits⟩

/-- The period overflows exactly if the replay is too slow. -/
theorem tickPeriod_eq_error (paced : settings.Paced) :
    settings.tickPeriod = .error .product ↔ settings.TooSlow := by
  rcases tickPeriod_spec paced with ⟨slow, overflows⟩ | ⟨slow, period, given, _⟩
  · simp [slow, overflows]
  · simp [slow, given]

/-- The period vanishes exactly if the replay is too fast. -/
theorem tickPeriod_eq_zero (paced : settings.Paced) :
    settings.tickPeriod = .ok 0 ↔ settings.TooFast := by
  rcases tickPeriod_spec paced with ⟨slow, overflows⟩ | ⟨slow, period, given, vanishes⟩
  · have calm : ¬ settings.TooFast := fun fast => fast.not_tooSlow slow
    simp [calm, overflows]
  · simp [given, vanishes]

/-- There is a positive period exactly if the replay is neither too fast nor too slow. -/
theorem ticks_iff (paced : settings.Paced) :
    settings.Ticks ↔ ¬ settings.TooFast ∧ ¬ settings.TooSlow := by
  rcases tickPeriod_spec paced with ⟨slow, overflows⟩ | ⟨slow, period, given, vanishes⟩
  · simp [Ticks, slow, overflows]
  · simp [Ticks, slow, given, Nat.pos_iff_ne_zero, vanishes]

/-- An interval of five seconds or more is too long for any speed to make the period vanish. -/
theorem not_tooFast (paced : settings.Paced) (long : 5 ≤ settings.tickSeconds) :
    ¬ settings.TooFast := by
  -- The largest factor is less than the nanoseconds of five seconds.
  rintro ⟨factor, pace, fast⟩
  have factors := paced.speed
  rw [pace] at factors
  have most : factor ≤ 4294967295 := factors.2
  omega

/-- An interval of so few seconds fits the count of seconds, however much it is slowed down. -/
theorem not_tooSlow (paced : settings.Paced) (short : settings.tickSeconds ≤ 4294967297) :
    ¬ settings.TooSlow := by
  rintro ⟨factor, pace, slow⟩
  have factors := paced.speed
  rw [pace] at factors
  -- The most seconds are the product of the longest such interval and the largest factor.
  have product : settings.tickSeconds * factor ≤ 4294967297 * 4294967295 :=
    Nat.mul_le_mul short factors.2
  exact Nat.not_lt.mpr product slow

/-- A replay has the period of its settings. -/
theorem tickPeriod_ofRecords? {records : List Record} {replay : Replay}
    (planned : Replay.ofRecords? settings records = .ok (some replay)) :
    settings.tickPeriod = .ok replay.period := by
  -- A replay is only planned when the period has been found.
  unfold Replay.ofRecords? at planned
  dsimp only at planned
  split at planned
  · obtain ⟨period, given, planned⟩ := bind_eq_ok.mp planned
    obtain ⟨pause, -, planned⟩ := bind_eq_ok.mp planned
    split at planned
    · cases planned
    · cases planned
      exact given
  · cases planned

/-- Without a period for which the ticks could wait, no replay is planned at all. -/
theorem ofRecords?_eq_error {records : List Record} {overflow : Overflow} (present : records ≠ [])
    (overflows : settings.tickPeriod = .error overflow) :
    Replay.ofRecords? settings records = .error overflow := by
  -- There is a first and a last record, so the period is asked for.
  have ordered := Replay.inTimeOrder_ne_nil present
  unfold Replay.ofRecords?
  simp [List.head?_eq_some_head ordered, List.getLast?_eq_some_getLast ordered, overflows]
  rfl

/--
The settings that are read give a positive period unless the replay is too fast or too slow.

The period overflows exactly if the replay is too slow, so that no records are replayed, and vanishes
exactly if it is too fast, so that the ticks of every airport end at once. An interval from 5 to
4294967297 seconds is in order at every speed.
-/
theorem tickPeriod_usable {environment : Environment}
    (accepted : ofEnvironment environment = .ok settings) :
    (settings.Ticks ↔ ¬ settings.TooFast ∧ ¬ settings.TooSlow)
    ∧ (settings.tickPeriod = .error .product ↔ settings.TooSlow)
    ∧ (settings.tickPeriod = .ok 0 ↔ settings.TooFast)
    ∧ (5 ≤ settings.tickSeconds → settings.tickSeconds ≤ 4294967297 → settings.Ticks)
    ∧ (settings.TooSlow → ∀ records, records ≠ [] →
      Replay.ofRecords? settings records = .error .product)
    ∧ ∀ records replay, Replay.ofRecords? settings records = .ok (some replay) →
      (0 < replay.period ↔ ¬ settings.TooFast)
      ∧ ∀ registry, (¬ settings.TooFast → (replay.start registry).ended = [])
        ∧ (settings.TooFast →
          (replay.start registry).ended = registry.airports.map (·, .noPeriod)) := by
  have paced := paced_ofEnvironment accepted
  refine ⟨ticks_iff paced, tickPeriod_eq_error paced, tickPeriod_eq_zero paced, ?_, ?_, ?_⟩
  · intro long short
    exact (ticks_iff paced).mpr ⟨not_tooFast paced long, not_tooSlow paced short⟩
  · intro slow records present
    exact ofRecords?_eq_error present ((tickPeriod_eq_error paced).mpr slow)
  · intro records replay planned
    -- The period of the replay is that of the settings.
    have positive : 0 < replay.period ↔ ¬ settings.TooFast := by
      rw [← tickPeriod_eq_zero paced, tickPeriod_ofRecords? planned, Nat.pos_iff_ne_zero]
      simp
    refine ⟨positive, fun registry => ⟨fun calm => if_neg ?_, fun fast => if_pos ?_⟩⟩
    · exact Nat.ne_of_gt (positive.mpr calm)
    · exact Nat.eq_zero_of_not_pos fun waits => positive.mp waits fast

/-- The shortest interval that is in order at every speed, at the highest speed. -/
def sampleHaste : Environment := fun key =>
  if key = "TICK_INTERVAL_SECONDS" then some "5"
  else if key = "REPLAY_SPEED" then some "x4294967295"
  else none

/-- The shortest such interval is one nanosecond long at the highest speed. -/
theorem tickPeriod_usable_sampleHaste :
    ∃ settings, ofEnvironment sampleHaste = .ok settings ∧ settings.tickPeriod = .ok 1
      ∧ settings.Ticks := by
  have accepted : ofEnvironment sampleHaste = .ok { standard with
      tickSeconds := 5, replaySpeed := .fastForward 4294967295 } := rfl
  exact ⟨_, accepted, rfl, (tickPeriod_usable accepted).2.2.2.1 (by decide) (by decide)⟩

/-- An interval of one second, at a speed that takes less than a nanosecond for it. -/
def sampleRush : Environment := fun key =>
  if key = "TICK_INTERVAL_SECONDS" then some "1"
  else if key = "REPLAY_SPEED" then some "x1000000001"
  else none

/-- The longest interval that a duration holds, with two thousand and one times as long for it. -/
def sampleCrawl : Environment := fun key =>
  if key = "TICK_INTERVAL_SECONDS" then some "9223372036854775"
  else if key = "REPLAY_SPEED" then some "/2001"
  else none

/-- Settings are read with which the period vanishes, and others with which it overflows. -/
theorem tickPeriod_unusable_samples :
    (∃ settings, ofEnvironment sampleRush = .ok settings ∧ settings.tickPeriod = .ok 0)
    ∧ ∃ settings, ofEnvironment sampleCrawl = .ok settings
      ∧ settings.tickPeriod = .error .product := by
  have accepted : ofEnvironment sampleCrawl = .ok { standard with
      tickSeconds := 9223372036854775, replaySpeed := .slowMotion 2001 } := rfl
  -- So many times as long are more seconds than a word of 64 bits holds.
  have slow := (tickPeriod_eq_error (paced_ofEnvironment accepted)).mpr ⟨2001, rfl, by decide⟩
  exact ⟨⟨_, rfl, rfl⟩, _, accepted, slow⟩

end Settings

end ArrivalManager
