import ArrivalManager.Proofs.Schedule.Pass

/-! A pass comes to an end, unless a sum of times that it needs leaves the clock. -/

namespace ArrivalManager

namespace Approach

/-- A spacing behind one of the landings leaves the clock. -/
def Overruns (approach : Approach) (landings : List Landing) (overflow : Overflow) : Prop :=
  ∃ other ∈ landings, ∃ spacing, approach.spacingBehind other = some spacing
    ∧ other.time.plus spacing = .error overflow

variable {approach : Approach} {landings : List Landing} {blockouts : List Blockout}
  {other : Landing} {proposed : Instant} {overflow : Overflow}

/-- Going behind a leader fails when the sum of its time and the spacing does. -/
theorem clearBehind_eq_error (failed : approach.clearBehind other proposed = .error overflow) :
    approach.Overruns [other] overflow := by
  unfold clearBehind at failed
  split at failed
  · rename_i spacing needed
    -- Only for a leader that lies no later than the flight a sum is needed.
    split at failed
    · rcases bind_eq_error.mp failed with sum | ⟨reached, _, failed⟩
      · exact ⟨other, List.mem_cons_self, spacing, needed, sum⟩
      · cases failed
    · cases failed
  · cases failed

/-- What overruns with some landings does so with more of them. -/
theorem Overruns.mono {fewer : List Landing} (overruns : approach.Overruns fewer overflow)
    (known : ∀ landing ∈ fewer, landing ∈ landings) : approach.Overruns landings overflow := by
  obtain ⟨other, member, spacing, needed, sum⟩ := overruns
  exact ⟨other, known other member, spacing, needed, sum⟩

/-- Going behind all leaders fails when going behind one of them does. -/
theorem clearBehindAll_eq_error (failed : approach.clearBehindAll proposed landings = .error overflow) :
    approach.Overruns landings overflow := by
  induction landings with
  | nil => cases failed
  | cons leader rest ih =>
    simp only [clearBehindAll] at failed
    -- Going behind the first leader fails, or going behind one of the others does.
    rcases bind_eq_error.mp failed with first | ⟨_, _, failed⟩
    · exact (clearBehind_eq_error first).mono (by simp)
    · rcases bind_eq_error.mp failed with others | ⟨_, _, failed⟩
      · exact (ih others).mono fun _ => List.mem_cons_of_mem _
      · cases failed

/-- Giving way fails when the sum of the trailer's time and the spacing behind it does. -/
theorem giveWay_eq_error (failed : approach.giveWay landings proposed = .error overflow) :
    approach.Overruns landings overflow := by
  unfold giveWay at failed
  split at failed
  · rename_i trailer found
    -- The trailer is one of the landings, and there is a spacing behind it as well.
    have kept := List.mem_filter.mp (earliestLanding?_mem found)
    obtain ⟨reverse, reversed, _⟩ := spacingBehind_of_infringes kept.2
    rw [reversed, Option.getD_some] at failed
    exact ⟨trailer, kept.1, reverse, reversed, failed⟩
  · cases failed

/-- A round of the search fails when one of its parts does. -/
theorem advance_eq_error (failed : approach.advance landings blockouts proposed = .error overflow) :
    approach.Overruns landings overflow := by
  -- Leaving a window needs no sum, so the failure is that of one of the other parts.
  unfold advance at failed
  rcases bind_eq_error.mp failed with leaders | ⟨_, _, failed⟩
  · exact clearBehindAll_eq_error leaders
  · rcases bind_eq_error.mp failed with trailer | ⟨_, _, failed⟩
    · exact giveWay_eq_error trailer
    · cases failed

/-- The rounds of a search fail when one of them does. -/
theorem settle_eq_error {rounds : Nat}
    (failed : approach.settle landings blockouts rounds proposed = .error overflow) :
    approach.Overruns landings overflow := by
  -- The rounds start from other times, but they all look at the same landings.
  induction rounds generalizing proposed with
  | zero => cases failed
  | succ rounds ih =>
    simp only [settle] at failed
    rcases bind_eq_error.mp failed with moved | ⟨next, _, failed⟩
    · exact advance_eq_error moved
    · split at failed
      · cases failed
      · exact ih failed

end Approach

/-- Scheduling a flight fails when its delay at a fix ahead leaves the clock. -/
theorem Flight.schedule_eq_error {flight : Flight} {time : Instant} {runway : String}
    {overflow : Overflow} (failed : flight.schedule time runway = .error overflow) :
    ∃ fix, flight.fix = some fix ∧ fix.isPassed = false
      ∧ fix.times.estimate.plus (time.since flight.landing.estimate) = .error overflow := by
  unfold schedule commitLandingTime at failed
  simp only [assignRunway] at failed
  revert failed
  -- Without a fix, or behind it, there is no time to delay.
  cases flight.fix with
  | none =>
    intro failed
    cases failed
  | some fix =>
    intro failed
    dsimp only at failed
    split at failed
    · cases failed
    · rename_i ahead
      rcases bind_eq_error.mp failed with delayed | ⟨_, _, failed⟩
      · exact ⟨fix, rfl, by simpa using ahead, delayed⟩
      · cases failed

namespace Scheduler

/-- The ways in which the turn of a flight may need a sum of times that leaves the clock. -/
inductive Overruns (scheduler : Scheduler) (sequence : Sequence) (landings : List Landing)
    (flight : Flight) (overflow : Overflow) : Prop where
  /-- A spacing behind a settled landing, on a runway that is searched. -/
  | spacing {mode : RunwayMode} {runway : String} (searched : Searches sequence mode)
    (usable : flight.MayUse mode runway)
    (overruns : (scheduler.approach sequence.airport.identifier flight mode runway).Overruns landings
      overflow)
  /-- The delay of the landing that resolves the flight, at a fix that is still ahead. -/
  | delay {time : Instant} {runway : String} {fix : FeederFix}
    (resolves : scheduler.Resolves sequence flight landings time runway) (known : flight.fix = some fix)
    (ahead : fix.isPassed = false)
    (overruns : fix.times.estimate.plus (time.since flight.landing.estimate) = .error overflow)

variable {scheduler : Scheduler} {sequence : Sequence} {flight : Flight} {landings : List Landing}
  {flights : List Flight} {overflow : Overflow}

/-- The search for a landing overflows when a spacing behind a settled landing does. -/
theorem resolve_overflowed
    (failed : scheduler.resolve sequence flight landings = .error (.overflowed overflow)) :
    scheduler.Overruns sequence landings flight overflow := by
  obtain ⟨mode, earliest, searched, missed⟩ := resolve_eq_error failed
  -- The search on one of the candidates fails, and not for want of a time.
  rcases bestRunway_eq_error missed with ⟨_, same⟩ | ⟨runway, candidate, missed⟩
  · cases same
  · rcases landingTimeOn_eq_error missed with ⟨_, same⟩ | ⟨_, reached, same⟩
    · cases same
    · cases same
      exact .spacing searched (mem_candidates.mp candidate) (Approach.settle_eq_error reached)

/-- The turn of a flight overflows when a sum of times that it needs does. -/
theorem handle_eq_error (failed : scheduler.handle sequence landings flight = .error overflow) :
    scheduler.Overruns sequence landings flight overflow := by
  -- Both priorities of flights that may be delayed are handled alike.
  have delayed (failed : scheduler.scheduleWithDelay sequence flight landings = .error overflow) :
      scheduler.Overruns sequence landings flight overflow := by
    unfold scheduleWithDelay at failed
    split at failed
    · rename_i searched
      cases failed
      exact resolve_overflowed searched
    · cases failed
    · -- The landing was found, so only its delay at the fix is left.
      rename_i resolved
      rcases bind_eq_error.mp failed with committed | ⟨_, _, failed⟩
      · obtain ⟨fix, known, ahead, sum⟩ := Flight.schedule_eq_error committed
        exact .delay (resolve_resolves resolved) known ahead sum
      · cases failed
  unfold handle at failed
  split at failed
  · rcases bind_eq_error.mp failed with placed | ⟨_, _, failed⟩
    · unfold scheduleWithoutDelay at placed
      split at placed
      · cases placed
      · rcases bind_eq_error.mp placed with committed | ⟨_, _, placed⟩
        · -- A flight that lands at its estimate has no delay, and so its fix stays on the clock.
          obtain ⟨fix, _, _, sum⟩ := Flight.schedule_eq_error committed
          have stays : fix.times.estimate.plus (flight.landing.estimate.since flight.landing.estimate)
              = .ok fix.times.estimate := Instant.plus_eq_ok.mpr (by simp)
          simp [stays] at sum
        · cases placed
    · cases failed
  · -- A landing that a controller chose is left alone, whatever the clock says.
    cases failed
  · exact delayed failed
  · exact delayed failed

/-- The turns of flights overflow at one of them, after those before it came to an end. -/
theorem turnsFrom_eq_error (failed : scheduler.turnsFrom sequence landings flights = .error overflow) :
    ∃ before flight after turns, flights = before ++ flight :: after
      ∧ scheduler.turnsFrom sequence landings before = .ok turns
      ∧ scheduler.handle sequence
        (landings ++ turns.filterMap (·.handled.flight.landingOnRunway)) flight = .error overflow := by
  induction flights generalizing landings with
  | nil => cases failed
  | cons first rest ih =>
    simp only [turnsFrom] at failed
    rcases bind_eq_error.mp failed with here | ⟨handled, taken, failed⟩
    · exact ⟨[], first, rest, [], rfl, rfl, by simpa using here⟩
    · rcases bind_eq_error.mp failed with later | ⟨_, _, failed⟩
      · -- The first turn came to an end, so it is one more of those before.
        obtain ⟨before, flight, after, turns, rfl, done, there⟩ := ih later
        refine ⟨first :: before, flight, after, ⟨first, landings, handled⟩ :: turns, rfl,
          bind_eq_ok.mpr ⟨handled, taken, bind_eq_ok.mpr ⟨turns, done, rfl⟩⟩, ?_⟩
        rw [← there, List.append_assoc]
        cases found : handled.flight.landingOnRunway <;> simp [found]
      · cases failed

/-- A turn of a pass needs a sum of times that leaves the clock, after those before it came to an end. -/
def LeavesClock (scheduler : Scheduler) (sequence : Sequence) (overflow : Overflow) : Prop :=
  ∃ before flight after turns, waiting sequence.flights = before ++ flight :: after
    ∧ scheduler.turnsFrom sequence (anchors sequence.flights) before = .ok turns
    ∧ scheduler.Overruns sequence
      (anchors sequence.flights ++ turns.filterMap (·.handled.flight.landingOnRunway)) flight overflow

/-- A pass comes to an end unless one of its turns leaves the clock. -/
theorem schedule_eq_error (failed : scheduler.schedule sequence = .error overflow) :
    scheduler.LeavesClock sequence overflow := by
  unfold schedule at failed
  rw [handleAll_eq_turnsFrom] at failed
  -- What follows the turns is sorting, which can not fail.
  rcases bind_eq_error.mp failed with turned | ⟨_, _, failed⟩
  · cases taken : scheduler.turnsFrom sequence (anchors sequence.flights) (waiting sequence.flights) with
    | error other =>
      obtain rfl : other = overflow := by simpa [taken, Except.map] using turned
      obtain ⟨before, flight, after, turns, split, done, there⟩ := turnsFrom_eq_error taken
      exact ⟨before, flight, after, turns, split, done, handle_eq_error there⟩
    | ok turns => simp [taken, Except.map] at turned
  · cases failed

end Scheduler

end ArrivalManager
