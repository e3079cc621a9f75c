import ArrivalManager.Proofs.RunwayRanking
import ArrivalManager.Proofs.Schedule.Conflict
import ArrivalManager.Schedule

/-! A resolved landing is the first one that is allowed on any runway, in the mode of its time. -/

namespace ArrivalManager

/-- Whether a flight was refused because no landing time was found for it. -/
def Refusal.isUnsatisfiable : Refusal → Bool
  | .unsatisfiableSchedule _ _ _ => true
  | _ => false

/-- Whether a flight is free to land on a runway in a mode: a pinned flight only on its own one. -/
def Flight.MayUse (flight : Flight) (mode : RunwayMode) (runway : String) : Prop :=
  match flight.assignment with
  | some ⟨pinned, true⟩ => runway = pinned
  | _ => mode.contains runway = true

/-- A mode uses exactly the runways that it lists. -/
theorem RunwayMode.contains_iff {mode : RunwayMode} {identifier : String} :
    mode.contains identifier = true ↔ ∃ runway ∈ mode.runways, runway.identifier = identifier := by
  simp [RunwayMode.contains, RunwayMode.runway, List.find?_isSome]

/-- The candidates in a mode are the runways that the flight is free to land on. -/
theorem Scheduler.mem_candidates {flight : Flight} {mode : RunwayMode} {runway : String} :
    runway ∈ candidates flight mode ↔ flight.MayUse mode runway := by
  unfold candidates Flight.MayUse
  -- A pin leaves one runway; without it, all of the mode are ranked.
  rcases flight.assignment with _ | ⟨pinned, _ | _⟩
  · simp [RunwayMode.contains_iff]
  · simp [RunwayMode.contains_iff]
  · simp

/-- A flight that is not pinned may use the runways of the mode. -/
theorem Flight.mayUse_iff_of_unpinned {flight : Flight} {mode : RunwayMode} {runway : String}
    (unpinned : flight.runwayPinned = false) :
    flight.MayUse mode runway ↔ mode.contains runway = true := by
  unfold Flight.MayUse
  split
  · rename_i assigned
    simp [Flight.runwayPinned, assigned] at unpinned
  · exact Iff.rfl

/-- A flight that is pinned may use the runway that it has, in any mode. -/
theorem Flight.mayUse_iff_of_pinned {flight : Flight} {mode : RunwayMode} {runway : String}
    (pinned : flight.runwayPinned = true) :
    flight.MayUse mode runway ↔ flight.runway = some runway := by
  obtain ⟨⟨name, chosen⟩, assigned, rfl⟩ := (Option.any_eq_true _ _).mp pinned
  simp [Flight.MayUse, Flight.runway, assigned, eq_comm]

/-- Without a planned change, the current mode accepts landings at all times. -/
theorem Sequence.modeAt_unplanned {sequence : Sequence} (unplanned : sequence.modeChange = none)
    (time : Instant) : sequence.modeAt time = sequence.mode := by
  simp [modeAt, unplanned]

/-- The mode that accepts landings before the next one begins is the current one. -/
theorem Sequence.modeAt_before {sequence : Sequence} {change : ModeChange} {time : Instant}
    (planned : sequence.modeChange = some change) (before : time < change.firstLanding) :
    sequence.modeAt time = sequence.mode := by
  simp [modeAt, planned, not_le.mpr before]

/-- From its first landing time on, the next mode accepts landings. -/
theorem Sequence.modeAt_from {sequence : Sequence} {change : ModeChange} {time : Instant}
    (planned : sequence.modeChange = some change) (after : change.firstLanding ≤ time) :
    sequence.modeAt time = change.mode := by
  simp [modeAt, planned, after]

/-- A changeover that is not instantaneous closes every runway while it lasts. -/
theorem Sequence.changeover_mem_blockoutsFor {sequence : Sequence} {change : ModeChange}
    (planned : sequence.modeChange = some change)
    (lasts : change.lastLanding < change.firstLanding) (runway : String) :
    ⟨change.lastLanding, change.firstLanding, lasts⟩ ∈ sequence.blockoutsFor runway := by
  simp [blockoutsFor, planned, ModeChange.changeover, Blockout.between, lasts, Except.toOption]

namespace Scheduler

variable {scheduler : Scheduler} {sequence : Sequence} {flight : Flight} {landings : List Landing}
  {mode : RunwayMode} {earliest time : Instant} {runway : String}

/-- A landing on a runway at a time infringes nothing, with the spacings of a mode. -/
def Allows (scheduler : Scheduler) (sequence : Sequence) (flight : Flight) (landings : List Landing)
    (mode : RunwayMode) (runway : String) (time : Instant) : Prop :=
  (scheduler.approach sequence.airport.identifier flight mode runway).Permits landings
    (sequence.blockoutsFor runway) time

/-- A landing time is found on one runway when the search comes to an end with one. -/
theorem landingTimeOn_eq_ok :
    scheduler.landingTimeOn sequence flight mode earliest landings runway = .ok time
      ↔ (scheduler.approach sequence.airport.identifier flight mode runway).landingTime landings
        (sequence.blockoutsFor runway) earliest = .ok (some time) := by
  unfold landingTimeOn
  constructor
  · intro found
    obtain ⟨result, searched, found⟩ := bind_eq_ok.mp found
    -- A search without a time is refused, and so is no landing time.
    split at found
    · cases pure_eq_ok.mp found
      exact liftOverflow_eq_ok.mp searched
    · cases found
  · intro searched
    exact bind_eq_ok.mpr ⟨some time, liftOverflow_eq_ok.mpr searched, rfl⟩

/-- The landing time on one runway is the first allowed one. -/
theorem landingTimeOn_isLeast
    (found : scheduler.landingTimeOn sequence flight mode earliest landings runway = .ok time) :
    IsLeast {time | earliest ≤ time ∧ scheduler.Allows sequence flight landings mode runway time}
      time :=
  Approach.landingTime_isLeast (landingTimeOn_eq_ok.mp found)

/-- The scan over runways keeps the first of those with the earliest landing time. -/
theorem earliestOn_split {runways : List String} {best : Option (Instant × String)}
    (found : scheduler.earliestOn sequence flight mode earliest landings runways best
      = .ok (some (time, runway))) :
    (∀ candidate ∈ runways, ∃ other, scheduler.landingTimeOn sequence flight mode earliest landings
        candidate = .ok other ∧ time ≤ other) ∧
      (best = some (time, runway) ∨
        (∀ former ∈ best, time < former.1) ∧ ∃ before after, runways = before ++ runway :: after
          ∧ scheduler.landingTimeOn sequence flight mode earliest landings runway = .ok time
          ∧ ∀ candidate ∈ before, ∃ other, scheduler.landingTimeOn sequence flight mode earliest
            landings candidate = .ok other ∧ time < other) := by
  induction runways generalizing best with
  | nil =>
    simp only [earliestOn, Except.ok.injEq] at found
    -- With no runway left, the best one so far is the answer.
    exact ⟨by simp, .inl found⟩
  | cons first rest ih =>
    simp only [earliestOn] at found
    obtain ⟨reached, landed, found⟩ := bind_eq_ok.mp found
    obtain ⟨bound, chosen⟩ := ih found
    by_cases better : (best.all fun former => reached < former.1) = true
    · -- The first runway replaces the best one so far, so the answer is no later than its time.
      have improved : ∀ former ∈ best, reached < former.1 := by
        simpa [Option.all_eq_true] using better
      rw [if_pos better] at chosen
      -- The scan of the rest stays with the first runway, or finds a still earlier landing.
      rcases chosen with same | ⟨before, front, back, shape, landsOn, others⟩
      · cases same
        refine ⟨?_, .inr ⟨improved, [], rest, rfl, landed, by simp⟩⟩
        simpa using ⟨⟨time, landed, le_refl _⟩, bound⟩
      · have earlier : time < reached := before (reached, first) rfl
        refine ⟨?_, .inr ⟨fun former kept => earlier.trans (improved former kept), first :: front, back,
          by rw [shape, List.cons_append], landsOn, ?_⟩⟩
        · simpa using ⟨⟨reached, landed, earlier.le⟩, bound⟩
        · simpa using ⟨⟨reached, landed, earlier⟩, others⟩
    · -- The best one so far stays, and it is no later than the first runway.
      obtain ⟨former, kept, late⟩ : ∃ former, best = some former ∧ former.1 ≤ reached := by
        cases best with
        | none => simp at better
        | some former => exact ⟨former, rfl, by simpa using better⟩
      rw [if_neg better] at chosen
      -- Again the rest only replaces it by a still earlier landing.
      rcases chosen with same | ⟨before, front, back, shape, landsOn, others⟩
      · obtain rfl : former = (time, runway) := Option.some.inj (kept.symm.trans same)
        refine ⟨?_, .inl same⟩
        simpa using ⟨⟨reached, landed, late⟩, bound⟩
      · have earlier : time < reached := (before former kept).trans_le late
        refine ⟨?_, .inr ⟨before, first :: front, back, by rw [shape, List.cons_append], landsOn, ?_⟩⟩
        · simpa using ⟨⟨reached, landed, earlier.le⟩, bound⟩
        · simpa using ⟨⟨reached, landed, earlier⟩, others⟩

/-- A landing that is the best choice in a mode, from a time on. -/
structure Chooses (scheduler : Scheduler) (sequence : Sequence) (flight : Flight)
    (landings : List Landing) (mode : RunwayMode) (earliest : Instant) (time : Instant)
    (runway : String) : Prop where
  mayUse : flight.MayUse mode runway
  notEarly : earliest ≤ time
  allowed : scheduler.Allows sequence flight landings mode runway time
  least : ∀ other, flight.MayUse mode other → ∀ sooner, earliest ≤ sooner → sooner < time →
    ¬ scheduler.Allows sequence flight landings mode other sooner
  preferred : flight.runwayPinned = false → ∃ chosen, chosen.identifier = runway ∧
    Preferred mode.runways flight.aircraft flight.fixIdentifier
      (fun other => scheduler.Allows sequence flight landings mode other.identifier time) chosen

/-- The candidates of a flight that is not pinned are the ranked runways of the mode. -/
theorem candidates_of_unpinned (unpinned : flight.runwayPinned = false) :
    candidates flight mode
      = (rankRunways mode.runways flight.aircraft flight.fixIdentifier).map (·.identifier) := by
  unfold candidates
  split
  · -- A pinned runway contradicts what is assumed.
    rename_i assigned
    simp [Flight.runwayPinned, assigned] at unpinned
  · rfl

/-- The best runway of a mode gives the best choice of a landing in it. -/
theorem bestRunway_chooses
    (found : scheduler.bestRunway sequence flight mode earliest landings = .ok (time, runway)) :
    scheduler.Chooses sequence flight landings mode earliest time runway := by
  unfold bestRunway at found
  obtain ⟨best, scanned, found⟩ := bind_eq_ok.mp found
  cases best with
  | none => cases found
  | some best =>
    obtain rfl := pure_eq_ok.mp found
    obtain ⟨bound, chosen⟩ := earliestOn_split scanned
    -- The scan starts without any best runway, so the answer is one of the candidates.
    obtain ⟨_, before, after, shape, landsOn, others⟩ := chosen.resolve_left (by simp)
    have least := landingTimeOn_isLeast landsOn
    refine ⟨mem_candidates.mp (by rw [shape]; simp), least.1.1, least.1.2, ?_, ?_⟩
    · intro other usable sooner notEarly earlier allowed
      -- An allowed time on another runway is not before the landing time found there.
      obtain ⟨reached, landed, late⟩ := bound other (mem_candidates.mpr usable)
      have first := (landingTimeOn_isLeast landed).2 ⟨notEarly, allowed⟩
      exact absurd (late.trans first) (not_le.mpr earlier)
    · -- The runway that was chosen splits the ranking into what is before it and what is after it.
      intro unpinned
      rw [candidates_of_unpinned unpinned] at shape
      obtain ⟨front, rest, ranked, rfl, tail⟩ := List.map_eq_append_iff.mp shape
      obtain ⟨chosen, back, rfl, named, _⟩ := List.map_eq_cons_iff.mp tail
      refine ⟨chosen, named, preferred_of_rankRunways ranked fun other member allowed => ?_⟩
      -- What is ranked higher lands later, so it does not allow this time.
      obtain ⟨reached, landed, later⟩ := others other.identifier (List.mem_map_of_mem member)
      exact absurd ((landingTimeOn_isLeast landed).2 ⟨least.1.1, allowed⟩) (not_le.mpr later)

/-- A landing that is the best choice for a flight in a sequence, each time in the mode of that time. -/
structure Resolves (scheduler : Scheduler) (sequence : Sequence) (flight : Flight)
    (landings : List Landing) (time : Instant) (runway : String) : Prop where
  mayUse : flight.MayUse (sequence.modeAt time) runway
  notEarly : flight.landing.estimate ≤ time
  allowed : scheduler.Allows sequence flight landings (sequence.modeAt time) runway time
  least : ∀ sooner, flight.landing.estimate ≤ sooner → sooner < time →
    ∀ other, flight.MayUse (sequence.modeAt sooner) other →
      ¬ scheduler.Allows sequence flight landings (sequence.modeAt sooner) other sooner
  preferred : flight.runwayPinned = false → ∃ chosen, chosen.identifier = runway ∧
    Preferred (sequence.modeAt time).runways flight.aircraft flight.fixIdentifier
      (fun other => scheduler.Allows sequence flight landings (sequence.modeAt time)
        other.identifier time) chosen
  boundary : ∀ change, sequence.modeChange = some change →
    time < change.lastLanding ∨ change.firstLanding ≤ time

/-- The best choice in a mode resolves the flight if that mode lasts from the estimate on. -/
theorem Chooses.resolves
    (chooses : scheduler.Chooses sequence flight landings mode flight.landing.estimate time runway)
    (lasting : ∀ moment, flight.landing.estimate ≤ moment → moment ≤ time →
      sequence.modeAt moment = mode)
    (boundary : ∀ change, sequence.modeChange = some change →
      time < change.lastLanding ∨ change.firstLanding ≤ time) :
    scheduler.Resolves sequence flight landings time runway := by
  -- At the landing time itself the mode is the one that was searched.
  have now := lasting time chooses.notEarly (le_refl time)
  refine ⟨?_, chooses.notEarly, ?_, ?_, ?_, boundary⟩
  · rw [now]
    exact chooses.mayUse
  · rw [now]
    exact chooses.allowed
  · -- Every earlier time falls into that mode as well.
    intro sooner notEarly earlier other
    rw [lasting sooner notEarly earlier.le]
    exact fun usable => chooses.least other usable sooner notEarly earlier
  · rw [now]
    exact chooses.preferred

/-- On one runway a search fails when it has used up its attempts, or when it overflows. -/
theorem landingTimeOn_eq_error {fault : Fault}
    (failed : scheduler.landingTimeOn sequence flight mode earliest landings runway = .error fault) :
    ((scheduler.approach sequence.airport.identifier flight mode runway).landingTime landings
          (sequence.blockoutsFor runway) earliest = .ok none
        ∧ fault = .refused
          (.unsatisfiableSchedule flight.callsign (.one runway) Approach.maxAttempts)) ∨
      ∃ overflow, (scheduler.approach sequence.airport.identifier flight mode runway).landingTime
          landings (sequence.blockoutsFor runway) earliest = .error overflow
        ∧ fault = .overflowed overflow := by
  unfold landingTimeOn at failed
  rcases bind_eq_error.mp failed with lifted | ⟨result, searched, failed⟩
  · exact .inr (liftOverflow_eq_error.mp lifted)
  · -- A search that comes to an end only fails without a time.
    split at failed
    · cases failed
    · cases failed
      exact .inl ⟨liftOverflow_eq_ok.mp searched, rfl⟩

/-- A scan over runways fails when the search on one of them does. -/
theorem earliestOn_eq_error {runways : List String} {best : Option (Instant × String)} {fault : Fault}
    (failed : scheduler.earliestOn sequence flight mode earliest landings runways best
      = .error fault) :
    ∃ runway ∈ runways,
      scheduler.landingTimeOn sequence flight mode earliest landings runway = .error fault := by
  induction runways generalizing best with
  | nil => cases failed
  | cons first rest ih =>
    simp only [earliestOn] at failed
    rcases bind_eq_error.mp failed with missed | ⟨reached, _, failed⟩
    · exact ⟨first, List.mem_cons_self, missed⟩
    · obtain ⟨runway, member, missed⟩ := ih failed
      exact ⟨runway, List.mem_cons_of_mem _ member, missed⟩

/-- A scan over runways finds nothing only if it has none to scan. -/
theorem earliestOn_eq_none {runways : List String} {best : Option (Instant × String)}
    (missed : scheduler.earliestOn sequence flight mode earliest landings runways best = .ok none) :
    runways = [] ∧ best = none := by
  induction runways generalizing best with
  | nil => exact ⟨rfl, Except.ok.inj missed⟩
  | cons first rest ih =>
    simp only [earliestOn] at missed
    obtain ⟨reached, _, missed⟩ := bind_eq_ok.mp missed
    -- After the first runway there is a best one, whether it is new or was there before.
    have kept := (ih missed).2
    cases best with
    | none => simp at kept
    | some former => split at kept <;> cases kept

/-- The choice of a runway fails without any candidate, or when the search on one of them does. -/
theorem bestRunway_eq_error {fault : Fault}
    (failed : scheduler.bestRunway sequence flight mode earliest landings = .error fault) :
    (candidates flight mode = [] ∧ fault = .refused
        (.unsatisfiableSchedule flight.callsign (.anyOf mode.identifier) 0)) ∨
      ∃ runway ∈ candidates flight mode,
        scheduler.landingTimeOn sequence flight mode earliest landings runway = .error fault := by
  unfold bestRunway at failed
  rcases bind_eq_error.mp failed with missed | ⟨best, scanned, failed⟩
  · exact .inr (earliestOn_eq_error missed)
  · split at failed
    · cases failed
    · cases failed
      exact .inl ⟨(earliestOn_eq_none scanned).1, rfl⟩

/-- The modes in which a landing may be looked for: the current one, and the next one if it is planned. -/
def Searches (sequence : Sequence) (mode : RunwayMode) : Prop :=
  mode = sequence.mode ∨ ∃ change ∈ sequence.modeChange, mode = change.mode

/-- The mode that accepts landings at a time is one of those that are searched. -/
theorem searches_modeAt (sequence : Sequence) (time : Instant) :
    Searches sequence (sequence.modeAt time) := by
  unfold Sequence.modeAt
  split
  · rename_i change planned
    split
    · exact .inr ⟨change, planned, rfl⟩
    · exact .inl rfl
  · exact .inl rfl

/-- No landing is found for a flight when the choice of a runway fails in one of the modes. -/
theorem resolve_eq_error {fault : Fault}
    (failed : scheduler.resolve sequence flight landings = .error fault) :
    ∃ mode earliest, Searches sequence mode
      ∧ scheduler.bestRunway sequence flight mode earliest landings = .error fault := by
  unfold resolve at failed
  simp only at failed
  -- Whichever mode is searched, the failure is that of the search in it.
  split at failed
  · exact ⟨_, _, .inl rfl, failed⟩
  · rename_i change planned
    have next : Searches sequence change.mode := .inr ⟨change, planned, rfl⟩
    split at failed
    · exact ⟨_, _, next, failed⟩
    · rcases bind_eq_error.mp failed with missed | ⟨found, _, failed⟩
      · exact ⟨_, _, .inl rfl, missed⟩
      · split at failed
        · exact ⟨_, _, next, failed⟩
        · cases failed

/-- A flight is only refused for want of a landing time. -/
theorem resolve_refused {refusal : Refusal}
    (refused : scheduler.resolve sequence flight landings = .error (.refused refusal)) :
    refusal.isUnsatisfiable = true := by
  obtain ⟨mode, earliest, _, missed⟩ := resolve_eq_error refused
  -- No candidate was there, or the search for one of them gave up.
  rcases bestRunway_eq_error missed with ⟨_, same⟩ | ⟨runway, _, missed⟩
  · cases same
    rfl
  · rcases landingTimeOn_eq_error missed with ⟨_, same⟩ | ⟨_, _, same⟩
    · cases same
      rfl
    · cases same

/-- Between the two times of a planned change nothing is allowed to land. -/
theorem not_allows_in_changeover {change : ModeChange} (planned : sequence.modeChange = some change)
    (after : change.lastLanding ≤ time) (before : time < change.firstLanding) :
    ¬ scheduler.Allows sequence flight landings mode runway time := by
  intro allowed
  have closed := allowed.unblocked _
    (Sequence.changeover_mem_blockoutsFor planned (after.trans_lt before) runway)
  simp [Blockout.contains, after, before] at closed

/-- A flight that is resolved gets the best choice of a landing. -/
theorem resolve_resolves
    (found : scheduler.resolve sequence flight landings = .ok (time, runway)) :
    scheduler.Resolves sequence flight landings time runway := by
  unfold resolve at found
  simp only at found
  split at found
  · -- Without a planned change the current mode lasts.
    rename_i unplanned
    exact (bestRunway_chooses found).resolves (fun _ _ _ => Sequence.modeAt_unplanned unplanned _)
      (by simp [unplanned])
  · rename_i change planned
    have boundary {moment : Instant} (beyond : change.firstLanding ≤ moment) :
        ∀ other, sequence.modeChange = some other →
          moment < other.lastLanding ∨ other.firstLanding ≤ moment := by
      intro other same
      obtain rfl : change = other := Option.some.inj (planned.symm.trans same)
      exact .inr beyond
    split at found
    · -- The next mode is in effect at the estimate already.
      rename_i changed
      have chooses := bestRunway_chooses found
      exact chooses.resolves
        (fun _ notEarly _ => Sequence.modeAt_from planned (changed.trans notEarly))
        (boundary (changed.trans chooses.notEarly))
    · rename_i unchanged
      obtain ⟨current, searched, found⟩ := bind_eq_ok.mp found
      have first := bestRunway_chooses searched
      split at found
      · -- The current mode gives no landing before it ends, and the changeover allows none.
        rename_i tooLate
        have start : max flight.landing.estimate change.firstLanding = change.firstLanding :=
          max_eq_right (not_le.mp unchanged).le
        rw [start] at found
        have second := bestRunway_chooses found
        have now := Sequence.modeAt_from planned second.notEarly
        refine ⟨?_, (not_le.mp unchanged).le.trans second.notEarly, ?_, ?_, ?_,
          boundary second.notEarly⟩
        · rw [now]
          exact second.mayUse
        · rw [now]
          exact second.allowed
        · -- An earlier time lies before the end of the current mode, in the changeover, or after it.
          intro sooner notEarly earlier other
          rcases lt_or_ge sooner change.firstLanding with before | beyond
          · rw [Sequence.modeAt_before planned before]
            intro usable
            rcases lt_or_ge sooner current.1 with short | reached
            · exact first.least other usable sooner notEarly short
            · exact not_allows_in_changeover planned (tooLate.trans reached) before
          · rw [Sequence.modeAt_from planned beyond]
            exact fun usable => second.least other usable sooner beyond earlier
        · rw [now]
          exact second.preferred
      · -- The landing falls before the end of the current mode.
        rename_i inTime
        obtain rfl := pure_eq_ok.mp found
        have early : time < change.lastLanding := not_le.mp inTime
        refine first.resolves (fun moment _ upTo => Sequence.modeAt_before planned
          (upTo.trans_lt (early.trans_le change.last_le_first))) ?_
        intro other same
        obtain rfl : change = other := Option.some.inj (planned.symm.trans same)
        exact .inl early

end Scheduler

end ArrivalManager
