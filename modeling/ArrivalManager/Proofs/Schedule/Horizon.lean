import ArrivalManager.Proofs.Schedule.Overrun
import ArrivalManager.Proofs.Schedule.Spacing

/-! How late a pass lets its flights land at most, and why this keeps it on the clock. -/

namespace ArrivalManager

/-- So many spans of one length, one after the other. -/
def Duration.times (span : Duration) (count : Nat) : Duration := ⟨count * span.nanos⟩

/-- Spans that do not lead back do not do so together. -/
theorem Duration.zero_le_times {span : Duration} (forward : .zero ≤ span) (count : Nat) :
    .zero ≤ span.times count := Int.mul_nonneg (Int.natCast_nonneg count) forward

namespace Instant

variable {start far : Instant} {span : Duration} {count more : Nat}

/-- A sum is an instant as long as the clock reaches it. -/
theorem exists_plus (first : firstNanos ≤ start.nanos + span.nanos)
    (last : start.nanos + span.nanos ≤ lastNanos) : ∃ reached, start.plus span = .ok reached :=
  ⟨⟨_, first, last⟩, plus_eq_ok.mpr rfl⟩

/-- A span that is not negative does not lead back. -/
theorem le_of_plus (forward : Duration.zero ≤ span) (sum : start.plus span = .ok far) :
    start ≤ far := by
  have exact := plus_eq_ok.mp sum
  simp only [Duration.le_iff_nanos, Duration.zero, le_iff_nanos] at *
  omega

/-- On the way over many spans, an instant lies after the first few of them. -/
theorem exists_between (forward : Duration.zero ≤ span)
    (sum : start.plus (span.times (count + more)) = .ok far) :
    ∃ middle, start.plus (span.times count) = .ok middle ∧ middle.plus (span.times more) = .ok far := by
  have exact := plus_eq_ok.mp sum
  have before := Duration.zero_le_times forward count
  have after := Duration.zero_le_times forward more
  -- The instant lies between two that are on the clock.
  have first := start.first_le
  have last := far.le_last
  simp only [Duration.le_iff_nanos, Duration.zero, Duration.times, Int.natCast_add,
    Int.add_mul] at exact before after ⊢
  obtain ⟨middle, reached⟩ : ∃ middle, start.plus ⟨count * span.nanos⟩ = .ok middle := by
    refine exists_plus ?_ ?_ <;> dsimp only <;> omega
  have there := plus_eq_ok.mp reached
  refine ⟨middle, reached, plus_eq_ok.mpr ?_⟩
  dsimp only at there ⊢
  omega

/-- One span is that span. -/
@[simp] theorem plus_times_one : start.plus (span.times 1) = start.plus span := by
  simp [Duration.times]

end Instant

/-- Flights may come to land on a runway: it is assigned to one, or a mode that is searched uses it. -/
def Sequence.UsesRunway (sequence : Sequence) (runway : String) : Prop :=
  (∃ flight ∈ sequence.flights, flight.runway = some runway)
    ∨ ∃ mode, Scheduler.Searches sequence mode ∧ mode.contains runway = true

/-- A flight before or after its turn, as it was tracked but for its runway and its landing time. -/
structure Sequence.LandsBy (sequence : Sequence) (horizon : Instant) (flight : Flight) : Prop where
  aircraft : ∃ tracked ∈ sequence.flights, flight.aircraft = tracked.aircraft
  runway : ∀ runway, flight.runway = some runway → sequence.UsesRunway runway
  notEarly : ∃ tracked ∈ sequence.flights, tracked.landing.estimate ≤ flight.landing.scheduled
    ∨ tracked.landing.scheduled ≤ flight.landing.scheduled
  notLate : flight.landing.scheduled ≤ horizon

/-- The landings that are settled are those of flights that land by a time. -/
def Sequence.SettledBy (sequence : Sequence) (horizon : Instant) (landings : List Landing) : Prop :=
  ∀ landing ∈ landings, ∃ flight, sequence.LandsBy horizon flight
    ∧ flight.landingOnRunway = some landing

namespace Scheduler

/-- A spacing that may apply between flights of a sequence, or between arrivals from one fix. -/
inductive Applies (scheduler : Scheduler) (sequence : Sequence) (spacing : Duration) : Prop where
  /-- Two landings need it in one of the modes. -/
  | separation {mode : RunwayMode} {leader trailer : Flight} {leaderRunway trailerRunway : String}
    (searched : Searches sequence mode) (leads : leader ∈ sequence.flights)
    (trails : trailer ∈ sequence.flights) (leadsOn : sequence.UsesRunway leaderRunway)
    (trailsOn : sequence.UsesRunway trailerRunway)
    (needed : requiredSeparation scheduler.rule mode leader.aircraft leaderRunway trailer.aircraft
      trailerRunway = some spacing)
  /-- It is the interval between arrivals from the fix of a flight. -/
  | interval {flight : Flight} {fix runway : String} (tracked : flight ∈ sequence.flights)
    (entry : flight.fixIdentifier = some fix) (used : sequence.UsesRunway runway)
    (known : scheduler.arrivals.arrivalInterval sequence.airport.identifier fix runway flight.aircraft
      = some spacing)

/-- A time that nothing in a sequence is later than, and a span that no spacing is longer than. -/
structure Limits (scheduler : Scheduler) (sequence : Sequence) (bound : Instant) (limit : Duration) :
    Prop where
  estimates : ∀ flight ∈ sequence.flights, flight.landing.estimate ≤ bound
  scheduled : ∀ flight ∈ sequence.flights, flight.landing.scheduled ≤ bound
  slots : ∀ slot ∈ sequence.slots, slot.period.finish ≤ bound
  change : ∀ change ∈ sequence.modeChange, change.firstLanding ≤ bound
  forward : .zero ≤ limit
  spacings : ∀ spacing, scheduler.Applies sequence spacing → spacing ≤ limit

/-- No spacing leads back from a time of a flight past the first instant of the clock. -/
def StaysPastFirst (scheduler : Scheduler) (sequence : Sequence) : Prop :=
  ∀ flight ∈ sequence.flights, ∀ spacing, scheduler.Applies sequence spacing →
    firstNanos ≤ flight.landing.estimate.nanos + spacing.nanos
      ∧ firstNanos ≤ flight.landing.scheduled.nanos + spacing.nanos

variable {scheduler : Scheduler} {sequence : Sequence} {bound height next : Instant} {limit : Duration}
  {flight : Flight} {landings : List Landing} {mode : RunwayMode} {runway : String}

/-- Spacings that are not negative do not lead back at all. -/
theorem staysPastFirst_of_forward
    (forward : ∀ spacing, scheduler.Applies sequence spacing → .zero ≤ spacing) :
    scheduler.StaysPastFirst sequence := by
  intro flight _ spacing applies
  have onward := forward spacing applies
  have early := flight.landing.estimate.first_le
  have set := flight.landing.scheduled.first_le
  simp only [Duration.le_iff_nanos, Duration.zero] at onward
  omega

/-- A runway that a flight is free to land on is one that flights may come to land on. -/
theorem usesRunway_of_mayUse (tracked : flight ∈ sequence.flights) (searched : Searches sequence mode)
    (usable : flight.MayUse mode runway) : sequence.UsesRunway runway := by
  cases pinned : flight.runwayPinned with
  | true => exact .inl ⟨flight, tracked, (Flight.mayUse_iff_of_pinned pinned).mp usable⟩
  | false => exact .inr ⟨mode, searched, (Flight.mayUse_iff_of_unpinned pinned).mp usable⟩

/-- A flight that lands at its estimate does so on a runway that flights may come to land on. -/
theorem usesRunway_of_atEstimate (tracked : flight ∈ sequence.flights)
    (found : runwayAtEstimate sequence flight = some runway) : sequence.UsesRunway runway := by
  unfold runwayAtEstimate at found
  rcases Option.or_eq_some_iff.mp found with assigned | ⟨_, preferred⟩
  · exact .inl ⟨flight, tracked, assigned⟩
  · obtain ⟨chosen, first, rfl⟩ := Option.map_eq_some_iff.mp preferred
    -- The ranking lists the runways of the mode, and the first one is taken.
    have listed := mem_rankRunways.mp (List.mem_of_head? first)
    exact .inr ⟨_, searches_modeAt sequence _, RunwayMode.contains_iff.mpr ⟨chosen, listed, rfl⟩⟩

end Scheduler

namespace Sequence

variable {sequence : Sequence} {height next : Instant} {flight : Flight} {landings others : List Landing}

/-- What lands by a time lands by any later one. -/
theorem LandsBy.mono (lands : sequence.LandsBy height flight) (later : height ≤ next) :
    sequence.LandsBy next flight := { lands with notLate := lands.notLate.trans later }

/-- A landing that is settled is that of a flight, with its aircraft, its runway and its time. -/
theorem SettledBy.of_mem {other : Landing} (settled : sequence.SettledBy height landings)
    (member : other ∈ landings) :
    ∃ former, sequence.LandsBy height former ∧ other.aircraft = former.aircraft
      ∧ former.runway = some other.runway ∧ other.time = former.landing.scheduled := by
  obtain ⟨former, lands, same⟩ := settled other member
  unfold Flight.landingOnRunway at same
  obtain ⟨runway, assigned, rfl⟩ := Option.map_eq_some_iff.mp same
  exact ⟨former, lands, rfl, assigned, rfl⟩

/-- A landing that is settled by a time is no later. -/
theorem SettledBy.time_le {other : Landing} (settled : sequence.SettledBy height landings)
    (member : other ∈ landings) : other.time ≤ height := by
  obtain ⟨former, lands, _, _, time⟩ := settled.of_mem member
  exact time ▸ lands.notLate

/-- Landings that are settled by a time are settled by any later one. -/
theorem SettledBy.mono (settled : sequence.SettledBy height landings) (later : height ≤ next) :
    sequence.SettledBy next landings := by
  intro landing member
  obtain ⟨flight, lands, same⟩ := settled landing member
  exact ⟨flight, lands.mono later, same⟩

/-- Landings of two lists are settled together if those of each list are. -/
theorem SettledBy.append (settled : sequence.SettledBy height landings)
    (more : sequence.SettledBy height others) : sequence.SettledBy height (landings ++ others) := by
  intro landing member
  exact (List.mem_append.mp member).elim (settled landing) (more landing)

/-- The landings of turns are settled by the time by which their flights land. -/
theorem settledBy_turns {turns : List Turn}
    (lands : ∀ turn ∈ turns, sequence.LandsBy height turn.handled.flight) :
    sequence.SettledBy height (turns.filterMap (·.handled.flight.landingOnRunway)) := by
  intro landing member
  obtain ⟨turn, taken, same⟩ := List.mem_filterMap.mp member
  exact ⟨turn.handled.flight, lands turn taken, same⟩

end Sequence

namespace Scheduler

variable {scheduler : Scheduler} {sequence : Sequence} {bound height next : Instant} {limit : Duration}
  {flight : Flight} {landings : List Landing} {mode : RunwayMode} {runway : String}
  {other : Landing} {spacing : Duration}

/-- Between a flight and a settled landing, in either order, a spacing applies, perhaps a raised one. -/
theorem exists_applies (tracked : flight ∈ sequence.flights) (searched : Searches sequence mode)
    (usable : flight.MayUse mode runway) (settled : sequence.SettledBy height landings)
    (member : other ∈ landings)
    (needed : (scheduler.approach sequence.airport.identifier flight mode runway).spacingBehind other
        = some spacing
      ∨ (scheduler.approach sequence.airport.identifier flight mode runway).spacingAhead other
        = some spacing) :
    ∃ separation, scheduler.Applies sequence separation ∧ spacing
      = (scheduler.approach sequence.airport.identifier flight mode runway).raised other separation := by
  obtain ⟨former, lands, aircraft, assigned, _⟩ := settled.of_mem member
  obtain ⟨neighbour, listed, same⟩ := lands.aircraft
  have used := usesRunway_of_mayUse tracked searched usable
  have usedToo := lands.runway _ assigned
  -- The flight is the trailer in one order, and the leader in the other one.
  rcases needed with behind | ahead
  · obtain ⟨separation, required, rfl⟩ := Option.map_eq_some_iff.mp behind
    rw [aircraft, same] at required
    exact ⟨separation, .separation searched listed tracked usedToo used required, rfl⟩
  · obtain ⟨separation, required, rfl⟩ := Option.map_eq_some_iff.mp ahead
    rw [aircraft, same] at required
    exact ⟨separation, .separation searched tracked listed used usedToo required, rfl⟩

namespace Limits

variable (limits : scheduler.Limits sequence bound limit)
include limits

/-- A flight lands by the bound before its turn. -/
theorem landsBy (tracked : flight ∈ sequence.flights) : sequence.LandsBy bound flight where
  aircraft := ⟨flight, tracked, rfl⟩
  runway _ assigned := .inl ⟨flight, tracked, assigned⟩
  notEarly := ⟨flight, tracked, .inr le_rfl⟩
  notLate := limits.scheduled flight tracked

/-- The landings that a pass leaves alone are settled by the bound. -/
theorem settledBy_anchors : sequence.SettledBy bound (anchors sequence.flights) := by
  intro landing member
  obtain ⟨flight, kept, lands⟩ := List.mem_filterMap.mp member
  exact ⟨flight, limits.landsBy (List.mem_filter.mp kept).1, lands⟩

/-- Every window ends by the bound. -/
theorem finish_le {blockout : Blockout} (member : blockout ∈ sequence.blockoutsFor runway) :
    blockout.finish ≤ bound := by
  rcases List.mem_append.mp member with slotted | changing
  · obtain ⟨slot, kept, rfl⟩ := List.mem_map.mp slotted
    exact limits.slots slot (List.mem_filter.mp kept).1
  · obtain ⟨change, planned, closes⟩ := Option.bind_eq_some_iff.mp (Option.mem_toList.mp changing)
    -- A changeover ends with the first landing of the next mode.
    have ends : blockout.finish = change.firstLanding := by
      unfold ModeChange.changeover Blockout.between at closes
      split at closes
      · cases closes
        rfl
      · cases closes
    exact ends ▸ limits.change change planned

/-- A spacing that is raised to the interval of a flight is still no longer than the limit. -/
theorem raised_le (tracked : flight ∈ sequence.flights) (used : sequence.UsesRunway runway)
    (within : spacing ≤ limit) :
    (scheduler.approach sequence.airport.identifier flight mode runway).raised other spacing
      ≤ limit := by
  unfold Approach.raised
  split
  · rename_i interval known
    obtain ⟨fix, entry, known⟩ := Option.bind_eq_some_iff.mp known
    have short := limits.spacings interval (.interval tracked entry used known)
    split
    · exact max_le within short
    · exact within
  · exact within

/-- A spacing between a flight and a settled landing, in either order, is within the limit. -/
theorem spacing_le (tracked : flight ∈ sequence.flights) (searched : Searches sequence mode)
    (usable : flight.MayUse mode runway) (settled : sequence.SettledBy height landings)
    (member : other ∈ landings)
    (needed : (scheduler.approach sequence.airport.identifier flight mode runway).spacingBehind other
        = some spacing
      ∨ (scheduler.approach sequence.airport.identifier flight mode runway).spacingAhead other
        = some spacing) : spacing ≤ limit := by
  obtain ⟨separation, applies, rfl⟩ :=
    exists_applies tracked searched usable settled member needed
  exact limits.raised_le tracked (usesRunway_of_mayUse tracked searched usable)
    (limits.spacings separation applies)

/-- One spacing behind a settled landing is on the clock, if no spacing leads back past its start. -/
theorem exists_behind (stays : scheduler.StaysPastFirst sequence) (room : height.plus limit = .ok next)
    (settled : sequence.SettledBy height landings) (tracked : flight ∈ sequence.flights)
    (searched : Searches sequence mode) (usable : flight.MayUse mode runway) (member : other ∈ landings)
    (needed : (scheduler.approach sequence.airport.identifier flight mode runway).spacingBehind other
      = some spacing) : ∃ reached, other.time.plus spacing = .ok reached := by
  have short := limits.spacing_le tracked searched usable settled member (.inl needed)
  obtain ⟨separation, applies, rfl⟩ :=
    exists_applies tracked searched usable settled member (.inl needed)
  have longer := (scheduler.approach sequence.airport.identifier flight mode runway).le_raised other
    separation
  -- The landing is no earlier than a time of a flight, from which no spacing leads back too far.
  obtain ⟨former, lands, _, _, time⟩ := settled.of_mem member
  obtain ⟨origin, listed, known⟩ := lands.notEarly
  rw [← time] at known
  have first := stays origin listed separation applies
  have early := settled.time_le member
  have far := Instant.plus_eq_ok.mp room
  have last := next.le_last
  simp only [Duration.le_iff_nanos, Instant.le_iff_nanos] at *
  refine Instant.exists_plus ?_ ?_ <;> omega

section Headway

variable (above : bound ≤ height) (room : height.plus limit = .ok next)
  (settled : sequence.SettledBy height landings) (tracked : flight ∈ sequence.flights)
include above room settled tracked

/-- One limit after everything that is settled, a landing is allowed on every runway. -/
theorem allows (searched : Searches sequence mode) (usable : flight.MayUse mode runway) :
    scheduler.Allows sequence flight landings mode runway next := by
  have onward := Instant.le_of_plus limits.forward room
  have far := Instant.plus_eq_ok.mp room
  refine ⟨⟨fun other member => ⟨fun _ spacing needed => ?_, fun trails spacing needed => ?_⟩, ?_⟩, ?_⟩
  · have short := limits.spacing_le tracked searched usable settled member (.inl needed)
    have early := settled.time_le member
    simp only [Duration.le_iff_nanos, Instant.le_iff_nanos, Instant.since_nanos] at *
    omega
  · -- A landing that is no earlier leaves room for a limit that is empty.
    have short := limits.spacing_le tracked searched usable settled member (.inr needed)
    have early := settled.time_le member
    simp only [Duration.le_iff_nanos, Instant.le_iff_nanos, Instant.since_nanos] at *
    omega
  · intro blockout member
    have past := ((limits.finish_le member).trans above).trans onward
    simp [Blockout.contains, not_lt.mpr past]
  · intro other member _ _
    exact (settled.time_le member).trans onward

/-- A flight is resolved no later than one limit after everything that is settled. -/
theorem resolves_notLate {time : Instant}
    (resolves : scheduler.Resolves sequence flight landings time runway) : time ≤ next := by
  by_contra later
  have onward := above.trans (Instant.le_of_plus limits.forward room)
  -- A planned change is behind by then, so the mode is the one of the landing that was found.
  have lasting : sequence.modeAt next = sequence.modeAt time := by
    cases planned : sequence.modeChange with
    | none =>
      rw [Sequence.modeAt_unplanned planned, Sequence.modeAt_unplanned planned]
    | some change =>
      have past := (limits.change change planned).trans onward
      rw [Sequence.modeAt_from planned past,
        Sequence.modeAt_from planned (past.trans (not_le.mp later).le)]
  have usable := resolves.mayUse
  rw [← lasting] at usable
  -- No round of the search is looked at: it ends at the first allowed time, and this one is allowed.
  refine resolves.least next ((limits.estimates flight tracked).trans onward) (not_le.mp later) runway
    usable ?_
  exact limits.allows above room settled tracked (searches_modeAt sequence next) usable

/-- The delay of a resolved flight at a fix is on the clock, if the fix comes before the landing. -/
theorem exists_delayed {time : Instant} {fix : FeederFix}
    (resolves : scheduler.Resolves sequence flight landings time runway)
    (entry : fix.times.estimate ≤ flight.landing.estimate) :
    ∃ reached, fix.times.estimate.plus (time.since flight.landing.estimate) = .ok reached := by
  have late := limits.resolves_notLate above room settled tracked resolves
  have delayed := resolves.notEarly
  have first := fix.times.estimate.first_le
  have last := next.le_last
  -- The fix is delayed from its estimate on, and stays before the landing.
  simp only [Instant.le_iff_nanos] at *
  refine Instant.exists_plus ?_ ?_ <;> rw [Instant.since_nanos] <;> omega

/-- No sum of times that the turn of a flight needs leaves the clock. -/
theorem not_overruns {overflow : Overflow} (stays : scheduler.StaysPastFirst sequence)
    (entries : ∀ fix ∈ flight.fix, fix.times.estimate ≤ flight.landing.estimate) :
    ¬ scheduler.Overruns sequence landings flight overflow := by
  rintro (⟨searched, usable, other, member, spacing, needed, failed⟩ | ⟨resolves, known, _, failed⟩)
  · obtain ⟨reached, sum⟩ :=
      limits.exists_behind stays room settled tracked searched usable member needed
    rw [sum] at failed
    cases failed
  · obtain ⟨reached, sum⟩ :=
      limits.exists_delayed above room settled tracked resolves (entries _ known)
    rw [sum] at failed
    cases failed

/-- After its turn a flight lands no later than one limit after everything that was settled before. -/
theorem handling_landsBy {handled : Handled}
    (handling : scheduler.Handling sequence landings flight handled) :
    sequence.LandsBy next handled.flight := by
  have onward := above.trans (Instant.le_of_plus limits.forward room)
  cases handling with
  | withoutRunway _ _ | manual _ _ | refused _ _ => exact (limits.landsBy tracked).mono onward
  | atEstimate _ found committed =>
    rw [(Flight.schedule_eq_ok committed).1]
    refine ⟨⟨flight, tracked, rfl⟩, fun runway assigned => ?_, ⟨flight, tracked, .inl le_rfl⟩,
      (limits.estimates flight tracked).trans onward⟩
    obtain rfl := Option.some.inj assigned
    exact usesRunway_of_atEstimate tracked found
  | resolved _ resolved committed =>
    have resolves := resolve_resolves resolved
    rw [(Flight.schedule_eq_ok committed).1]
    refine ⟨⟨flight, tracked, rfl⟩, fun runway assigned => ?_, ⟨flight, tracked, .inl resolves.notEarly⟩,
      limits.resolves_notLate above room settled tracked resolves⟩
    obtain rfl := Option.some.inj assigned
    exact usesRunway_of_mayUse tracked (searches_modeAt sequence _) resolves.mayUse

end Headway

/-- After the turns of some flights, each of them lands within as many limits of what was settled. -/
theorem turnsFrom_landsBy {flights : List Flight} {turns : List Turn} {horizon : Instant}
    (above : bound ≤ height) (room : height.plus (limit.times flights.length) = .ok horizon)
    (settled : sequence.SettledBy height landings)
    (tracked : ∀ flight ∈ flights, flight ∈ sequence.flights)
    (taken : scheduler.turnsFrom sequence landings flights = .ok turns) :
    ∀ turn ∈ turns, sequence.LandsBy horizon turn.handled.flight := by
  induction flights generalizing height landings turns with
  | nil =>
    cases taken
    simp
  | cons flight rest ih =>
    simp only [turnsFrom] at taken
    obtain ⟨handled, first, taken⟩ := bind_eq_ok.mp taken
    obtain ⟨others, tail, taken⟩ := bind_eq_ok.mp taken
    cases pure_eq_ok.mp taken
    rw [List.length_cons, Nat.add_comm] at room
    obtain ⟨next, one, more⟩ := Instant.exists_between limits.forward room
    rw [Instant.plus_times_one] at one
    have onward := Instant.le_of_plus limits.forward one
    have lands := limits.handling_landsBy above one settled (tracked flight List.mem_cons_self)
      (handling_of_handle first)
    -- The first landing is settled for the other turns, which follow within the limits that are left.
    have later := ih (above.trans onward) more ((settled.mono onward).append
      fun landing member => ⟨_, lands, Option.mem_toList.mp member⟩)
      (fun other listed => tracked other (List.mem_cons_of_mem _ listed)) tail
    intro turn member
    rcases List.mem_cons.mp member with rfl | member
    · exact lands.mono (Instant.le_of_plus (Duration.zero_le_times limits.forward _) more)
    · exact later turn member

/-- When a pass has taken some turns, their flights land by a time with room for those that still wait. -/
theorem exists_reached {horizon : Instant} {early late : List Flight} {turns : List Turn}
    (room : bound.plus (limit.times sequence.flights.length) = .ok horizon)
    (split : waiting sequence.flights = early ++ late)
    (taken : scheduler.turnsFrom sequence (anchors sequence.flights) early = .ok turns) :
    ∃ height more, bound ≤ height ∧ height.plus (limit.times (late.length + more)) = .ok horizon
      ∧ ∀ turn ∈ turns, sequence.LandsBy height turn.handled.flight := by
  obtain ⟨more, counted⟩ : ∃ more, sequence.flights.length = early.length + (late.length + more) := by
    -- The flights that wait are some of all.
    have fewer := waiting_length_le sequence.flights
    rw [split, List.length_append] at fewer
    exact ⟨sequence.flights.length - (early.length + late.length), by omega⟩
  rw [counted] at room
  obtain ⟨height, reached, rest⟩ := Instant.exists_between limits.forward room
  have tracked : ∀ flight ∈ early, flight ∈ sequence.flights := by
    intro flight listed
    exact (mem_waiting.mp (split ▸ List.mem_append_left late listed)).1
  exact ⟨height, more, Instant.le_of_plus (Duration.zero_le_times limits.forward _) reached, rest,
    limits.turnsFrom_landsBy le_rfl reached limits.settledBy_anchors tracked taken⟩

/-- A pass never overflows if there is room for as many limits behind the bound as there are flights. -/
theorem exists_outcome {horizon : Instant} (stays : scheduler.StaysPastFirst sequence)
    (entries : ∀ flight ∈ sequence.flights, ∀ fix ∈ flight.fix,
      fix.times.estimate ≤ flight.landing.estimate)
    (room : bound.plus (limit.times sequence.flights.length) = .ok horizon) :
    ∃ outcome, scheduler.schedule sequence = .ok outcome := by
  cases passed : scheduler.schedule sequence with
  | ok outcome => exact ⟨outcome, rfl⟩
  | error overflow =>
    -- The turns before the one that overflows are over, and there is room for one more.
    obtain ⟨before, flight, after, turns, split, taken, overruns⟩ := schedule_eq_error passed
    obtain ⟨height, more, above, rest, lands⟩ := limits.exists_reached room split taken
    rw [List.length_cons, Nat.add_comm after.length, Nat.add_assoc] at rest
    obtain ⟨next, one, _⟩ := Instant.exists_between limits.forward rest
    rw [Instant.plus_times_one] at one
    have settled := (limits.settledBy_anchors.mono above).append (Sequence.settledBy_turns lands)
    have tracked : flight ∈ sequence.flights :=
      (mem_waiting.mp (split ▸ List.mem_append_right before List.mem_cons_self)).1
    exact absurd overruns
      (limits.not_overruns above one settled tracked stays (entries flight tracked))

end Limits

/--
A pass does not overflow, and commits no landing later than one limit for each flight after the bound.

The flights are expected at their fixes no later than at the runway, and no spacing leads back past the
first instant of the clock.
-/
theorem schedule_bounded {horizon : Instant} (limits : scheduler.Limits sequence bound limit)
    (room : bound.plus (limit.times sequence.flights.length) = .ok horizon)
    (entries : ∀ flight ∈ sequence.flights, ∀ fix ∈ flight.fix,
      fix.times.estimate ≤ flight.landing.estimate)
    (stays : scheduler.StaysPastFirst sequence) :
    ∃ outcome, scheduler.schedule sequence = .ok outcome ∧ ∀ flight ∈ outcome.after.flights,
      flight.landing.scheduled ≤ horizon ∧ flight.remainingDelay.InRange := by
  obtain ⟨outcome, passed⟩ := limits.exists_outcome stays entries room
  refine ⟨outcome, passed, fun flight member => ⟨?_, Instant.since_inRange _ _⟩⟩
  obtain ⟨turns, taken, pass⟩ := exists_turns passed
  obtain ⟨height, more, above, rest, lands⟩ :=
    limits.exists_reached room (List.append_nil (waiting sequence.flights)).symm taken
  have further := Instant.le_of_plus (Duration.zero_le_times limits.forward _) rest
  rcases pass.mem_after.mp member with ⟨tracked, _⟩ | ⟨turn, listed, rfl⟩
  · -- What the pass leaves alone lands by the bound.
    exact (limits.scheduled flight tracked).trans (above.trans further)
  · obtain ⟨_, state, same⟩ := pass.result_frame listed
    rw [same]
    exact (lands turn listed).notLate.trans further

/-- A flight that keeps its landing to the south, and one that lands to the north, with some spacing. -/
def sampleDivided (separation : Duration) : Sequence :=
  { Sequence.samplePair with
    mode := { singleMode with offModeSeparation := separation }
    flights := [{ Flight.sampleAnchor with assignment := some ⟨"16R", true⟩ }, Flight.sampleArrival] }

/-- The flights of the sample come to land on two runways only. -/
theorem usesRunway_sampleDivided {separation : Duration}
    (used : (sampleDivided separation).UsesRunway runway) : runway = "16R" ∨ runway = "34L" := by
  rcases used with ⟨flight, tracked, assigned⟩ | ⟨mode, searched | ⟨change, planned, _⟩, contained⟩
  · simp only [sampleDivided, List.mem_cons, List.not_mem_nil, or_false] at tracked
    rcases tracked with rfl | rfl
    · exact .inl (Option.some.inj assigned).symm
    · cases assigned
  · subst searched
    obtain ⟨listed, member, rfl⟩ := RunwayMode.contains_iff.mp contained
    simp only [sampleDivided, singleMode, List.mem_cons, List.not_mem_nil, or_false] at member
    subst member
    exact .inr rfl
  · cases planned

/-- Between the flights of the sample, its spacing applies, and the landing rate of the runway in use. -/
theorem applies_sampleDivided {separation spacing : Duration}
    (applies : sample.Applies (sampleDivided separation) spacing) :
    spacing = separation ∨ spacing = .ofMinutes 3 := by
  cases applies with
  | @separation mode leader trailer leaderRunway trailerRunway searched leads trails leadsOn trailsOn
      needed =>
    obtain rfl : mode = (sampleDivided separation).mode := by
      rcases searched with same | ⟨change, planned, _⟩
      · exact same
      · cases planned
    rcases usesRunway_sampleDivided leadsOn with rfl | rfl
    · exact .inl (Option.some.inj (needed.symm.trans (requiredSeparation_off_mode (.inl rfl))))
    · rcases usesRunway_sampleDivided trailsOn with rfl | rfl
      · exact .inl (Option.some.inj (needed.symm.trans (requiredSeparation_off_mode (.inr rfl))))
      · -- On the runway in use, the landing rate is longer than what any two of the aircraft need.
        simp only [sampleDivided, List.mem_cons, List.not_mem_nil, or_false] at leads trails
        rcases leads with rfl | rfl <;> rcases trails with rfl | rfl <;>
          exact .inr (Option.some.inj needed).symm
  | interval tracked entry _ _ =>
    simp only [sampleDivided, List.mem_cons, List.not_mem_nil, or_false] at tracked
    rcases tracked with rfl | rfl <;> cases entry

/-- The sample is limited by its estimates and the landing rate, if its spacing is no longer. -/
theorem limits_sampleDivided {separation : Duration} (short : separation ≤ .ofMinutes 3) :
    sample.Limits (sampleDivided separation) .epoch (.ofMinutes 3) where
  estimates := by simp [sampleDivided]; decide
  scheduled := by simp [sampleDivided]; decide
  slots := by simp [sampleDivided, Sequence.samplePair]
  change := by simp [sampleDivided, Sequence.samplePair]
  forward := by decide
  spacings spacing applies := by
    rcases applies_sampleDivided applies with rfl | rfl
    · exact short
    · exact le_rfl

/-- Neither flight of the sample has a fix. -/
theorem fix_sampleDivided (separation : Duration) :
    ∀ flight ∈ (sampleDivided separation).flights, flight.fix = none := by
  simp [sampleDivided, Flight.sampleAnchor, Flight.sampleArrival, Flight.inbound]

/-- With ten seconds to a landing to the south, both flights land within two landing intervals. -/
theorem schedule_bounded_sampleDivided :
    ∃ outcome, sample.schedule (sampleDivided (.ofSeconds 10)) = .ok outcome
      ∧ ∀ flight ∈ outcome.after.flights, flight.landing.scheduled ≤ .sampleSeconds 360
        ∧ flight.remainingDelay.InRange := by
  refine schedule_bounded (limits_sampleDivided (by decide)) (by decide) ?_ ?_
  · intro flight tracked fix known
    rw [fix_sampleDivided _ flight tracked] at known
    cases known
  · refine staysPastFirst_of_forward fun spacing applies => ?_
    rcases applies_sampleDivided applies with rfl | rfl <;> decide

/-- A negative spacing that is longer than all the time that the clock covers. -/
def sampleBackward : Duration := .ofSeconds (-9223372036854775)

/-- With such a spacing to a landing to the south a pass overflows, though no limit is exceeded. -/
theorem schedule_overflows_sampleDivided :
    sampleBackward.InRange ∧ sample.Limits (sampleDivided sampleBackward) .epoch (.ofMinutes 3)
      ∧ Instant.epoch.plus ((Duration.ofMinutes 3).times (sampleDivided sampleBackward).flights.length)
        = .ok (.sampleSeconds 360)
      ∧ (∀ flight ∈ (sampleDivided sampleBackward).flights, flight.fix = none)
      ∧ sample.schedule (sampleDivided sampleBackward) = .error .sum := by
  refine ⟨by decide, limits_sampleDivided (by decide), by decide, fix_sampleDivided _, ?_⟩
  -- Only one of the flights waits for the pass, and its turn is the one that overflows.
  have waits : waiting (sampleDivided sampleBackward).flights = [.sampleArrival] :=
    waiting_of_pairwise (by decide)
  have turned : (sample.handleAll (sampleDivided sampleBackward)
      (anchors (sampleDivided sampleBackward).flights) [.sampleArrival]).map (·.length)
        = .error .sum := by
    decide +kernel
  refine bind_eq_error.mpr (.inl ?_)
  rw [waits]
  exact map_eq_error turned

end Scheduler

end ArrivalManager
