import ArrivalManager.Proofs.Sequence.Operation
import ArrivalManager.Proofs.Sequence.Rejection
import ArrivalManager.Proofs.Service.Revision

/-! What each command can do to the sequence of its airport before the pass, said once for all uses. -/

namespace ArrivalManager.Service

open Estimation

variable {service : Service} {before : Sequence} {callsign : Callsign} {now : Instant}
  {command : Command} {flight : Flight} {outcome : Outcome Sequence (Option SlotId)}

/-- To move a flight to the position of its estimate changes the order of the tracked flights at most. -/
theorem repositioned_eq (sequence : Sequence) (callsign : Callsign) :
    ∃ arranged, arranged.Perm sequence.flights
      ∧ repositioned sequence callsign = { sequence with flights := arranged } := by
  unfold repositioned
  split
  · rename_i moved
    exact Sequence.reposition_eq_ok moved
  · exact ⟨sequence.flights, .refl _, rfl⟩

/-- To move every flight to the position of its estimate changes the order of the tracked flights. -/
theorem reordered_eq (sequence : Sequence) : ∃ arranged, arranged.Perm sequence.flights
    ∧ reordered sequence = { sequence with flights := arranged } := by
  -- The invariant of the moves is that only the order has changed so far.
  have moves (callsigns : List Callsign) (flights : List Flight)
      (before : flights.Perm sequence.flights) : ∃ arranged, arranged.Perm sequence.flights
      ∧ callsigns.foldl repositioned { sequence with flights } = { sequence with flights := arranged } := by
    induction callsigns generalizing flights with
    | nil => exact ⟨flights, before, rfl⟩
    | cons first rest ih =>
      obtain ⟨arranged, moved, same⟩ := repositioned_eq { sequence with flights } first
      rw [List.foldl_cons, same]
      exact ih arranged (moved.trans before)
  exact moves _ sequence.flights (.refl _)

/-- What a command can do to the sequence of its airport before the pass. -/
inductive Effect (service : Service) (now : Instant) (before : Sequence) (command : Command) :
    Outcome Sequence (Option SlotId) → Prop where
  /-- It is refused, and nothing happens; a landing time was not even looked for. -/
  | refused {refusal : Refusal} (rejects : refusal.isUnsatisfiable = false) :
    Effect service now before command ⟨.error refusal, before⟩
  /-- The tracked flights get new records, in whichever order; slots and modes may change too. -/
  | revised (answer : Option SlotId) {flights arranged : List Flight} {slots : List Slot}
    {mode : RunwayMode} {modeChange : Option ModeChange}
    (records : List.Forall₂ (Flight.Revised command) before.flights flights)
    (moved : arranged.Perm flights)
    (unplanned : command.isRoutine = true → before.modeChange = none →
      mode = before.mode ∧ modeChange = none)
    (configured : ∀ searched, Scheduler.Searches { before with mode, modeChange } searched →
      Scheduler.Searches before searched ∨ searched ∈ before.airport.modes) :
    Effect service now before command
      ⟨.ok answer, { before with flights := arranged, slots, mode, modeChange }⟩
  /-- A desequenced flight gets a new record. -/
  | parked {old new : Flight} (found : findFlight before.desequenced new.callsign = some old)
    (same : old.SameArrival new) (state : new.state = old.state) (keeps : old.Keeps new) :
    Effect service now before command
      ⟨.ok none, { before with desequenced := replaceFlight before.desequenced new }⟩
  /-- A new flight is tracked. -/
  | tracked {flight : Flight} {position : Nat} {after : Sequence} (fresh : flight.state = .new)
    (delegated : flight.Delegated)
    (done : before.addFlight flight = .ok (position, after)) :
    Effect service now before command ⟨.ok none, after⟩
  /-- A new flight is held as pending. -/
  | held {flight : Flight} {after : Sequence} (fresh : flight.state = .new)
    (done : before.upsertPending flight = .ok after) :
    Effect service now before command ⟨.ok none, after⟩
  /-- A flight is inserted, unless that is refused. -/
  | inserted {callsign : Callsign} {typeCode : Option String} {position : InsertPosition}
    {flight : Flight} {outcome : Outcome Sequence Unit}
    (ordered : command = .insertFlight callsign typeCode position)
    (chosen : service.insertedFlight before callsign typeCode position = .ok flight)
    (done : before.insertFlight (flight.activate now) position = .ok outcome) :
    Effect service now before command (outcome.map fun _ => none)
  /-- A tracked flight is taken out for the time being. -/
  | desequenced {callsign : Callsign} {after : Sequence}
    (done : before.desequence callsign = .ok after) : Effect service now before command ⟨.ok none, after⟩
  /-- A desequenced flight is brought back. -/
  | resumed {callsign : Callsign} {position : Nat} {after : Sequence}
    (named : command.decidesOn callsign = true)
    (done : before.resume callsign now = .ok (position, after)) :
    Effect service now before command ⟨.ok none, after⟩
  /-- A flight is removed, unless that is refused. -/
  | removed {callsign : Callsign} (ordered : command = .remove callsign) :
    Effect service now before command ((before.remove callsign).map fun _ => none)

/-- A mode that an airport is configured for is one of its modes. -/
theorem configuredMode_mem {sequence : Sequence} {name : String} {mode : RunwayMode}
    (known : configuredMode sequence name = .ok mode) : mode ∈ sequence.airport.modes := by
  unfold configuredMode at known
  split at known
  · rename_i found
    cases known
    exact List.mem_of_find?_eq_some found
  · cases known

/-- A planned change leads to the mode that it was planned for. -/
theorem plan_mode {mode : RunwayMode} {lastLanding firstLanding : Instant} {change : ModeChange}
    (planned : ModeChange.plan mode lastLanding firstLanding = .ok change) : change.mode = mode := by
  unfold ModeChange.plan at planned
  split at planned
  · cases planned
    rfl
  · cases planned

/-- A change in full or not at all has an effect if it has one when carried out. -/
theorem effect_of_ofExcept {change : Sequence → Except Refusal (Option SlotId × Sequence)}
    (given : Gives (Change.ofExcept change before) outcome) (rejects : Rejects (change before))
    (carried : ∀ answer after, change before = .ok (answer, after) →
      service.Effect now before command ⟨.ok answer, after⟩) :
    service.Effect now before command outcome := by
  obtain rfl := pure_gives.mp given
  cases changed : change before with
  | error refusal => exact .refused (rejects refusal changed)
  | ok result => exact carried result.1 result.2 changed

/-- Slots and modes may change by themselves. -/
theorem Effect.framed (answer : Option SlotId) {slots : List Slot} {mode : RunwayMode}
    {modeChange : Option ModeChange}
    (unplanned : command.isRoutine = true → before.modeChange = none →
      mode = before.mode ∧ modeChange = none)
    (configured : ∀ searched, Scheduler.Searches { before with mode, modeChange } searched →
      Scheduler.Searches before searched ∨ searched ∈ before.airport.modes) :
    service.Effect now before command ⟨.ok answer, { before with slots, mode, modeChange }⟩ :=
  .revised answer (List.forall₂_same.mpr fun flight _ => .refl flight) (.refl _) unplanned configured

/-- The tracked flights get new records, in whichever order, and nothing else changes. -/
theorem Effect.recorded {flights arranged : List Flight}
    (records : List.Forall₂ (Flight.Revised command) before.flights flights)
    (moved : arranged.Perm flights) :
    service.Effect now before command ⟨.ok none, { before with flights := arranged }⟩ :=
  .revised none records moved (fun _ none => ⟨rfl, none⟩) fun _ => .inl

/-- Slots may change by themselves. -/
theorem Effect.slotted (answer : Option SlotId) {slots : List Slot} :
    service.Effect now before command ⟨.ok answer, { before with slots }⟩ :=
  .framed answer (fun _ none => ⟨rfl, none⟩) fun _ => .inl

/-- A change in full or not at all that only concerns slots has the effect of one. -/
theorem effect_of_slots {change : Sequence → Except Refusal (Option SlotId × Sequence)}
    (given : Gives (Change.ofExcept change before) outcome) (rejects : Rejects (change before))
    (slotted : ∀ answer after, change before = .ok (answer, after) →
      ∃ slots, after = { before with slots }) : service.Effect now before command outcome := by
  refine effect_of_ofExcept given rejects fun answer after changed => ?_
  obtain ⟨slots, rfl⟩ := slotted answer after changed
  exact .slotted answer

/-- A change to one tracked flight finds none, or puts a new record in the place of the old one. -/
theorem ofFlight_gives {change : Flight → Except Overflow Flight} {result : Outcome Sequence Unit}
    (given : Gives (Change.ofFlight callsign change before) result) :
    result = ⟨.error (.flightNotFound callsign), before⟩
      ∨ ∃ old new, before.flight? callsign = some old ∧ change old = .ok new
        ∧ result = ⟨.ok (), { before with flights := replaceFlight before.flights new }⟩ := by
  unfold Change.ofFlight at given
  split at given
  · obtain rfl := pure_gives.mp given
    exact .inl rfl
  · rename_i old found
    obtain ⟨new, changed, given⟩ := bind_gives.mp given
    obtain rfl := pure_gives.mp given
    exact .inr ⟨old, new, found, lift_gives.mp changed, rfl⟩

/-- A new record of one tracked flight makes new records of all of them. -/
theorem records_replaced {old new : Flight} (found : before.flight? callsign = some old)
    (revised : old.Revised command new) :
    List.Forall₂ (Flight.Revised command) before.flights (replaceFlight before.flights new) := by
  have named : new.callsign = callsign := revised.same.callsign.trans (findFlight_mem found).2
  exact forall₂_replaceFlight .refl (named ▸ found) revised

/-- A change to one tracked flight has the effect of its new record. -/
theorem effect_of_ofFlight {change : Flight → Except Overflow Flight}
    (given : Gives (Service.change.onFlight callsign change before) outcome)
    (revised : ∀ old new, old.callsign = callsign → change old = .ok new →
      old.Revised command new) : service.Effect now before command outcome := by
  obtain ⟨result, changed, given⟩ := bind_gives.mp given
  obtain rfl := pure_gives.mp given
  rcases ofFlight_gives changed with rfl | ⟨old, new, found, made, rfl⟩
  · exact .refused rfl
  · exact .recorded (records_replaced found (revised old new (findFlight_mem found).2 made)) (.refl _)

/-- A flight that is reported for the first time is new, and tracked or held unless it is refused. -/
theorem trackOrHold_effect {update : FlightUpdate} {result : Outcome Sequence Unit}
    (given : Gives (service.trackOrHold update now before) result) :
    service.Effect now before command (result.map fun _ => none) := by
  unfold trackOrHold at given
  obtain ⟨known, refreshed, given⟩ := bind_gives.mp given
  -- The flight is new, and nothing about it was chosen.
  have reported : (service.reportedFlight update).Delegated := ⟨rfl, rfl, rfl⟩
  obtain ⟨applied, same⟩ := update.applyTo_keeps (service.reportedFlight update)
  obtain ⟨keeps, state⟩ := Estimator.refresh_keeps refreshed
  have fresh : known.state = .new := state.trans same
  obtain ⟨near, _, given⟩ := bind_gives.mp given
  split at given
  · obtain ⟨begun, activated, given⟩ := bind_gives.mp given
    obtain rfl := pure_gives.mp given
    cases added : before.addFlight begun with
    | error refusal => exact .refused (Sequence.addFlight_rejects before begun refusal added)
    | ok tracking =>
      obtain ⟨delegated, unmoved⟩ :=
        activated_delegated activated (keeps.delegated (applied.delegated reported))
      exact .tracked (unmoved.trans fresh) delegated added
  · obtain rfl := pure_gives.mp given
    cases held : before.upsertPending known with
    | error refusal => exact .refused (Sequence.upsertPending_rejects before known refusal held)
    | ok holding => exact .held fresh held

/-- The latest data of a flight make a new record of it, wherever it is known. -/
theorem updateFlight_effect {update : FlightUpdate} {result : Outcome Sequence Unit}
    (given : Gives (service.updateFlight update now before) result) :
    service.Effect now before command (result.map fun _ => none) := by
  unfold updateFlight at given
  dsimp only at given
  split at given
  · -- Data for another airport is refused before anything changes.
    obtain rfl := pure_gives.mp given
    exact .refused rfl
  · split at given
    · -- So is data for a flight that has been retired.
      obtain rfl := pure_gives.mp given
      exact .refused rfl
    · split at given
      · -- A tracked flight is replaced, and then moved unless it is fixed.
        rename_i flight found
        obtain ⟨updated, refreshed, given⟩ := bind_gives.mp given
        obtain rfl := pure_gives.mp given
        have records : List.Forall₂ (Flight.Revised command) before.flights _ :=
          records_replaced found (refreshed_revised refreshed).1
        split
        · exact .recorded records (.refl _)
        · obtain ⟨arranged, moved, same⟩ := repositioned_eq
            { before with flights := replaceFlight before.flights updated } update.callsign
          rw [same]
          exact .recorded records moved
      · split at given
        · -- A desequenced flight is replaced where it is.
          rename_i flight found
          obtain ⟨updated, refreshed, given⟩ := bind_gives.mp given
          obtain rfl := pure_gives.mp given
          obtain ⟨revised, state⟩ : flight.Revised command updated ∧ _ := refreshed_revised refreshed
          have named := revised.same.callsign.trans (findFlight_mem found).2
          exact .parked (named ▸ found) revised.same state (refreshed_keeps refreshed).1
        · -- Any other flight is reported for the first time.
          exact trackOrHold_effect given

/-- To account for the passage of time makes new records of all tracked flights, in whichever order. -/
theorem passTime_steps {after : Sequence} (given : Gives (service.passTime now before) after) :
    ∃ flights arranged,
      List.Forall₂ (service.Progresses before.airport now) before.flights flights
        ∧ arranged.Perm flights ∧ after = { (before.trySwapModes now).2 with flights := arranged } := by
  unfold passTime at given
  obtain ⟨flights, progressed, given⟩ := bind_gives.mp given
  have ends : reordered (Sequence.trySwapModes { before with flights } now).2 = after :=
    pure_gives.mp given
  rw [Sequence.trySwapModes_flights] at ends
  obtain ⟨arranged, moved, same⟩ := reordered_eq { (before.trySwapModes now).2 with flights }
  exact ⟨flights, arranged, progressed_gives progressed, moved, ends.symm.trans same⟩

/-- As time passes, the mode may change as it was planned, but in no other way. -/
theorem passTime_gives {after : Sequence} (given : Gives (service.passTime now before) after) :
    ∃ flights arranged mode modeChange,
      List.Forall₂ (service.Progresses before.airport now) before.flights flights
        ∧ arranged.Perm flights ∧ after = { before with flights := arranged, mode, modeChange }
        ∧ (before.modeChange = none → mode = before.mode ∧ modeChange = none)
        ∧ ∀ searched, Scheduler.Searches { before with mode, modeChange } searched →
          Scheduler.Searches before searched := by
  obtain ⟨flights, arranged, records, moved, rfl⟩ := passTime_steps given
  obtain ⟨mode, modeChange, swapped, unplanned, searched⟩ := before.trySwapModes_eq now
  rw [swapped]
  exact ⟨flights, arranged, mode, modeChange, records, moved, rfl, unplanned, searched⟩

/-- Before its pass, a recomputation does no more than to account for the passage of time. -/
theorem change_recompute {fresh : SlotId}
    (given : Gives (service.change now fresh .recompute before) outcome) :
    ∃ after, Gives (service.passTime now before) after ∧ outcome = ⟨.ok none, after⟩ := by
  obtain ⟨after, passed, given⟩ := bind_gives.mp given
  exact ⟨after, passed, (pure_gives.mp given).symm⟩

/-- Every command has one of these effects. -/
theorem effect_of_change {fresh : SlotId}
    (given : Gives (service.change now fresh command before) outcome) :
    service.Effect now before command outcome := by
  cases command with
  | updateFlight update =>
    obtain ⟨result, updated, given⟩ := bind_gives.mp given
    obtain rfl := pure_gives.mp given
    exact updateFlight_effect updated
  | insertFlight callsign typeCode position =>
    obtain ⟨result, inserted, given⟩ := bind_gives.mp given
    obtain rfl := pure_gives.mp given
    unfold Service.insertFlight at inserted
    split at inserted
    · rename_i refused
      obtain rfl := pure_gives.mp inserted
      exact .refused (insertedFlight_rejects _ _ _ _ _ _ refused)
    · rename_i chosen
      exact .inserted rfl chosen (lift_gives.mp inserted)
  | changeRunway callsign runway =>
    refine effect_of_ofFlight given fun old new named changed => ?_
    -- The command decides on the runway of this flight.
    have decided : (Command.changeRunway callsign runway).decidesOn old.callsign = true := by
      simp [Command.decidesOn, named]
    -- To give the choice back to the scheduler leaves the runway assigned.
    have assigned : old.runway.isSome = true → new.runway.isSome = true := by
      cases runway <;> cases changed <;> simp [Flight.runway, Flight.assignRunway, Flight.releaseRunway]
    have routine : (Command.changeRunway callsign runway).isRoutine = true → old.Keeps new :=
      fun routine => absurd routine Bool.false_ne_true
    cases runway <;> cases changed <;>
      exact ⟨⟨rfl, rfl⟩, routine, rfl, id, assigned, fun spared => by simp [decided] at spared⟩
  | changeLandingTime callsign time =>
    obtain ⟨_, changed, given⟩ := bind_gives.mp given
    obtain rfl := pure_gives.mp given
    obtain ⟨result, pinned, restated⟩ := bind_gives.mp changed
    obtain rfl := pure_gives.mp restated
    rcases ofFlight_gives pinned with rfl | ⟨old, new, found, made, rfl⟩
    · exact .refused rfl
    · -- The command decides on the landing time of this flight, and sorts all of them.
      obtain ⟨fix, rfl⟩ := Flight.pinLandingTime_frame made
      have decided : (Command.changeLandingTime callsign time).decidesOn old.callsign = true := by
        simp [Command.decidesOn, (findFlight_mem found).2]
      have revised : old.Revised (.changeLandingTime callsign time) { old with
          manualLandingTime := true, landing := { old.landing with scheduled := time }, fix } :=
        ⟨⟨rfl, rfl⟩, fun routine => absurd routine Bool.false_ne_true, rfl, id, id,
          fun spared => by simp [decided] at spared⟩
      exact .recorded (records_replaced found revised) (sortFlights_perm _)
  | setHighPriority callsign value =>
    refine effect_of_ofFlight given fun old new named changed => ?_
    cases changed
    -- The priority is no part of what was decided about the landing.
    exact .of_keeps ⟨rfl, rfl, rfl, rfl, fun _ assigned => assigned,
      fun left => ⟨left.1, left.2, left.3⟩⟩ ⟨rfl, rfl⟩ rfl
  | setNoDelay callsign value | releaseLandingTime callsign =>
    refine effect_of_ofFlight given fun old new named changed => ?_
    cases changed
    exact ⟨⟨rfl, rfl⟩, fun routine => absurd routine Bool.false_ne_true, rfl, id, id,
      fun _ => ⟨rfl, fun _ assigned => assigned⟩⟩
  | desequence callsign =>
    refine effect_of_ofExcept given (.bind (Sequence.desequence_rejects _ _) fun _ => .ok _)
      fun answer after changed => ?_
    obtain ⟨parked, done, changed⟩ := bind_eq_ok.mp changed
    cases pure_eq_ok.mp changed
    exact .desequenced done
  | resume callsign =>
    refine effect_of_ofExcept given (.bind (Sequence.resume_rejects _ _ _) fun _ => .ok _)
      fun answer after changed => ?_
    obtain ⟨⟨position, resumed⟩, done, changed⟩ := bind_eq_ok.mp changed
    cases pure_eq_ok.mp changed
    exact .resumed (by simp [Command.decidesOn]) done
  | remove callsign =>
    obtain rfl := pure_gives.mp given
    exact .removed rfl
  | createSlot start finish runways =>
    exact effect_of_slots given (.bind (Sequence.createSlot_rejects _ _ _ _ _) fun _ => .ok _)
      fun _ _ created => Sequence.createSlot_eq_ok (answer_eq_ok created)
  | modifySlot slot start finish =>
    exact effect_of_slots given (.bind (Sequence.modifySlot_rejects _ _ _ _) fun _ => .ok _)
      fun _ _ moved => Sequence.modifySlot_eq_ok (answer_eq_ok moved)
  | deleteSlot slot =>
    refine effect_of_slots given (.bind (Sequence.deleteSlot_rejects _ _) fun _ => .ok _)
      fun answer after deleted => ?_
    obtain ⟨⟨slot, _⟩, found, deleted⟩ := bind_eq_ok.mp deleted
    cases pure_eq_ok.mp deleted
    exact Sequence.deleteSlot_eq_ok found
  | changeMode mode =>
    refine effect_of_ofExcept given (.bind (configuredMode_rejects _ _) fun _ => .ok _)
      fun answer after changed => ?_
    obtain ⟨configured, known, changed⟩ := bind_eq_ok.mp changed
    cases pure_eq_ok.mp changed
    refine .framed _ (fun routine => absurd routine Bool.false_ne_true) ?_
    -- The new mode is the only one, as a planned change is given up.
    rintro _ (rfl | ⟨_, nothing, _⟩)
    · exact .inr (configuredMode_mem known)
    · cases nothing
  | scheduleModeChange mode lastLanding firstLanding =>
    refine effect_of_ofExcept given (.bind (configuredMode_rejects _ _) fun _ =>
      .bind (ModeChange.plan_rejects _ _ _) fun _ => .ok _)
      fun answer after changed => ?_
    obtain ⟨configured, known, changed⟩ := bind_eq_ok.mp changed
    obtain ⟨plan, planned, changed⟩ := bind_eq_ok.mp changed
    cases pure_eq_ok.mp changed
    refine .framed _ (fun routine => absurd routine Bool.false_ne_true) ?_
    rintro _ (rfl | ⟨_, ⟨rfl⟩, rfl⟩)
    · exact .inl (.inl rfl)
    · rw [plan_mode planned]
      exact .inr (configuredMode_mem known)
  | recompute =>
    obtain ⟨after, passed, rfl⟩ := change_recompute given
    obtain ⟨flights, arranged, mode, modeChange, records, moved, rfl, unplanned, searched⟩ :=
      passTime_gives passed
    exact .revised none (records.imp fun _ _ progresses => progresses.revised) moved
      (fun _ => unplanned) fun mode known => .inl (searched mode known)

end ArrivalManager.Service
