import ArrivalManager.Proofs.Schedule.Candidates
import ArrivalManager.Proofs.Service.Commitment
import ArrivalManager.Proofs.Service.Succession

/-! Which flights have a runway, so that others are scheduled around them once they are stable. -/

namespace ArrivalManager

variable {service : Service} {registry : Registry} {airport : String} {callsign : Callsign}
  {call : Call} {reply : Reply} {now : Instant} {command : Command} {flight : Flight}
  {before changed after sequence : Sequence} {outcome : Outcome Sequence (Option SlotId)}

/-- Whether a callsign is tracked or desequenced at an airport. -/
def Registry.knows (registry : Registry) (airport : String) (callsign : Callsign) : Bool :=
  (registry.sequence? airport).any (·.isTracked callsign)

namespace Sequence

/-- A sequence that lands flights in the modes of its airport, and in which a known callsign has a runway. -/
structure Assigns (sequence : Sequence) (callsign : Callsign) : Prop where
  assigned : ∀ flight ∈ sequence.known, flight.callsign = callsign → flight.runway.isSome = true
  configured : ∀ mode, Scheduler.Searches sequence mode → mode ∈ sequence.airport.modes

/-- An airport without flights leaves none without a runway. -/
theorem assigns_of_airport {airport : Airport} (founded : ofAirport airport = .ok sequence)
    (callsign : Callsign) : sequence.Assigns callsign := by
  unfold ofAirport at founded
  split at founded
  · cases founded
  · rename_i mode first
    cases founded
    refine ⟨fun flight member => absurd member List.not_mem_nil, ?_⟩
    -- No change is planned, so that only the first mode is in question.
    rintro _ (rfl | ⟨_, nothing, _⟩)
    · show _ ∈ airport.modes
      rw [first]
      exact List.mem_cons_self
    · cases nothing

/-- Where a flight comes from that is known after a change, and how it stands with its runway. -/
inductive Comes (before : Sequence) (flight : Flight) : Prop where
  /-- It was known before, and lost no runway. -/
  | kept {old : Flight} (known : old ∈ before.known) (same : old.callsign = flight.callsign)
    (assigned : old.runway.isSome = true → flight.runway.isSome = true)
  /-- It was not, and is left to the scheduler. -/
  | reported (unknown : before.isTracked flight.callsign = false) (fresh : flight.state = .new)
    (delegated : flight.Delegated)
  /-- It was not, and a controller inserted it, on a runway if the mode has one. -/
  | inserted (assigned : before.mode.runways ≠ [] → flight.runway.isSome = true)

/-- A flight that is left alone keeps its runway. -/
theorem Comes.refl (known : flight ∈ before.known) : before.Comes flight := .kept known rfl id

/-- A flight that is tracked comes on its own account, and the others are left alone. -/
theorem comes_of_track {added : Flight} {arranged : List Flight}
    (moved : arranged.Perm (before.flights ++ [added])) (comes : before.Comes added)
    (member : flight ∈ arranged ++ before.desequenced) : before.Comes flight := by
  rcases List.mem_append.mp member with tracked | parked
  · rcases List.mem_append.mp (moved.mem_iff.mp tracked) with tracked | fresh
    · exact .refl (List.mem_append_left _ tracked)
    · rw [List.mem_singleton.mp fresh]
      exact comes
  · exact .refl (List.mem_append_right _ parked)

/-- Before the pass, no known flight loses its runway, whatever the command is. -/
theorem effect_comes (effect : service.Effect now before command outcome)
    (member : flight ∈ outcome.after.known) : before.Comes flight := by
  cases effect with
  | refused _ => exact .refl member
  | revised answer records moved _ _ =>
    -- Each record is that of a flight, and where it stands in the list does not matter.
    rcases List.mem_append.mp member with tracked | parked
    · obtain ⟨record, listed, revised⟩ := exists_of_forall₂ records (moved.mem_iff.mp tracked)
      exact .kept (List.mem_append_left _ listed) revised.same.callsign.symm revised.assigned
    · exact .refl (List.mem_append_right _ parked)
  | parked found same _ keeps =>
    rcases List.mem_append.mp member with tracked | parked
    · exact .refl (List.mem_append_left _ tracked)
    · rcases mem_replaceFlight parked with rfl | parked
      · exact .kept (List.mem_append_right _ (findFlight_mem found).1) same.callsign.symm keeps.assigned
      · exact .refl (List.mem_append_right _ parked)
  | tracked fresh delegated done =>
    obtain ⟨checked, arranged, moved, rfl⟩ := addFlight_eq_ok done
    have unknown := isTracked_eq_false.mpr (checkNew_eq_ok.mp checked).2.1
    exact comes_of_track moved (.reported unknown fresh delegated) member
  | held _ done =>
    -- A flight that is held is pending, and no flight is known on that account.
    obtain ⟨_, ⟨_, _, rfl⟩ | ⟨_, rfl⟩⟩ := upsertPending_eq_ok done
    · exact .refl member
    · exact .refl member
  | inserted _ _ done =>
    obtain ⟨_, rfl, ⟨_, _, rfl⟩ | ⟨_, admitted, rfl⟩⟩ := insertFlight_cases done
    · exact .refl member
    · obtain ⟨_, pinned, arranged, inserts, moved, rfl⟩ := insertAdmitted_eq_ok admitted
      exact comes_of_track moved (.inserted inserts.assigned) member
  | desequenced done =>
    -- The flight goes from one list to the other, and both of them are known.
    obtain ⟨parked, found, rfl⟩ := desequence_eq_ok done
    rcases List.mem_append.mp member with tracked | member
    · exact .refl (List.mem_append_left _ (List.eraseP_sublist.subset tracked))
    · rcases List.mem_append.mp member with others | last
      · exact .refl (List.mem_append_right _ others)
      · rw [List.mem_singleton.mp last]
        exact .kept (List.mem_append_left _ (findFlight_mem found).1) rfl id
  | resumed _ done =>
    obtain ⟨parked, arranged, found, moved, rfl⟩ := resume_eq_ok done
    rcases List.mem_append.mp member with tracked | others
    · rcases List.mem_append.mp (moved.mem_iff.mp tracked) with tracked | last
      · exact .refl (List.mem_append_left _ tracked)
      · -- To begin a new period concerns times, but not the runway.
        obtain ⟨landing, fix, shape, _⟩ := Flight.activate_frame { parked with state := .unstable } now
        rw [List.mem_singleton.mp last, shape]
        exact .kept (List.mem_append_right _ (findFlight_mem found).1) rfl id
    · exact .refl (List.mem_append_right _ (List.eraseP_sublist.subset others))
  | removed _ =>
    rename_i name _
    have drops := remove_drops before name
    exact .refl (drops.known.subset member)

/-- Before the pass, the modes stay those of the airport, whatever the command is. -/
theorem effect_configured (effect : service.Effect now before command outcome) {mode : RunwayMode}
    (configured : ∀ mode, Scheduler.Searches before mode → mode ∈ before.airport.modes)
    (searched : Scheduler.Searches outcome.after mode) : mode ∈ before.airport.modes := by
  -- Only one kind of effect sets the modes, and it sets them to configured ones.
  cases effect with
  | refused _ | parked _ _ _ _ => exact configured mode searched
  | revised answer records moved _ chosen => exact (chosen mode searched).elim (configured mode) id
  | tracked _ _ done =>
    obtain ⟨_, _, _, rfl⟩ := addFlight_eq_ok done
    exact configured mode searched
  | held _ done =>
    obtain ⟨_, ⟨_, _, rfl⟩ | ⟨_, rfl⟩⟩ := upsertPending_eq_ok done <;> exact configured mode searched
  | inserted _ _ done =>
    obtain ⟨_, rfl, ⟨_, _, rfl⟩ | ⟨_, admitted, rfl⟩⟩ := insertFlight_cases done
    · exact configured mode searched
    · obtain ⟨_, _, _, _, _, rfl⟩ := insertAdmitted_eq_ok admitted
      exact configured mode searched
  | desequenced done =>
    obtain ⟨_, _, rfl⟩ := desequence_eq_ok done
    exact configured mode searched
  | resumed _ done =>
    obtain ⟨_, _, _, _, rfl⟩ := resume_eq_ok done
    exact configured mode searched
  | removed _ =>
    rename_i name _
    have drops := remove_drops before name
    unfold Scheduler.Searches at searched
    rw [Outcome.map, drops.mode, drops.modeChange] at searched
    exact configured mode searched

/--
A pass leaves no known flight without a runway that had one.

If it does not fail, it gives one to every new flight that is left to the scheduler.
-/
theorem pass_assigns {scheduler : Scheduler} {passed : Outcome Sequence Unit}
    (sound : changed.Sound) (pass : scheduler.schedule changed = .ok passed)
    (member : flight ∈ passed.after.known) :
    ∃ former ∈ changed.known, former.callsign = flight.callsign
      ∧ (former.runway.isSome = true → flight.runway.isSome = true)
      ∧ (passed.answer = .ok () → former.state = .new → former.Delegated →
        flight.runway.isSome = true) := by
  obtain ⟨turns, turned⟩ := Scheduler.exists_pass pass
  rcases List.mem_append.mp member with tracked | parked
  · rcases turned.mem_after.mp tracked with ⟨listed, settled⟩ | ⟨turn, taken, rfl⟩
    · -- A new flight would wait for its turn.
      refine ⟨flight, List.mem_append_left _ listed, rfl, id, fun _ fresh => ?_⟩
      rw [fresh] at settled
      cases settled
    · have listed := (turned.mem_flights taken).1
      have lands : turn.result.runway = turn.handled.flight.runway := by
        obtain ⟨_, state, shape⟩ := turned.result_frame taken
        rw [shape]
        rfl
      refine ⟨turn.flight, List.mem_append_left _ listed, (turned.result_callsign taken).symm, ?_, ?_⟩
      · rw [lands]
        exact (turned.handling turn taken).assigned
      · intro answered _ delegated
        -- The pass looked for a landing, and as it did not fail, it found one.
        have succeeds := turned.answer_eq_ok.mp answered turn taken
        obtain ⟨runway, commits⟩ :=
          turned.commits taken ⟨delegated.noDelay, delegated.manualLandingTime⟩ succeeds
        rw [commits.assigned]
        rfl
  · rw [turned.frame.2.2.2] at parked
    refine ⟨flight, List.mem_append_right _ parked, rfl, id, fun _ fresh => ?_⟩
    -- A desequenced flight is in a state of its own.
    rw [sound.parked flight parked] at fresh
    cases fresh

end Sequence

namespace Service

/-- A call moves a sequence to no other airport. -/
theorem Succession.sameAirport {fresh : SlotId} {named : String}
    (succession : service.Succession fresh named call reply before after) :
    after.airport = before.airport := by
  cases succession with
  | unchanged _ => rfl
  | carried _ _ made pass kept => exact scheduled_airport made pass kept

/--
After a call, a callsign has a runway if it had one before.

If it was not known before, it has one unless the pass of the call failed.
-/
theorem Succession.assigns {fresh : SlotId} (sound : before.Sound)
    (succession : service.Succession fresh airport call reply before after)
    (used : ∀ mode ∈ before.airport.modes, mode.runways ≠ [])
    (received : reply.isUnsatisfiable = true → after.isTracked callsign = true →
      before.isTracked callsign = true)
    (assigns : before.Assigns callsign) : after.Assigns callsign := by
  cases succession with
  | unchanged _ => exact assigns
  | carried here answered made pass kept =>
    rename_i changed slot passed
    have effect := effect_of_change made
    have drops := kept_drops kept
    refine ⟨fun flight member named => ?_, fun mode searched => ?_⟩
    · -- The flight is followed back, from what is left after the pass to what was known before.
      have survived := drops.known.subset member
      obtain ⟨former, known, same, keeps, places⟩ :=
        Sequence.pass_assigns (sound.effect effect) pass survived
      have renamed : former.callsign = callsign := same.trans named
      cases Sequence.effect_comes effect known with
      | kept listed alike stays =>
        exact keeps (stays (assigns.assigned _ listed (alike.trans renamed)))
      | inserted lands =>
        -- The mode is one of the airport, so that it has runways.
        exact keeps (lands (used _ (assigns.configured _ (.inl rfl))))
      | reported unknown new delegated =>
        rw [renamed] at unknown
        cases failed : reply.isUnsatisfiable with
        | false => exact places (answer_of_satisfied pass answered failed) new delegated
        | true =>
          -- The pass of the call by which the callsign becomes known did not fail.
          have tracked : after.isTracked callsign = true :=
            Sequence.isTracked_iff.mpr (List.mem_map.mpr ⟨flight, member, named⟩)
          exact absurd ((received failed tracked).symm.trans unknown) (by decide)
    · -- Neither the pass nor what is dropped after it concerns the modes.
      obtain ⟨turns, turned⟩ := Scheduler.exists_pass pass
      obtain ⟨_, passedMode, passedChange, _⟩ := turned.frame
      unfold Scheduler.Searches at searched
      rw [drops.mode, drops.modeChange, passedMode, passedChange] at searched
      rw [scheduled_airport made pass kept]
      exact Sequence.effect_configured effect assigns.configured searched

/--
The registries that a service can come to have if it receives a callsign well.

A call may leave flights without a landing time, but not one by which the callsign becomes known.
-/
inductive Receives (service : Service) (airport : String) (callsign : Callsign) : Registry → Prop where
  | empty : Receives service airport callsign .empty
  | created {registry start : Registry} {founded : Airport}
    (before : Receives service airport callsign registry)
    (done : registry.create founded = .ok start) : Receives service airport callsign start
  | removed {registry rest : Registry} {given : String}
    (before : Receives service airport callsign registry)
    (done : registry.remove given = .ok rest) : Receives service airport callsign rest
  | replied {registry : Registry} {call : Call} {reply : Reply}
    (before : Receives service airport callsign registry)
    (done : service.Replies registry call reply)
    (received : reply.isUnsatisfiable = true → reply.registry.knows airport callsign = true →
      registry.knows airport callsign = true) : Receives service airport callsign reply.registry

/-- A service that receives a callsign well comes to registries that it can come to. -/
theorem Receives.reachable (receives : service.Receives airport callsign registry) :
    service.Reachable registry := by
  induction receives with
  | empty => exact .empty
  | created _ done ih => exact .created ih done
  | removed _ done ih => exact .removed ih done
  | replied _ done _ ih => exact .replied ih done

/-- Calls that all find landing times receive every callsign well. -/
theorem Receives.follow {start last : Registry} {admits : Call → Reply → Prop}
    (satisfied : ∀ call reply, admits call reply → reply.isUnsatisfiable = false)
    (receives : service.Receives airport callsign start)
    (run : service.Reaches admits start last) : service.Receives airport callsign last := by
  induction run with
  | start => exact receives
  | step _ done admitted ih =>
    refine .replied ih (.executed done) fun failed => ?_
    rw [satisfied _ _ admitted] at failed
    cases failed

/-- A callsign that is received well has a runway wherever it is known. -/
theorem receives_assigns (receives : service.Receives airport callsign registry)
    (found : registry.sequence? airport = some sequence)
    (used : ∀ mode ∈ sequence.airport.modes, mode.runways ≠ []) : sequence.Assigns callsign := by
  induction receives generalizing sequence with
  | empty => cases found
  | created before done ih =>
    rcases Registry.mem_create done (List.mem_of_find?_eq_some found) with founded | managed
    · exact Sequence.assigns_of_airport founded callsign
    · -- The sequences of other airports are what they were.
      refine ih ?_ used
      rw [← Registry.sequence?_airport found]
      exact Registry.sequence?_of_mem (reachable_airports before.reachable) managed
  | removed before done ih =>
    -- A sequence that is left was there before.
    have managed := Registry.mem_remove done (List.mem_of_find?_eq_some found)
    refine ih ?_ used
    rw [← Registry.sequence?_airport found]
    exact Registry.sequence?_of_mem (reachable_airports before.reachable) managed
  | @replied registry call reply run replies received ih =>
    obtain ⟨before, former, sound, succession⟩ := exists_predecessor run.reachable replies found
    simp only [Registry.knows, found, former, Option.any_some] at received
    have unmoved : sequence.airport = before.airport := succession.sameAirport
    rw [unmoved] at used
    exact succession.assigns sound used received (ih former used)

/--
A flight that is stable or later is one that the others are scheduled around, if it was received well.

It has a runway, so that its landing is among those that a pass leaves alone and keeps clear of. Other
passes may fail, and the callsign may come and go.
-/
theorem receives_anchored (receives : service.Receives airport flight.callsign registry)
    (found : registry.sequence? airport = some sequence)
    (used : ∀ mode ∈ sequence.airport.modes, mode.runways ≠ []) (tracked : flight ∈ sequence.flights)
    (committed : .stable ≤ flight.state) :
    ∃ landing, flight.landingOnRunway = some landing
      ∧ landing ∈ Scheduler.anchors sequence.flights := by
  have assigns := receives_assigns receives found used
  have sound := (reachable_sound receives.reachable).sequence? found
  obtain ⟨runway, assigned⟩ := Option.isSome_iff_exists.mp
    (assigns.assigned flight (List.mem_append_left _ tracked) rfl)
  have lands : flight.landingOnRunway = some (flight.landingOn runway) :=
    Flight.landingOnRunway_eq_some.mpr ⟨runway, assigned, rfl⟩
  have anchored := FlightState.isAnchored_of_stable_le (sound.tracked flight tracked) committed
  exact ⟨_, lands, Scheduler.mem_anchors tracked anchored lands⟩

/-- Whether a call found landing times for all flights. -/
def Satisfied (_ : Call) (reply : Reply) : Prop := reply.isUnsatisfiable = false

instance (call : Call) (reply : Reply) : Decidable (Satisfied call reply) :=
  inferInstanceAs (Decidable (_ = _))

/-- The others are scheduled around a flight that is stable after six minutes. -/
theorem receives_anchored_sampleCalls :
    ∃ created reached sequence flight landing,
      Registry.empty.create { Airport.sample with modes := [singleMode] } = .ok created
        ∧ sampleStandard.follow Satisfied created (sampleCalls.take 2) = some reached
        ∧ reached.sequence? "YSSY" = some sequence ∧ flight ∈ sequence.flights
        ∧ .stable ≤ flight.state ∧ flight.landingOnRunway = some landing
        ∧ landing ∈ Scheduler.anchors sequence.flights := by
  let airport : Airport := { Airport.sample with modes := [singleMode] }
  obtain ⟨created, founded⟩ : ∃ created, Registry.empty.create airport = .ok created := ⟨_, rfl⟩
  have computed : ((sampleStandard.follow Satisfied created (sampleCalls.take 2)).bind fun reached =>
      (reached.sequence? "YSSY").bind fun sequence =>
        (sequence.flight? "QFA1").bind fun flight =>
          if .stable ≤ flight.state ∧ sequence.airport.modes.all (¬ ·.runways.isEmpty) then
            some (reached, sequence, flight) else none).isSome := by
    cases founded
    decide +kernel
  obtain ⟨⟨reached, sequence, flight⟩, computed⟩ := Option.isSome_iff_exists.mp computed
  obtain ⟨_, followed, computed⟩ := Option.bind_eq_some_iff.mp computed
  obtain ⟨_, found, computed⟩ := Option.bind_eq_some_iff.mp computed
  obtain ⟨_, named, computed⟩ := Option.bind_eq_some_iff.mp computed
  split at computed
  · rename_i holds
    cases computed
    have tracked := (findFlight_mem named).1
    have receives : sampleStandard.Receives "YSSY" flight.callsign reached :=
      .follow (fun _ _ => id) (.created .empty founded) (reaches_of_follow followed)
    have used : ∀ mode ∈ sequence.airport.modes, mode.runways ≠ [] := by
      simpa using holds.2
    obtain ⟨landing, lands, anchored⟩ := receives_anchored receives found used tracked holds.1
    exact ⟨created, reached, sequence, flight, landing, founded, followed, found, tracked, holds.1,
      lands, anchored⟩
  · cases computed

/-- The only runway is closed for the next hundred minutes when a flight is reported. -/
def sampleClosedCalls : List Call :=
  let hourBefore : Instant := ⟨-3600000000000, by decide, by decide⟩
  let halfHourBefore : Instant := ⟨-1800000000000, by decide, by decide⟩
  let twentyMinutesBefore : Instant := ⟨-1200000000000, by decide, by decide⟩
  let update : FlightUpdate := { sampleUpdate "QFA1" "B789" with landing := .epoch }
  (List.finRange 100).map (fun place => ⟨"YSSY", hourBefore,
      .createSlot (.sampleMinute place.castSucc) (.sampleMinute place.succ) ["34L"]⟩)
    ++ [⟨"YSSY", halfHourBefore, .updateFlight update⟩, ⟨"YSSY", twentyMinutesBefore, .recompute⟩]

/-- The flight finds no landing time, and is stable ten minutes later without any runway. -/
theorem reachable_withoutRunway_sampleClosedCalls :
    ∃ reached flight, sampleStandard.Reachable reached
      ∧ reached.tracked? "YSSY" "QFA1" = some flight ∧ .stable ≤ flight.state
      ∧ flight.runway = none ∧ flight.landingOnRunway = none := by
  let airport : Airport := { Airport.sample with modes := [singleMode] }
  obtain ⟨created, founded⟩ : ∃ created, Registry.empty.create airport = .ok created := ⟨_, rfl⟩
  have computed : ((sampleStandard.follow (fun _ _ => True) created sampleClosedCalls).bind
      fun reached => (reached.tracked? "YSSY" "QFA1").bind fun flight =>
        if .stable ≤ flight.state ∧ flight.runway = none then some (reached, flight) else none).isSome := by
    cases founded
    decide +kernel
  obtain ⟨⟨reached, flight⟩, computed⟩ := Option.isSome_iff_exists.mp computed
  obtain ⟨_, followed, computed⟩ := Option.bind_eq_some_iff.mp computed
  obtain ⟨_, tracked, computed⟩ := Option.bind_eq_some_iff.mp computed
  split at computed
  · rename_i holds
    cases computed
    have reachable : sampleStandard.Reachable reached :=
      (reaches_of_follow followed).reachable (.created .empty founded)
    refine ⟨reached, flight, reachable, tracked, holds.1, holds.2, ?_⟩
    unfold Flight.landingOnRunway
    rw [holds.2]
    rfl
  · cases computed

end Service

end ArrivalManager
