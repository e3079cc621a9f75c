import ArrivalManager.Proofs.Service.Succession

/-! No flight is lost: whatever a service is told to do, a flight goes for a reason that is known. -/

namespace ArrivalManager

open Estimation

variable {service : Service} {registry : Registry} {airport : String} {call : Call} {reply : Reply}
  {now : Instant} {command : Command} {before after : Sequence} {callsign : Callsign}
  {flight : Flight} {outcome : Outcome Sequence (Option SlotId)}

namespace Sequence

/-- A pending flight that is tracked is the only one that is no longer pending. -/
theorem track_waiting {added : Flight} {arranged : List Flight} {name : Callsign}
    (moved : arranged.Perm (before.flights ++ [added])) (named : added.callsign = name)
    (waits : callsign ∈ before.pending.map (·.callsign)) :
    callsign ∈ ((before.dropPending name).pending ++ arranged).map (·.callsign) := by
  obtain ⟨flight, member, rfl⟩ := List.mem_map.mp waits
  rw [List.map_append, List.mem_append]
  by_cases same : flight.callsign = name
  · right
    rw [same, ← named]
    exact List.mem_map_of_mem (moved.mem_iff.mpr (List.mem_append_right _ List.mem_cons_self))
  · left
    exact List.mem_map_of_mem (List.mem_filter.mpr ⟨member, by simpa using same⟩)

/-- Before the pass, a command leaves all pending flights pending, but for one that it tracks. -/
theorem effect_waiting (effect : service.Effect now before command outcome)
    (waits : callsign ∈ before.pending.map (·.callsign)) :
    callsign ∈ (outcome.after.pending ++ outcome.after.flights).map (·.callsign) := by
  -- Whatever else happens, flights that stay pending need no further argument.
  have stays {flights : List Flight} : callsign ∈ (before.pending ++ flights).map (·.callsign) := by
    rw [List.map_append]
    exact List.mem_append_left _ waits
  cases effect with
  | refused _ | revised _ _ _ _ _ | parked _ _ _ _ => exact stays
  | tracked _ _ done =>
    obtain ⟨_, arranged, moved, rfl⟩ := addFlight_eq_ok done
    exact track_waiting moved rfl waits
  | held _ done =>
    obtain ⟨_, ⟨_, _, rfl⟩ | ⟨_, rfl⟩⟩ := upsertPending_eq_ok done
    · simpa [replaceFlight_callsigns] using stays
    · rw [List.append_assoc]
      exact stays
  | inserted _ _ done =>
    obtain ⟨_, rfl, ⟨_, _, rfl⟩ | ⟨_, admitted, rfl⟩⟩ := insertFlight_cases done
    · exact stays
    · obtain ⟨_, pinned, arranged, inserts, moved, rfl⟩ := insertAdmitted_eq_ok admitted
      exact track_waiting moved inserts.same.callsign waits
  | desequenced done =>
    obtain ⟨_, _, rfl⟩ := desequence_eq_ok done
    exact stays
  | resumed _ done =>
    obtain ⟨_, _, _, _, rfl⟩ := resume_eq_ok done
    exact stays
  | @removed name _ =>
    rw [Outcome.map, remove_pending]
    exact stays

end Sequence

namespace Sequence.Sound

variable (sound : before.Sound)
include sound

/-- A removal takes out the callsign that it names, unless it is refused and takes out none. -/
theorem remove_known (name : Callsign) :
    (before.remove name).after.known = before.known
      ∨ ∃ gone, (before.remove name).answer = .ok gone ∧ gone.callsign = name
        ∧ (name :: (before.remove name).after.known.map (·.callsign)).Perm
          (before.known.map (·.callsign)) := by
  rcases remove_cases before name with missing | ⟨flight, rest, taken, ⟨gone, _⟩ | ⟨_, removed⟩⟩
  · rw [missing]
    exact .inl rfl
  · -- A flight that is found was not removed before.
    exact absurd gone (sound.takeOut_alive taken)
  · obtain ⟨named, split⟩ := takeOut_known taken
    refine .inr ⟨_, congrArg Outcome.answer removed, named, ?_⟩
    rw [removed, ← named]
    exact split.map (·.callsign)

/-- Before the pass, a command leaves all callsigns known, but for one that it removes. -/
theorem effect_known (effect : service.Effect now before command outcome)
    (known : callsign ∈ before.known.map (·.callsign)) :
    callsign ∈ outcome.after.known.map (·.callsign)
      ∨ command = .remove callsign ∧ ∃ gone, (before.remove callsign).answer = .ok gone := by
  cases effect with
  | refused _ => exact .inl known
  | revised answer records moved _ _ =>
    -- The records have the callsigns of the flights, and their order does not matter.
    have same := map_eq_of_forall₂ records fun revised => revised.same.callsign
    have tracked := (moved.map (·.callsign)).trans (.of_eq same)
    left
    simp only [Sequence.known, List.map_append, List.mem_append, tracked.mem_iff] at known ⊢
    exact known
  | parked _ _ _ _ =>
    left
    simpa [Sequence.known, replaceFlight_callsigns] using known
  | tracked _ _ done =>
    obtain ⟨_, arranged, moved, rfl⟩ := addFlight_eq_ok done
    exact .inl ((track_callsigns moved _).mem_iff.mpr (List.mem_cons_of_mem _ known))
  | held _ done => exact .inl (((upsertPending_rearranges done).known.map _).mem_iff.mpr known)
  | inserted _ _ done =>
    obtain ⟨_, rfl, ⟨_, _, rfl⟩ | ⟨_, admitted, rfl⟩⟩ := insertFlight_cases done
    · exact .inl known
    · obtain ⟨_, pinned, arranged, _, moved, rfl⟩ := insertAdmitted_eq_ok admitted
      exact .inl ((track_callsigns moved _).mem_iff.mpr (List.mem_cons_of_mem _ known))
  | desequenced done => exact .inl ((desequence_callsigns done).mem_iff.mpr known)
  | resumed _ done => exact .inl ((resume_callsigns done).mem_iff.mpr known)
  | @removed name ordered =>
    rcases sound.remove_known name with same | ⟨gone, removed, named, split⟩
    · exact .inl (same ▸ known)
    · rcases List.mem_cons.mp (split.mem_iff.mpr known) with rfl | stays
      · exact .inr ⟨ordered, gone, removed⟩
      · exact .inl stays

end Sequence.Sound

namespace Service

/-- Why a flight is neither tracked nor desequenced after a call, although it was before. -/
inductive Releases (service : Service) (call : Call) (before : Sequence) (flight : Flight) :
    Prop where
  /-- It was to be removed from the sequence, and that succeeded. -/
  | removed {gone : Flight} (here : call.airport = before.airport.identifier)
    (ordered : call.command = .remove flight.callsign)
    (succeeds : (before.remove flight.callsign).answer = .ok gone) : Releases service call before flight
  /-- It was tracked, and is purged as it has landed long enough ago. -/
  | purged {current : Flight} (here : call.airport = before.airport.identifier)
    (recomputes : call.command = .recompute) (tracked : flight ∈ before.flights)
    (refreshed : Gives (service.estimator.refresh before.airport flight call.now) current)
    (purges : service.Purges call.now current) : Releases service call before flight

/-- A pending flight is dropped by a recomputation, as it was expected to land long enough ago. -/
structure Expires (service : Service) (call : Call) (before : Sequence) (flight : Flight) :
    Prop where
  here : call.airport = before.airport.identifier
  recomputes : call.command = .recompute
  overdue : service.settings.landedRetention < call.now.since flight.landing.estimate

/-- A call after which no flight of a sequence has gone without a reason. -/
structure Conserves (service : Service) (call : Call) (before after : Sequence) : Prop where
  known : ∀ flight ∈ before.known,
    after.isTracked flight.callsign = true ∨ service.Releases call before flight
  waiting : ∀ flight ∈ before.pending,
    (∃ later ∈ after.pending ++ after.flights, later.callsign = flight.callsign)
      ∨ service.Expires call before flight

/-- Where nothing happens no flight is lost. -/
theorem Conserves.refl (call : Call) (sequence : Sequence) :
    service.Conserves call sequence sequence where
  known _ member := .inl (Sequence.isTracked_iff.mpr (List.mem_map_of_mem member))
  waiting flight member := .inl ⟨flight, List.mem_append_left _ member, rfl⟩

/-- A recomputation loses no flight but those that it purges or drops. -/
theorem Recomputes.conserves (recomputes : service.Recomputes call.now before after)
    (here : call.airport = before.airport.identifier) (ordered : call.command = .recompute) :
    service.Conserves call before after where
  known flight member := by
    rw [Sequence.isTracked_iff]
    rcases List.mem_append.mp member with tracked | parked
    · obtain ⟨current, refreshed, ⟨later, stays, named⟩ | ⟨purges, _⟩⟩ :=
        recomputes.tracked flight tracked
      · exact .inl (List.mem_map.mpr ⟨later, List.mem_append_left _ stays, named⟩)
      · exact .inr (.purged here ordered tracked refreshed purges)
    · -- Desequenced flights stay what they are, however much time passes.
      refine .inl (List.mem_map_of_mem (List.mem_append_right _ ?_))
      rw [recomputes.desequenced]
      exact parked
  waiting flight member := by
    rcases recomputes.waiting flight member with stays | overdue
    · exact .inl ⟨flight, List.mem_append_left _ stays, rfl⟩
    · exact .inr ⟨here, ordered, overdue⟩

/-- The callsigns of a sequence are the same ones after a pass, in each of its lists. -/
theorem pass_callsigns {changed : Sequence} {passed : Outcome Sequence Unit}
    (pass : service.scheduler.schedule changed = .ok passed) :
    (callsign ∈ passed.after.known.map (·.callsign) ↔ callsign ∈ changed.known.map (·.callsign))
      ∧ (callsign ∈ (passed.after.pending ++ passed.after.flights).map (·.callsign)
        ↔ callsign ∈ (changed.pending ++ changed.flights).map (·.callsign)) := by
  obtain ⟨turns, turned⟩ := Scheduler.exists_pass pass
  obtain ⟨pending, desequenced, _⟩ := pass_frame pass
  simp only [Sequence.known, List.map_append, List.mem_append, pending, desequenced,
    turned.callsigns_perm.mem_iff, and_self]

/-- One call loses no flight of a sequence but those that it releases or drops. -/
theorem Succession.conserves {fresh : SlotId} (sound : before.Sound)
    (here : before.airport.identifier = airport)
    (succession : service.Succession fresh airport call reply before after) :
    service.Conserves call before after := by
  cases succession with
  | unchanged _ => exact .refl call before
  | carried there answered made pass remains =>
    rename_i changed slot passed
    have managed : call.airport = before.airport.identifier := there.trans here.symm
    by_cases recomputes : call.command = .recompute
    · rw [recomputes] at made remains
      exact (recomputes_of_made made pass remains).conserves managed recomputes
    · -- No other command drops anything after the pass.
      obtain rfl := kept_other recomputes remains
      have effect := effect_of_change made
      refine ⟨fun flight member => ?_, fun flight member => ?_⟩
      · rw [Sequence.isTracked_iff, (pass_callsigns pass).1]
        refine (sound.effect_known effect (List.mem_map_of_mem member)).imp_right ?_
        rintro ⟨ordered, gone, succeeds⟩
        exact .removed managed ordered succeeds
      · have stays := Sequence.effect_waiting effect (List.mem_map_of_mem member)
        exact .inl (List.mem_map.mp ((pass_callsigns pass).2.mpr stays))

/--
No flight is lost by any command, in whichever registry the service has come to.

What is tracked or desequenced stays so, unless it is removed or purged, and what is pending stays so
or is tracked, unless it is overdue.
-/
theorem replies_conserves (reachable : service.Reachable registry)
    (replies : service.Replies registry call reply)
    (found : registry.sequence? airport = some before) :
    ∃ after, reply.registry.sequence? airport = some after
      ∧ service.Conserves call before after := by
  have sound := reachable_sound reachable
  obtain ⟨after, found', succession⟩ := exists_succession sound replies found
  exact ⟨after, found', succession.conserves (sound.sequence? found) (Registry.sequence?_airport found)⟩

/-- A tracked flight that is taken out for the time being is not lost. -/
theorem replies_conserves_sampleCalls :
    let call : Call := ⟨"YSSY", .epoch, .desequence "QFA1"⟩
    ∃ created reached reply before after,
      Registry.empty.create { Airport.sample with modes := [singleMode] } = .ok created
        ∧ sampleStandard.follow (RoutineAt "YSSY") created (sampleCalls.take 1) = some reached
        ∧ sampleStandard.Replies reached call reply
        ∧ reached.sequence? "YSSY" = some before ∧ before.isTracked "QFA1" = true
        ∧ reply.registry.sequence? "YSSY" = some after ∧ sampleStandard.Conserves call before after := by
  intro call
  let airport : Airport := { Airport.sample with modes := [singleMode] }
  obtain ⟨created, founded⟩ : ∃ created, Registry.empty.create airport = .ok created := ⟨_, rfl⟩
  have computed : ((sampleStandard.follow (RoutineAt "YSSY") created (sampleCalls.take 1)).bind
      fun reached => (reached.sequence? "YSSY").bind fun before =>
        (sampleStandard.execute reached call.airport call.now call.command).toOption.bind fun reply =>
          if before.isTracked "QFA1" then some (reached, before, reply) else none).isSome := by
    cases founded
    decide +kernel
  obtain ⟨⟨reached, before, reply⟩, computed⟩ := Option.isSome_iff_exists.mp computed
  obtain ⟨_, followed, computed⟩ := Option.bind_eq_some_iff.mp computed
  obtain ⟨_, found, computed⟩ := Option.bind_eq_some_iff.mp computed
  obtain ⟨_, executed, computed⟩ := Option.bind_eq_some_iff.mp computed
  split at computed
  · rename_i tracked
    cases computed
    have replies := replies_of_toOption executed
    have reachable : sampleStandard.Reachable reached :=
      (reaches_of_follow followed).reachable (.created .empty founded)
    obtain ⟨after, found', conserves⟩ := replies_conserves reachable replies found
    exact ⟨created, reached, reply, before, after, founded, followed, replies, found, tracked, found',
      conserves⟩
  · cases computed

end Service

end ArrivalManager
