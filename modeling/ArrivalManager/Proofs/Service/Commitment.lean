import ArrivalManager.Proofs.Service.Atomicity

/-! Flights that are committed to a landing keep it through whatever else a service is told to do. -/

namespace ArrivalManager

variable {service : Service} {scheduler : Scheduler} {registry start last : Registry}
  {sequence : Sequence} {airport : String} {callsign : Callsign} {now : Instant}
  {command : Command} {call : Call} {reply : Reply} {first before after old new : Flight}

/-- The tracked flight of a name at an airport. -/
def Registry.tracked? (registry : Registry) (airport : String) (callsign : Callsign) :
    Option Flight :=
  (registry.sequence? airport).bind (·.flight? callsign)

namespace Flight

/-- A flight whose landing time a controller chose, and that has to wait for it. -/
def IsPinned (flight : Flight) : Prop := flight.manualLandingTime = true ∧ flight.noDelay = false

/-- A flight that was stable or later before, or whose landing time was pinned before and after. -/
def IsCommitted (before after : Flight) : Prop :=
  .stable ≤ before.state ∨ (before.IsPinned ∧ after.IsPinned)

instance (before after : Flight) : Decidable (before.IsCommitted after) :=
  inferInstanceAs (Decidable (_ ∨ ((_ ∧ _) ∧ (_ ∧ _))))

end Flight

namespace Sequence

variable {outcome : Outcome Sequence (Option SlotId)}

/-- In a sound sequence, a command that spares a flight leaves it its landing before the pass. -/
theorem Sound.effect_honours (sound : sequence.Sound)
    (effect : service.Effect now sequence command outcome)
    (spared : command.decidesOn old.callsign = false) (former : old ∈ sequence.flights)
    (latter : new ∈ outcome.after.flights) (named : new.callsign = old.callsign) :
    old.Honours new ∧ (old.state.isAnchored = true → new.state.isAnchored = true) := by
  -- A flight that was tracked before is the one of its name.
  have kept (tracked : new ∈ sequence.flights) :
      old.Honours new ∧ (old.state.isAnchored = true → new.state.isAnchored = true) := by
    rw [sound.distinct.same tracked former named]
    exact ⟨.refl old, id⟩
  -- A flight that is tracked anew passed the check, so it has another name.
  have added {flight : Flight} {arranged : List Flight} {start : Sequence}
      (checked : start.checkNew flight = .ok ()) (same : start.flights = sequence.flights)
      {pinned : Flight} (arrival : flight.SameArrival pinned)
      (moved : arranged.Perm (start.flights ++ [pinned])) (member : new ∈ arranged) :
      old.Honours new ∧ (old.state.isAnchored = true → new.state.isAnchored = true) := by
    rcases List.mem_append.mp (moved.mem_iff.mp member) with tracked | fresh
    · exact kept (same ▸ tracked)
    · obtain rfl := List.mem_singleton.mp fresh
      have unknown := (checkNew_eq_ok.mp checked).2.1
      have tracked : old ∈ start.known := List.mem_append_left _ (same ▸ former)
      exact absurd (named.symm.trans arrival.callsign) (unknown old tracked)
  cases effect with
  | refused _ => exact kept latter
  | revised answer records moved _ _ =>
    -- The record is that of the flight with the same name.
    obtain ⟨record, tracked, revised⟩ := exists_of_forall₂ records (moved.mem_iff.mp latter)
    obtain rfl : record = old :=
      sound.distinct.same tracked former (revised.same.callsign.symm.trans named)
    exact ⟨revised.honours spared, revised.anchored⟩
  | parked _ _ _ _ => exact kept latter
  | tracked _ _ done =>
    obtain ⟨checked, arranged, moved, rfl⟩ := addFlight_eq_ok done
    exact added checked rfl (.refl _) moved latter
  | held _ done =>
    obtain ⟨_, ⟨_, _, rfl⟩ | ⟨_, rfl⟩⟩ := upsertPending_eq_ok done
    · exact kept latter
    · exact kept latter
  | inserted _ _ done =>
    obtain ⟨_, rfl, ⟨_, _, rfl⟩ | ⟨_, admitted, rfl⟩⟩ := insertFlight_cases done
    · exact kept latter
    · obtain ⟨checked, pinned, arranged, inserts, moved, rfl⟩ := insertAdmitted_eq_ok admitted
      exact added checked rfl inserts.same moved latter
  | desequenced done =>
    obtain ⟨_, _, rfl⟩ := desequence_eq_ok done
    exact kept (List.eraseP_sublist.subset latter)
  | resumed decided done =>
    obtain ⟨flight, arranged, found, moved, rfl⟩ := resume_eq_ok done
    rcases List.mem_append.mp (moved.mem_iff.mp latter) with tracked | resumed
    · exact kept tracked
    · -- The flight that is brought back is one that the command decides on.
      obtain rfl := List.mem_singleton.mp resumed
      have arrival := Flight.activate_sameArrival { flight with state := .unstable } now
      rw [← named, arrival.callsign, (findFlight_mem found).2, decided] at spared
      cases spared
  | removed _ => exact kept ((remove_drops sequence _).flights.subset latter)

/-- A pass leaves a flight its landing if the flight keeps it, or if it is pinned. -/
theorem pass_honours {passed : Outcome Sequence Unit}
    (distinct : DistinctCallsigns sequence.flights)
    (pass : scheduler.schedule sequence = .ok passed) (former : old ∈ sequence.flights)
    (latter : new ∈ passed.after.flights) (named : new.callsign = old.callsign)
    (committed : old.state.isAnchored = true ∨ new.IsPinned) : old.Honours new := by
  obtain ⟨turns, turned⟩ := Scheduler.exists_pass pass
  rcases turned.mem_after.mp latter with ⟨tracked, _⟩ | ⟨turn, member, rfl⟩
  · -- A flight that does not wait is left as it is.
    rw [distinct.same tracked former named]
    exact .refl old
  · obtain ⟨waited, waits⟩ := turned.mem_flights member
    obtain ⟨rescheduled, state, result⟩ := turned.result_frame member
    obtain rfl : turn.flight = old :=
      distinct.same waited former ((turned.result_callsign member).symm.trans named)
    rcases committed with anchored | ⟨chosen, mayWait⟩
    · -- A flight that keeps its landing has no turn.
      exact absurd (FlightState.isSchedulable_of_anchored anchored) (by simp [waits])
    · rw [result] at chosen mayWait ⊢
      have pinned : turn.flight.IsPinned :=
        ⟨rescheduled.manualLandingTime.symm.trans chosen, rescheduled.noDelay.symm.trans mayWait⟩
      -- The turn leaves it as it is, and only its state may change after that.
      rw [(turned.handling turn member).of_manual pinned.2 pinned.1]
      exact ⟨rfl, fun _ assigned => assigned⟩

end Sequence

namespace Service

/-- A flight that is found is tracked by the sequence of the airport. -/
theorem tracked?_eq_some (found : registry.tracked? airport callsign = some before) :
    ∃ sequence, registry.sequence? airport = some sequence
      ∧ before ∈ sequence.flights ∧ before.callsign = callsign := by
  obtain ⟨sequence, managed, tracked⟩ := Option.bind_eq_some_iff.mp found
  exact ⟨sequence, managed, findFlight_mem tracked⟩

/-- One command that spares a committed flight leaves it its landing. -/
theorem replies_honours (sound : registry.Sound) (replies : service.Replies registry call reply)
    (spared : call.airport = airport → call.command.decidesOn callsign = false)
    (former : registry.tracked? airport callsign = some before)
    (latter : reply.registry.tracked? airport callsign = some after)
    (committed : before.IsCommitted after) : before.Honours after := by
  -- Where the sequence is found unchanged, so is the flight.
  have unchanged (same : reply.registry.sequence? airport = registry.sequence? airport) :
      before.Honours after := by
    unfold Registry.tracked? at former latter
    rw [same, former] at latter
    rw [Option.some.inj latter]
    exact .refl after
  cases replies with
  | abandoned _ => exact unchanged rfl
  | executed done =>
    have execution := execution_of_execute done
    by_cases here : call.airport = airport
    · subst here
      cases execution with
      | unmanaged _ => exact unchanged rfl
      | refused misses found made =>
        -- In a sound sequence, a change that is refused leaves no trace.
        have traceless := (sound.sequence? found).effect_refused (effect_of_change made) rfl
        refine unchanged ?_
        rw [found, ← traceless]
        exact Registry.replace_sequence?_found found rfl (change_airport made)
      | scheduled misses found made pass kept =>
        rename_i sequence changed remaining slot passed
        obtain ⟨_, managed, tracked, named⟩ := tracked?_eq_some former
        obtain rfl := Option.some.inj (found.symm.trans managed)
        obtain ⟨_, remains, listed, still⟩ := tracked?_eq_some latter
        obtain rfl := Option.some.inj ((Registry.replace_sequence?_found found rfl
          (scheduled_airport made pass kept)).symm.trans remains)
        have sound := sound.sequence? found
        have effect := effect_of_change made
        have ready : changed.Sound := sound.effect effect
        -- The flight after the pass is one that was tracked when the pass began.
        have survived : after ∈ passed.after.flights := (kept_drops kept).flights.subset listed
        obtain ⟨turns, turned⟩ := Scheduler.exists_pass pass
        obtain ⟨between, changing, same⟩ := List.mem_map.mp
          (turned.callsigns_perm.mem_iff.mp (List.mem_map_of_mem survived))
        have renamed : between.callsign = before.callsign := same.trans (still.trans named.symm)
        obtain ⟨early, anchored⟩ := sound.effect_honours effect
          (by rw [named]; exact spared rfl) tracked changing renamed
        -- What kept its landing before keeps it still, and what is pinned was so at the pass.
        refine early.trans (Sequence.pass_honours ready.distinct pass changing survived same.symm ?_)
        rcases committed with stable | ⟨_, pinned⟩
        · exact .inl (anchored
            (FlightState.isAnchored_of_stable_le (sound.tracked before tracked) stable))
        · exact .inr pinned
    · exact unchanged (execution_elsewhere execution (Ne.symm here))

/-- Runs of commands that spare a flight, through which it is tracked and committed to its landing. -/
inductive Spares (service : Service) (airport : String) (callsign : Callsign) (start : Registry)
    (first : Flight) : Registry → Flight → Prop where
  | start (tracked : start.tracked? airport callsign = some first) :
    Spares service airport callsign start first start first
  | step {registry : Registry} {before after : Flight} {call : Call} {reply : Reply}
    (run : Spares service airport callsign start first registry before)
    (done : service.Replies registry call reply)
    (spared : call.airport = airport → call.command.decidesOn callsign = false)
    (tracked : reply.registry.tracked? airport callsign = some after)
    (committed : before.IsCommitted after) :
    Spares service airport callsign start first reply.registry after

/-- In a run that spares a flight, the flight is tracked in a registry that can come about. -/
theorem Spares.tracked (reachable : service.Reachable start)
    (run : service.Spares airport callsign start first last after) :
    service.Reachable last ∧ last.tracked? airport callsign = some after := by
  induction run with
  | start tracked => exact ⟨reachable, tracked⟩
  | step _ done _ tracked _ ih => exact ⟨.replied ih.1 done, tracked⟩

/--
A flight that is committed to its landing keeps it, through any run of commands that spare it.

Its scheduled landing time stays, and so does its runway once it has one. The run may begin with
any registry that the service has come to, and all of its commands are to leave the flight tracked.
-/
theorem spares_honours (reachable : service.Reachable start)
    (run : service.Spares airport callsign start first last after) : first.Honours after := by
  induction run with
  | start _ => exact .refl first
  | step run done spared tracked committed ih =>
    obtain ⟨reached, former⟩ := run.tracked reachable
    exact ih.trans (replies_honours (reachable_sound reached) done spared former tracked committed)

/-- The registry and the flight after some calls, as long as they spare it and it is committed. -/
def followSparing (service : Service) (airport : String) (callsign : Callsign) (registry : Registry)
    (before : Flight) : List Call → Option (Registry × Flight)
  | [] => some (registry, before)
  | call :: rest =>
    match service.execute registry call.airport call.now call.command with
    | .error _ => none
    | .ok reply =>
      match reply.registry.tracked? airport callsign with
      | none => none
      | some after =>
        if (call.airport = airport → call.command.decidesOn callsign = false)
            ∧ before.IsCommitted after then
          service.followSparing airport callsign reply.registry after rest
        else none

/-- A run that goes on with the calls that are followed spares the flight to the end. -/
theorem Spares.follow {calls : List Call}
    (run : service.Spares airport callsign start first registry before)
    (followed : service.followSparing airport callsign registry before calls = some (last, after)) :
    service.Spares airport callsign start first last after := by
  induction calls generalizing registry before with
  | nil =>
    cases followed
    exact run
  | cons call rest ih =>
    unfold followSparing at followed
    split at followed
    · cases followed
    · rename_i reply done
      split at followed
      · cases followed
      · rename_i between tracked
        -- Following goes on only if the call spares the flight, and the flight is committed.
        split at followed
        · rename_i holds
          exact ih (.step run (.executed done) holds.1 tracked holds.2) followed
        · cases followed

/-- A stable flight gets new data, and time passes. -/
def sampleSparingCalls : List Call :=
  let later : Instant := ⟨2400000000000, by decide, by decide⟩
  let sevenMinutes : Instant := ⟨420000000000, by decide, by decide⟩
  [⟨"YSSY", sevenMinutes, .updateFlight { sampleUpdate "QFA1" "B789" with landing := later }⟩,
    ⟨"YSSY", sevenMinutes, .setNoDelay "QFA1" true⟩,
    ⟨"YSSY", sevenMinutes, .recompute⟩]

/-- The stable flight keeps its landing, although it is expected later now. -/
theorem spares_honours_sampleSparingCalls :
    ∃ created start first last after,
      Registry.empty.create { Airport.sample with modes := [singleMode] } = .ok created
        ∧ sampleStandard.follow (RoutineAt "YSSY") created (sampleCalls.take 2) = some start
        ∧ start.tracked? "YSSY" "QFA1" = some first
        ∧ sampleStandard.followSparing "YSSY" "QFA1" start first sampleSparingCalls
          = some (last, after)
        ∧ first.Honours after := by
  let airport : Airport := { Airport.sample with modes := [singleMode] }
  obtain ⟨created, founded⟩ : ∃ created, Registry.empty.create airport = .ok created := ⟨_, rfl⟩
  have computed : ((sampleStandard.follow (RoutineAt "YSSY") created (sampleCalls.take 2)).bind
      fun start => (start.tracked? "YSSY" "QFA1").bind fun first =>
        sampleStandard.followSparing "YSSY" "QFA1" start first sampleSparingCalls).isSome := by
    cases founded
    decide +kernel
  obtain ⟨⟨last, after⟩, computed⟩ := Option.isSome_iff_exists.mp computed
  obtain ⟨start, followed, computed⟩ := Option.bind_eq_some_iff.mp computed
  obtain ⟨first, tracked, spared⟩ := Option.bind_eq_some_iff.mp computed
  have reachable : sampleStandard.Reachable start :=
    (reaches_of_follow followed).reachable (.created .empty founded)
  exact ⟨created, start, first, last, after, founded, followed, tracked, spared,
    spares_honours reachable ((Spares.start tracked).follow spared)⟩

end Service

end ArrivalManager
