import ArrivalManager.Proofs.Sequence.Run
import ArrivalManager.Proofs.Service.Routine

/-! Sound sequences: no command, no pass and no clearing of old entries makes one unsound. -/

namespace ArrivalManager

/-- A sequence as a service keeps it: its lists are apart, and each holds flights in fitting states. -/
structure Sequence.Sound (sequence : Sequence) : Prop where
  partitioned : sequence.Partitioned
  /-- A tracked flight is in the chain of states. -/
  tracked : ∀ flight ∈ sequence.flights, flight.state.isSequenced = true
  parked : ∀ flight ∈ sequence.desequenced, flight.state = .desequenced
  /-- A pending flight may enter the chain of states as it is. -/
  waiting : ∀ flight ∈ sequence.pending, flight.state.isSequenced = true

namespace Sequence

variable {service : Service} {scheduler : Scheduler} {before after : Sequence} {flight : Flight}
  {callsign : Callsign} {now : Instant} {command : Command}
  {outcome : Outcome Sequence (Option SlotId)}

/-- The empty sequence of an airport is sound. -/
theorem sound_of_airport {airport : Airport} (founded : ofAirport airport = .ok before) :
    before.Sound := by
  obtain ⟨_, partitioned⟩ := partitioned_of_airport founded
  unfold ofAirport at founded
  split at founded
  · cases founded
  · -- There are no flights whose states could be wrong.
    cases founded
    exact ⟨partitioned, by simp, by simp, by simp⟩

/-- What can be inserted under a callsign is a pending flight, or a new one at a place that is known. -/
theorem insertedFlight_eq_ok {typeCode : Option String} {place : InsertPosition}
    (chosen : service.insertedFlight before callsign typeCode place = .ok flight) :
    flight.callsign = callsign ∧ (flight ∈ before.pending
      ∨ (flight.destination = before.airport.identifier ∧ flight.state = .new
        ∧ ∃ estimate, Service.insertedEstimate before place = .ok estimate)) := by
  unfold Service.insertedFlight at chosen
  split at chosen
  · -- The pending flight comes first, also if a type is given.
    rename_i waiting _ found
    cases chosen
    obtain ⟨listed, named⟩ := findFlight_mem found
    exact ⟨named, .inl listed⟩
  · obtain ⟨estimate, known, chosen⟩ := bind_eq_ok.mp chosen
    cases pure_eq_ok.mp chosen
    exact ⟨rfl, .inr ⟨rfl, rfl, estimate, known⟩⟩
  · cases chosen

/-- Where a place is known, an insertion there is not refused for want of it. -/
theorem insertedLanding_of_estimate {place : InsertPosition} {estimate : Instant} {refusal : Refusal}
    (known : Service.insertedEstimate before place = .ok estimate) :
    before.insertedLanding place ≠ .error (.refused refusal) := by
  intro refused
  unfold Service.insertedEstimate at known
  unfold insertedLanding at refused
  cases place with
  | «at» time => cases refused
  | before target | after target =>
    -- The target is found, so that at most the clock overflows.
    cases found : before.flight? target with
    | none => simp [found] at known
    | some leader =>
      simp only [found] at refused
      rcases bind_eq_error.mp refused with refused | ⟨_, _, refused⟩
      · exact liftOverflow_ne_refused refused
      · cases refused

/-- A flight that passes the check is not refused at a place that is known. -/
theorem insertAdmitted_ne_refused {place : InsertPosition} {refusal : Refusal}
    (checked : before.checkNew flight = .ok ())
    (known : ∀ refusal, before.insertedLanding place ≠ .error (.refused refusal)) :
    before.insertAdmitted flight place ≠ .error (.refused refusal) := by
  intro refused
  unfold insertAdmitted at refused
  rcases bind_eq_error.mp refused with refused | ⟨_, _, refused⟩
  · rw [checked] at refused
    cases refused
  · rcases bind_eq_error.mp refused with refused | ⟨⟨time, runway⟩, _, refused⟩
    · exact known refusal refused
    · -- What is left to do may only overflow.
      rcases bind_eq_error.mp refused with refused | ⟨_, _, refused⟩
      · exact liftOverflow_ne_refused refused
      · cases refused

namespace Sound

variable (sound : before.Sound)
include sound

/-- The tracked flights of a sound sequence have distinct callsigns. -/
theorem distinct : DistinctCallsigns before.flights :=
  ((List.sublist_append_left _ _).map _).nodup sound.partitioned.knownOnce

/-- A flight that is taken out of its list has not been removed before. -/
theorem takeOut_alive {rest : Sequence} (taken : before.takeOut callsign = some (flight, rest)) :
    flight.state ≠ .removed := by
  intro gone
  rcases takeOut_eq_some taken with ⟨found, _⟩ | ⟨found, _⟩
  · have sequenced := sound.tracked flight (findFlight_mem found).1
    simp [gone, FlightState.isSequenced] at sequenced
  · have parked := sound.parked flight (findFlight_mem found).1
    simp [gone] at parked

/-- An insertion that is refused leaves no trace: the flight was not retired in the first place. -/
theorem insertFlight_refused {typeCode : Option String} {place : InsertPosition}
    {outcome : Outcome Sequence Unit} {refusal : Refusal}
    (chosen : service.insertedFlight before callsign typeCode place = .ok flight)
    (done : before.insertFlight (flight.activate now) place = .ok outcome)
    (refused : outcome.answer = .error refusal) : outcome.after = before := by
  have same := flight.activate_sameArrival now
  obtain ⟨_, rfl, ⟨refusal, failed, rfl⟩ | ⟨after, _, rfl⟩⟩ := insertFlight_cases done
  · -- The retirement is forgotten, so the point is that there was none.
    by_cases active : ∀ retired ∈ before.retired, retired.callsign ≠ flight.callsign
    · have all : before.retired.filter (·.callsign ≠ (flight.activate now).callsign)
          = before.retired := by
        refine List.filter_eq_self.mpr fun retired listed => ?_
        simpa [same.callsign] using active retired listed
      simp only [all]
    · push Not at active
      obtain ⟨retired, listed, named⟩ := active
      -- Otherwise the flight was held nowhere, so it was new, and is not refused.
      have unheld : ∀ other ∈ before.held, other.callsign ≠ flight.callsign := by
        rw [← named]
        exact sound.partitioned.retiredNotHeld retired listed
      rcases (insertedFlight_eq_ok chosen).2 with waiting | ⟨bound, _, estimate, known⟩
      · exact absurd rfl (unheld flight (List.mem_append_right _ waiting))
      · refine absurd failed (insertAdmitted_ne_refused (checkNew_eq_ok.mpr ⟨?_, ?_, ?_⟩) ?_)
        · exact same.destination.trans bound
        · rw [same.callsign]
          exact fun other member => unheld other (List.mem_append_left _ member)
        · exact fun other member => by simpa using (List.mem_filter.mp member).2
        · -- The place does not depend on what is retired.
          intro refusal lands
          exact insertedLanding_of_estimate known lands
  · cases refused

/-- A change that is refused leaves a sound sequence as it was. -/
theorem effect_refused {refusal : Refusal} (effect : service.Effect now before command outcome)
    (refused : outcome.answer = .error refusal) : outcome.after = before := by
  cases effect with
  | refused _ => rfl
  | inserted _ chosen done =>
    exact sound.insertFlight_refused chosen done (Outcome.map_refused.mp refused)
  | @removed callsign _ =>
    rcases remove_cases before callsign with
      missing | ⟨flight, rest, taken, ⟨gone, _⟩ | ⟨_, removed⟩⟩
    · simp only [Outcome.map, missing]
    · -- A flight that is found was not removed before.
      exact absurd gone (sound.takeOut_alive taken)
    · simp [Outcome.map, removed, Except.map] at refused
  | revised _ _ _ _ _ | parked _ _ _ _ | tracked _ _ _ | held _ _ | desequenced _ | resumed _ _ =>
    cases refused

/-- New records of the tracked flights, in whichever order, leave a sequence sound. -/
theorem revised {flights arranged : List Flight} {slots : List Slot} {mode : RunwayMode}
    {modeChange : Option ModeChange}
    (records : List.Forall₂ (Flight.Revised command) before.flights flights)
    (moved : arranged.Perm flights) :
    Sound { before with flights := arranged, slots, mode, modeChange } := by
  have renewed : before.Retains { before with flights } :=
    retains_revised (records.imp fun _ _ revised => revised.same)
  have arrangedSame : Retains { before with flights } { before with flights := arranged } :=
    .of_perm moved
  refine ⟨sound.partitioned.retained ((renewed.trans arrangedSame).trans retains_frame),
    fun flight member => ?_, sound.parked, sound.waiting⟩
  -- Each record is one of a flight that was in the chain of states before.
  obtain ⟨old, tracked, revised⟩ := exists_of_forall₂ records (moved.mem_iff.mp member)
  rw [revised.sequenced]
  exact sound.tracked old tracked

/-- A flight that is tracked in the chain of states leaves a sequence sound. -/
theorem tracked_added {added : Flight} {arranged : List Flight}
    (partitioned : Partitioned { before.dropPending callsign with flights := arranged })
    (moved : arranged.Perm (before.flights ++ [added])) (fits : added.state.isSequenced = true) :
    Sound { before.dropPending callsign with flights := arranged } := by
  refine ⟨partitioned, fun flight member => ?_, sound.parked, fun flight member => ?_⟩
  · rcases List.mem_append.mp (moved.mem_iff.mp member) with tracked | added
    · exact sound.tracked flight tracked
    · rw [List.mem_singleton.mp added]
      exact fits
  · exact sound.waiting flight (List.mem_filter.mp member).1

/-- To forget retirements leaves a sequence sound. -/
theorem remembered (keeps : RetiredFlight → Bool) :
    Sound { before with retired := before.retired.filter keeps } :=
  ⟨sound.partitioned.retained (.of_sublists rfl (.refl _) (.refl _) (.refl _) List.filter_sublist),
    sound.tracked, sound.parked, sound.waiting⟩

/-- To leave flights out, and to retire them, leaves a sequence sound. -/
theorem dropped (retains : before.Retains after) (flights : after.flights ⊆ before.flights)
    (desequenced : after.desequenced ⊆ before.desequenced)
    (pending : after.pending ⊆ before.pending) : after.Sound :=
  ⟨sound.partitioned.retained retains, fun flight member => sound.tracked flight (flights member),
    fun flight member => sound.parked flight (desequenced member),
    fun flight member => sound.waiting flight (pending member)⟩

/-- To insert a flight leaves a sequence sound, also if that is refused. -/
theorem inserted {typeCode : Option String} {place : InsertPosition}
    {outcome : Outcome Sequence Unit}
    (chosen : service.insertedFlight before callsign typeCode place = .ok flight)
    (done : before.insertFlight (flight.activate now) place = .ok outcome) :
    outcome.after.Sound := by
  have remembered := sound.remembered (·.callsign ≠ (flight.activate now).callsign)
  -- A pending flight may enter the chain of states, and a new one is at its beginning.
  have fits : (flight.activate now).state.isSequenced = true := by
    obtain ⟨_, _, same, _⟩ := flight.activate_frame now
    rw [same]
    rcases (insertedFlight_eq_ok chosen).2 with waiting | ⟨_, fresh, _⟩
    · exact sound.waiting flight waiting
    · simp only [fresh]
      rfl
  have partitioned := (sound.partitioned.insertFlight done).2
  obtain ⟨_, rfl, ⟨refusal, _, rfl⟩ | ⟨after, admitted, rfl⟩⟩ := insertFlight_cases done
  · exact remembered
  · obtain ⟨_, pinned, arranged, inserts, moved, rfl⟩ := insertAdmitted_eq_ok admitted
    exact remembered.tracked_added partitioned moved (inserts.state ▸ fits)

/-- Whatever a command does before the pass, the sequence stays sound. -/
theorem effect (effect : service.Effect now before command outcome) : outcome.after.Sound := by
  cases effect with
  | refused _ => exact sound
  | revised answer records moved _ _ => exact sound.revised records moved
  | @parked old _ found same state _ =>
    refine ⟨sound.partitioned.retained (retains_replaceParked found same), sound.tracked,
      fun flight member => ?_, sound.waiting⟩
    rcases mem_replaceFlight member with rfl | parked
    · rw [state]
      exact sound.parked old (findFlight_mem found).1
    · exact sound.parked flight parked
  | tracked fresh _ done =>
    have partitioned := (sound.partitioned.addFlight done).2
    obtain ⟨_, arranged, moved, rfl⟩ := addFlight_eq_ok done
    exact sound.tracked_added partitioned moved (by rw [fresh]; rfl)
  | held fresh done =>
    have partitioned := (sound.partitioned.upsertPending done).2
    obtain ⟨_, held⟩ := upsertPending_eq_ok done
    -- What is pending is the new flight or was pending before.
    have fits {other : Flight} : other.state = .new → other.state.isSequenced = true := by
      intro same
      rw [same]
      rfl
    rcases held with ⟨old, found, rfl⟩ | ⟨_, rfl⟩
    · refine ⟨partitioned, sound.tracked, sound.parked, fun flight member => ?_⟩
      rcases mem_replaceFlight member with rfl | waiting
      · exact fits fresh
      · exact sound.waiting flight waiting
    · refine ⟨partitioned, sound.tracked, sound.parked, fun flight member => ?_⟩
      rcases List.mem_append.mp member with waiting | added
      · exact sound.waiting flight waiting
      · rw [List.mem_singleton.mp added]
        exact fits fresh
  | inserted _ chosen done => exact sound.inserted chosen done
  | desequenced done =>
    have retains := desequence_retains done
    obtain ⟨flight, found, rfl⟩ := desequence_eq_ok done
    refine ⟨sound.partitioned.retained retains, fun other member => ?_, fun other member => ?_,
      sound.waiting⟩
    · exact sound.tracked other (List.eraseP_sublist.subset member)
    · rcases List.mem_append.mp member with parked | added
      · exact sound.parked other parked
      · rw [List.mem_singleton.mp added]
  | resumed _ done =>
    have retains := resume_retains done
    obtain ⟨flight, arranged, found, moved, rfl⟩ := resume_eq_ok done
    refine ⟨sound.partitioned.retained retains, fun other member => ?_, fun other member => ?_,
      sound.waiting⟩
    · rcases List.mem_append.mp (moved.mem_iff.mp member) with tracked | added
      · exact sound.tracked other tracked
      · -- A flight that is brought back is unstable.
        obtain ⟨_, _, same, _⟩ := Flight.activate_frame { flight with state := .unstable } now
        rw [List.mem_singleton.mp added, same]
        rfl
    · exact sound.parked other (List.eraseP_sublist.subset member)
  | @removed callsign _ =>
    have drops := remove_drops before callsign
    refine sound.dropped (remove_retains before callsign) drops.flights.subset
      drops.desequenced.subset ?_
    rw [Outcome.map, remove_pending]
    exact List.Subset.refl _

/-- A pass leaves a sequence sound. -/
theorem scheduled {result : Outcome Sequence Unit}
    (passed : scheduler.schedule before = .ok result) : result.after.Sound := by
  have retains := schedule_retains passed
  obtain ⟨turns, pass⟩ := Scheduler.exists_pass passed
  refine ⟨sound.partitioned.retained retains, fun flight member => ?_, fun flight member => ?_,
    fun flight member => ?_⟩
  · rcases pass.mem_after.mp member with ⟨tracked, _⟩ | ⟨turn, taken, rfl⟩
    · exact sound.tracked flight tracked
    · -- After its turn a flight is unstable.
      rw [pass.result_state taken]
      rfl
  · rw [pass.after] at member
    exact sound.parked flight member
  · rw [pass.after] at member
    exact sound.waiting flight member

/-- What a recomputation drops leaves a sequence sound. -/
theorem kept (done : service.kept now command before = .ok after) : after.Sound := by
  unfold Service.kept at done
  split at done
  · obtain ⟨landed, retired, _, _, rfl⟩ := Service.retain_eq_ok done
    -- Landed flights are retired, overdue ones are dropped, and old retirements are forgotten.
    refine ⟨sound.partitioned.retained ?_, fun flight member => ?_, sound.parked,
      fun flight member => ?_⟩
    · have purged := purgeLanded_retains before landed
      rw [purgeLanded_eq] at purged
      refine purged.trans (.of_sublists rfl (.refl _) (.refl _) ?_ ?_)
      · exact List.filter_sublist
      · exact List.filter_sublist
    · exact sound.tracked flight (List.mem_filter.mp member).1
    · exact sound.waiting flight (List.mem_filter.mp member).1
  · cases done
    exact sound

end Sound

end Sequence

end ArrivalManager
