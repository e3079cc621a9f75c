import ArrivalManager.Proofs.Flight.Current
import ArrivalManager.Proofs.Flight.Progress
import ArrivalManager.Proofs.Flight.Promotion
import ArrivalManager.Proofs.Schedule.Idempotence
import ArrivalManager.Proofs.Service.Commitment
import ArrivalManager.Proofs.Service.Invariant
import ArrivalManager.Proofs.Service.Provenance
import ArrivalManager.Proofs.Service.Publication

/-! Recomputations at one time: what the second one finds to do, and when that is nothing. -/

namespace ArrivalManager.Service

open Estimation

variable {service : Service} {registry : Registry} {airport : Airport} {name : String}
  {now : Instant} {old new flight : Flight} {before changed middle after : Sequence}
  {passed : Outcome Sequence Unit} {turns : List Turn} {turn : Turn} {reply reply' : Reply}

/-- Every sequence of a service is well-formed between commands. -/
theorem reachable_wellFormed (reachable : service.Reachable registry)
    (managed : before ∈ registry.sequences) : before.WellFormed := by
  refine reachable_invariant Sequence.wellFormed_of_airport ?_ reachable managed
  intro _ _ _ _ _ _ _ _ sound _ made pass kept
  exact ((sound.effect (effect_of_change made)).scheduled_wellFormed pass).dropped (kept_drops kept)

/-- The flights of a sequence that wait have the landing estimates that their runways give them. -/
def Steady (service : Service) (sequence : Sequence) : Prop :=
  ∀ flight ∈ sequence.flights, flight.state.isSchedulable = true →
    Gives (service.estimator.landingEstimate sequence.airport.identifier flight
      flight.landing.system) flight.landing.estimate

/-- Two records of a sequence in which no flight has different runways. -/
def SameRunways (before after : Sequence) : Prop :=
  ∀ old ∈ before.flights, ∀ new ∈ after.flights,
    new.callsign = old.callsign → new.runway = old.runway

instance (before after : Sequence) : Decidable (SameRunways before after) :=
  inferInstanceAs (Decidable (∀ old ∈ before.flights, ∀ new ∈ after.flights,
    new.callsign = old.callsign → new.runway = old.runway))

namespace Progresses

/-- The time brings a flight to one record only. -/
theorem unique {other : Flight} (one : service.Progresses airport now old new)
    (two : service.Progresses airport now old other) : new = other := by
  obtain ⟨_, refreshed, rfl⟩ := one
  obtain ⟨_, refreshed', rfl⟩ := two
  rw [refreshed.unique refreshed']

/-- A flight that has not landed by now had not landed before. -/
theorem airborne (progresses : service.Progresses airport now old new)
    (flies : new.state ≠ .landed) : old.state ≠ .landed := by
  obtain ⟨current, refreshed, rfl⟩ := progresses
  intro landed
  have state := (Estimator.refresh_keeps refreshed).2.trans landed
  exact flies (by simp [Flight.promote, state, Flight.promotedState])

/-- Unless it has landed, a flight has the estimates by now that its data give. -/
theorem current (progresses : service.Progresses airport now old new)
    (flies : new.state ≠ .landed) : service.estimator.Current airport now new := by
  have former := progresses.airborne flies
  obtain ⟨current, refreshed, rfl⟩ := progresses
  have upToDate := Estimator.current_of_refresh former refreshed
  -- A promotion concerns none of the estimates.
  exact ⟨Estimator.refreshFix_transfer upToDate.atFix rfl rfl, upToDate.landing⟩

/-- Nothing is left to promote by then. -/
theorem promoted (progresses : service.Progresses airport now old new) :
    new.promote now service.settings.thresholds = new := by
  obtain ⟨_, _, rfl⟩ := progresses
  exact Flight.promote_promote le_rfl

/-- As far as a time has brought a flight, it brings it no further. -/
theorem again (progresses : service.Progresses airport now old new) :
    service.Progresses airport now new new :=
  ⟨new, Estimator.refresh_self progresses.current, progresses.promoted.symm⟩

end Progresses

/-- An unstable flight that had its turn is as far as the time brings it, if its estimate stands. -/
theorem turn_progresses (pass : service.scheduler.Pass changed passed turns) (member : turn ∈ turns)
    (progresses : service.Progresses airport now old turn.flight)
    (unstable : turn.flight.state = .unstable)
    (steady : Gives (service.estimator.landingEstimate airport.identifier turn.result
      turn.result.landing.system) turn.result.landing.estimate) :
    service.Progresses airport now turn.result turn.result := by
  obtain ⟨rescheduled, state, shape⟩ := pass.result_frame member
  have known := pass.result_sameKnowledge member
  have position : turn.result.position = turn.flight.position := by rw [shape, rescheduled.others]
  have estimate : turn.result.landing.estimate = turn.flight.landing.estimate := by
    rw [shape, rescheduled.others]
  refine ⟨turn.result, Estimator.refresh_self fun _ => ⟨?_, steady⟩, ?_⟩
  · -- A turn concerns nothing from which the estimate at the fix is derived.
    have upToDate := progresses.current (by simp [unstable])
    exact Estimator.refreshFix_transfer upToDate.atFix known.knowledge position
  · -- Nor does it bring the flight any closer to becoming stable.
    have undue := (Flight.promote_self unstable).mp progresses.promoted
    rw [← Flight.isPromotionDue_unstable_congr known estimate] at undue
    exact ((Flight.promote_self (pass.result_state member)).mpr undue).symm

/-- A flight that has its turn when the time has passed was unstable before. -/
theorem turn_unstable (whole : before.WellFormed) (former : old ∈ before.flights)
    (pass : service.scheduler.Pass changed passed turns) (member : turn ∈ turns)
    (progresses : service.Progresses airport now old turn.flight) :
    turn.flight.state = .unstable := by
  refine FlightState.eq_unstable_of_schedulable (pass.mem_flights member).2 ?_
  obtain ⟨current, refreshed, same⟩ := progresses
  have known := (whole.tracked old former).1
  rw [← (Estimator.refresh_keeps refreshed).2] at known
  -- New estimates leave the state alone, and a promotion leads forward.
  rw [same]
  exact known.trans (Flight.le_promotedState _ _)

/-- What is dropped at a time is dropped at once, so nothing is left to drop. -/
theorem retain_again (first : service.retain before now = .ok middle)
    (second : service.retain middle now = .ok after) : after = middle := by
  obtain ⟨landed, retired, since, remembered, rfl⟩ := retain_eq_ok first
  obtain ⟨landed', retired', since', remembered', rfl⟩ := retain_eq_ok second
  obtain rfl := Except.ok.inj (since.symm.trans since')
  obtain rfl := Except.ok.inj (remembered.symm.trans remembered')
  have left : (before.flights.filter (not ∘ Sequence.hasLandedBefore landed)).filter
      (Sequence.hasLandedBefore landed) = [] := by
    refine List.filter_eq_nil_iff.mpr fun flight member => ?_
    simpa using (List.mem_filter.mp member).2
  dsimp only
  rw [left]
  simp [Function.comp_def]

/-- If every flight is still tracked then, no flight was dropped. -/
theorem retain_flights (distinct : DistinctCallsigns before.flights)
    (kept : service.retain before now = .ok after)
    (tracked : ∀ flight ∈ before.flights, ∃ later ∈ after.flights, later.callsign = flight.callsign) :
    after.flights = before.flights := by
  obtain ⟨landed, _, _, _, rfl⟩ := retain_eq_ok kept
  refine List.filter_eq_self.mpr fun flight member => ?_
  obtain ⟨later, remains, named⟩ := tracked flight member
  obtain ⟨listed, recent⟩ := List.mem_filter.mp remains
  -- The flight that is left under the callsign is the one that was there.
  rw [distinct.same listed member named] at recent
  exact recent

section Recomputed

variable (whole : before.WellFormed) (passing : Gives (service.passTime now before) changed)
  (pass : service.scheduler.schedule changed = .ok passed)
include whole passing pass

/-- After a recomputation, a flight is as the time has brought it, or unstable after its turn. -/
theorem exists_progress (member : flight ∈ passed.after.flights) :
    (∃ old ∈ before.flights, service.Progresses before.airport now old flight
        ∧ flight.state.isSchedulable = false)
      ∨ ∃ turns turn, service.scheduler.Pass changed passed turns ∧ turn ∈ turns
        ∧ turn.result = flight ∧ turn.flight.state = .unstable
        ∧ ∃ old ∈ before.flights, service.Progresses before.airport now old turn.flight := by
  obtain ⟨flights, arranged, records, moved, rfl⟩ := passTime_steps passing
  obtain ⟨turns, turned⟩ := Scheduler.exists_pass pass
  rcases turned.mem_after.mp member with ⟨tracked, settled⟩ | ⟨turn, taken, rfl⟩
  · obtain ⟨old, former, progresses⟩ := exists_of_forall₂ records (moved.mem_iff.mp tracked)
    exact .inl ⟨old, former, progresses, settled⟩
  · have tracked := (turned.mem_flights taken).1
    obtain ⟨old, former, progresses⟩ := exists_of_forall₂ records (moved.mem_iff.mp tracked)
    exact .inr ⟨turns, turn, turned, taken, rfl, turn_unstable whole former turned taken progresses,
      old, former, progresses⟩

/-- No flight is new to a recomputed sequence. -/
theorem exists_former (member : flight ∈ passed.after.flights) :
    ∃ old ∈ before.flights, old.callsign = flight.callsign := by
  have named {airport : Airport} {old new : Flight}
      (progresses : service.Progresses airport now old new) : old.callsign = new.callsign := by
    have revised : old.Revised .recompute new := progresses.revised
    exact revised.same.callsign.symm
  rcases exists_progress whole passing pass member with
    ⟨old, former, progresses, _⟩ | ⟨turns, turn, turned, taken, rfl, _, old, former, progresses⟩
  · exact ⟨old, former, named progresses⟩
  · exact ⟨old, former, (named progresses).trans (turned.result_callsign taken).symm⟩

/-- Where the flights that wait have steady estimates, the time brings no flight any further. -/
theorem recomputed_progresses (airport : middle.airport = before.airport)
    (remaining : middle.flights ⊆ passed.after.flights) (steady : service.Steady middle)
    (member : flight ∈ middle.flights) : service.Progresses middle.airport now flight flight := by
  rcases exists_progress whole passing pass (remaining member) with
    ⟨old, _, progresses, _⟩ | ⟨turns, turn, turned, taken, rfl, unstable, old, _, progresses⟩
  · rw [airport]
    exact progresses.again
  · rw [← airport] at progresses
    refine turn_progresses turned taken progresses unstable (steady turn.result member ?_)
    rw [turned.result_state taken]
    rfl

/-- Flights that a recomputation leaves on their runways have steady estimates. -/
theorem recomputed_steady (airport : middle.airport = before.airport)
    (remaining : middle.flights ⊆ passed.after.flights) (runways : SameRunways before middle) :
    service.Steady middle := by
  intro flight member waits
  rcases exists_progress whole passing pass (remaining member) with
    ⟨_, _, _, settled⟩ | ⟨turns, turn, turned, taken, rfl, unstable, old, former, progresses⟩
  · exact absurd (waits.symm.trans settled) (by decide)
  · have upToDate := progresses.current (by simp [unstable])
    obtain ⟨current, refreshed, same⟩ := progresses
    obtain ⟨_, _, shape⟩ := Estimator.refresh_frame refreshed
    have named : turn.result.callsign = old.callsign := by
      rw [turned.result_callsign taken, same, shape]
      rfl
    have runway : turn.result.runway = turn.flight.runway := by
      rw [runways old former turn.result member named, same, shape]
      rfl
    obtain ⟨rescheduled, state, result⟩ := turned.result_frame taken
    have landing := upToDate.landing
    -- All that the landing is estimated from is as it was, the runway included.
    have known := turned.result_sameKnowledge taken
    rw [airport, Estimator.landingEstimate_congr _ _ known.knowledge runway
      (by rw [result, rescheduled.others]) (by rw [result, rescheduled.others])]
    rw [result, rescheduled.others]
    exact landing

/-- A flight that is still tracked under its callsign was not dropped, so none was. -/
theorem recomputed_flights (distinct : DistinctCallsigns changed.flights)
    (kept : service.retain passed.after now = .ok middle)
    (tracked : ∀ flight ∈ before.flights,
      ∃ later ∈ middle.flights, later.callsign = flight.callsign) :
    middle.flights = passed.after.flights := by
  obtain ⟨turns, turned⟩ := Scheduler.exists_pass pass
  refine retain_flights (distinct.perm turned.callsigns_perm) kept fun flight member => ?_
  obtain ⟨old, former, named⟩ := exists_former whole passing pass member
  rw [← named]
  exact tracked old former

omit whole in
/-- A change of the mode that is planned after a recomputation was not due by then. -/
theorem recomputed_undue (change : ModeChange) (planned : passed.after.modeChange = some change) :
    now < change.firstLanding := by
  obtain ⟨turns, turned⟩ := Scheduler.exists_pass pass
  obtain ⟨_, _, _, _, rfl⟩ := passTime_steps passing
  rw [turned.after] at planned
  exact Sequence.trySwapModes_undue planned

end Recomputed

/-- Where the time brings no flight any further, its passage changes their order at most. -/
theorem passTime_settled
    (settled : ∀ flight ∈ before.flights, service.Progresses before.airport now flight flight)
    (undue : ∀ change, before.modeChange = some change → now < change.firstLanding)
    (passing : Gives (service.passTime now before) after) :
    ∃ arranged, arranged.Perm before.flights ∧ after = { before with flights := arranged } := by
  obtain ⟨flights, arranged, records, moved, rfl⟩ := passTime_steps passing
  have same : before.flights = flights := by
    rw [← List.forall₂_eq_eq_eq]
    refine ((List.forall₂_and_left _ _).mpr ⟨settled, records⟩).imp ?_
    exact fun _ _ both => both.1.unique both.2
  rw [Sequence.trySwapModes_of_undue undue, same]
  exact ⟨arranged, moved, rfl⟩

/-- To recompute a sequence again changes nothing, if no flight was dropped and all are steady. -/
theorem recomputed_again {changed' : Sequence} {passed' : Outcome Sequence Unit}
    {fresh fresh' : SlotId} {slot slot' : Option SlotId}
    (sound : before.Sound) (whole : before.WellFormed)
    (made : Gives (service.change now fresh .recompute before) ⟨.ok slot, changed⟩)
    (pass : service.scheduler.schedule changed = .ok passed) (answered : passed.answer = .ok ())
    (kept : service.kept now .recompute passed.after = .ok middle)
    (tracked : ∀ flight ∈ before.flights, ∃ later ∈ middle.flights, later.callsign = flight.callsign)
    (steady : service.Steady middle)
    (made' : Gives (service.change now fresh' .recompute middle) ⟨.ok slot', changed'⟩)
    (pass' : service.scheduler.schedule changed' = .ok passed')
    (kept' : service.kept now .recompute passed'.after = .ok after) : after = middle := by
  obtain ⟨_, passing, same⟩ := change_recompute made
  cases same
  obtain ⟨_, passing', same'⟩ := change_recompute made'
  cases same'
  have distinct := (sound.effect (effect_of_change made)).distinct
  obtain ⟨turns, one⟩ := Scheduler.exists_pass pass
  obtain ⟨_, _, _, _, shape⟩ := retain_eq_ok kept
  have flights : middle.flights = passed.after.flights :=
    recomputed_flights whole passing pass distinct kept tracked
  have undue : ∀ change, middle.modeChange = some change → now < change.firstLanding := by
    rw [shape]
    exact recomputed_undue passing pass
  have settled : ∀ flight ∈ middle.flights,
      service.Progresses middle.airport now flight flight := fun flight member =>
    recomputed_progresses whole passing pass (scheduled_airport made pass kept)
      (kept_drops kept).flights.subset steady member
  -- So the second pass finds what the first one left, in another order at most.
  obtain ⟨arranged, moved, rfl⟩ := passTime_settled settled undue passing'
  obtain ⟨turns', two⟩ := Scheduler.exists_pass pass'
  have setting : changed.SameSetting { middle with flights := arranged } := by
    rw [shape, one.after]
    exact ⟨rfl, rfl, rfl, .refl _⟩
  have again := one.flights_again distinct answered two setting (flights ▸ moved)
  have unchanged : passed'.after = middle := by
    have rest : passed'.after = { middle with flights := passed'.after.flights } := by
      rw [two.after]
    rw [rest, again, ← flights]
  rw [unchanged] at kept'
  exact retain_again kept kept'

/-- A recomputation that is answered without refusal is carried out, by a pass without a failure. -/
theorem exists_recomputation (reachable : service.Reachable registry)
    (first : service.Replies registry ⟨name, now, .recompute⟩ reply)
    (answered : reply.answer.isOk = true)
    (found : registry.sequence? name = some before)
    (found' : reply.registry.sequence? name = some middle) :
    before.Sound ∧ before.WellFormed ∧ ∃ changed slot passed,
      Gives (service.change now registry.nextSlot .recompute before) ⟨.ok slot, changed⟩
        ∧ service.scheduler.schedule changed = .ok passed ∧ passed.answer = .ok ()
        ∧ service.kept now .recompute passed.after = .ok middle := by
  obtain ⟨_, former, sound, succession⟩ := exists_predecessor reachable first found'
  obtain rfl := Option.some.inj (found.symm.trans former)
  refine ⟨sound, reachable_wellFormed reachable (List.mem_of_find?_eq_some found), ?_⟩
  cases succession with
  | unchanged rejected =>
    have refused := rejected rfl
    unfold Reply.isRejected at refused
    cases answer : reply.answer <;>
      simp [answer, Except.isOk, Except.toBool] at answered refused
  | @carried changed _ slot passed _ answer made pass kept =>
    refine ⟨changed, slot, passed, made, pass, ?_, kept⟩
    rw [answer] at answered
    cases same : passed.answer <;>
      simp [same, Except.map, Except.isOk, Except.toBool] at answered ⊢

/-- A recomputation that moves no flight to another runway leaves steady estimates. -/
theorem recompute_steady (reachable : service.Reachable registry)
    (first : service.Replies registry ⟨name, now, .recompute⟩ reply)
    (answered : reply.answer.isOk = true)
    (found : registry.sequence? name = some before)
    (found' : reply.registry.sequence? name = some middle)
    (runways : SameRunways before middle) : service.Steady middle := by
  obtain ⟨_, whole, changed, slot, passed, made, pass, _, kept⟩ :=
    exists_recomputation reachable first answered found found'
  obtain ⟨_, passing, same⟩ := change_recompute made
  cases same
  exact recomputed_steady whole passing pass (scheduled_airport made pass kept)
    (kept_drops kept).flights.subset runways

/--
A recomputation right after one that was answered without refusal changes nothing at all.

The first one must not have dropped a flight, whose landing would not be in the way any more. And it
must leave the flights that wait with the landing estimates that their runways give them, as it does
unless it moves a flight to another runway.
-/
theorem recompute_settles (reachable : service.Reachable registry)
    (first : service.Replies registry ⟨name, now, .recompute⟩ reply)
    (answered : reply.answer.isOk = true)
    (found : registry.sequence? name = some before)
    (found' : reply.registry.sequence? name = some middle)
    (tracked : ∀ flight ∈ before.flights, ∃ later ∈ middle.flights, later.callsign = flight.callsign)
    (steady : service.Steady middle)
    (second : service.Replies reply.registry ⟨name, now, .recompute⟩ reply') :
    reply'.registry.sequence? name = some middle := by
  obtain ⟨sound, whole, changed, slot, passed, made, pass, succeeded, kept⟩ :=
    exists_recomputation reachable first answered found found'
  have reached : service.Reachable reply.registry := .replied reachable first
  obtain ⟨after, found'', succession⟩ := exists_succession (reachable_sound reached) second found'
  rw [found'']
  cases succession with
  | unchanged _ => rfl
  | carried _ _ made' pass' kept' =>
    exact congrArg some (recomputed_again sound whole made pass succeeded kept tracked steady
      made' pass' kept')

/-- The replies to a call, and to the same call once more. -/
def repeated (service : Service) (registry : Registry) (call : Call) : Option (Reply × Reply) :=
  (service.execute registry call.airport call.now call.command).toOption.bind fun first =>
    (service.execute first.registry call.airport call.now call.command).toOption.map (first, ·)

/-- A call that is repeated is replied to twice. -/
theorem replies_of_repeated {call : Call}
    (replied : service.repeated registry call = some (reply, reply')) :
    service.Replies registry call reply ∧ service.Replies reply.registry call reply' := by
  obtain ⟨first, executed, replied⟩ := Option.bind_eq_some_iff.mp replied
  obtain ⟨second, again, same⟩ := Option.map_eq_some_iff.mp replied
  cases same
  exact ⟨replies_of_toOption executed, replies_of_toOption again⟩

/-- A service that does not know where feeder fixes are, so that no flight has to come closer. -/
def sampleUnplaced : Service := { sampleStandard with fixes := fun _ => none }

/-- The sample airport, with landings on one runway only in each of its modes. -/
def sampleSingles : Airport :=
  { Airport.sample with modes := [
      { northMode with runways := [sampleRunway "34R" [] [] ["RIVET"]] },
      { southMode with runways := [sampleRunway "16R" [] [] ["RIVET"]] }] }

/-- A flight gets another landing time by one recomputation, and keeps it after the next one. -/
theorem recompute_settles_sampleSingles :
    ∃ reached first second middle, sampleUnplaced.Reachable reached
      ∧ sampleUnplaced.Replies reached ⟨"YSSY", .epoch, .recompute⟩ first
      ∧ sampleUnplaced.Replies first.registry ⟨"YSSY", .epoch, .recompute⟩ second
      ∧ second.registry.sequence? "YSSY" = some middle
      ∧ middle.flights.map (·.landing.scheduled) = [.sampleSeconds 1020] := by
  obtain ⟨created, founded⟩ : ∃ created, Registry.empty.create sampleSingles = .ok created :=
    ⟨_, rfl⟩
  obtain ⟨reached, followed, ⟨first, second⟩, replied, answered, before, found, middle, found',
      tracked, runways, scheduled⟩ :
      ∃ reached ∈ sampleUnplaced.follow (fun _ _ => True) created
          [sampleBound "RIVET" .epoch none],
        ∃ replied ∈ sampleUnplaced.repeated reached ⟨"YSSY", .epoch, .recompute⟩,
          replied.1.answer.isOk = true ∧ ∃ before ∈ reached.sequence? "YSSY",
            ∃ middle ∈ replied.1.registry.sequence? "YSSY",
              (∀ flight ∈ before.flights,
                  ∃ later ∈ middle.flights, later.callsign = flight.callsign)
                ∧ SameRunways before middle
                ∧ middle.flights.map (·.landing.scheduled)
                  = [.sampleSeconds 1020] := by
    cases founded
    decide +kernel
  obtain ⟨replies, replies'⟩ := replies_of_repeated replied
  have reachable : sampleUnplaced.Reachable reached :=
    (reaches_of_follow followed).reachable (.created .empty founded)
  have steady := recompute_steady reachable replies answered found found' runways
  exact ⟨reached, first, second, middle, reachable, replies, replies',
    recompute_settles reachable replies answered found found' tracked steady replies', scheduled⟩

/-- A call that is answered without refusal, and then moves a flight when it is repeated at once. -/
def Unsettled (service : Service) (registry : Registry) (call : Call) : Prop :=
  ∃ first second middle after, service.Replies registry call first ∧ first.answer.isOk = true
    ∧ service.Replies first.registry call second
    ∧ first.registry.sequence? call.airport = some middle
    ∧ second.registry.sequence? call.airport = some after
    ∧ ∃ flight ∈ middle.flights, ∃ later ∈ after.flights,
      later.callsign = flight.callsign ∧ ¬ flight.Honours later

/-- A runway is closed for some minutes over a change of the mode, and a flight is reported. -/
def sampleSwing : List Call :=
  [⟨"YSSY", .epoch, .createSlot (.sampleSeconds 960) (.sampleSeconds 1200) ["34R"]⟩,
    ⟨"YSSY", .epoch, .scheduleModeChange "16IVA" (.sampleSeconds 1080) (.sampleSeconds 1140)⟩,
    sampleBound "RIVET" .epoch none]

/-- A flight is overdue when another one is reported that was expected right behind it. -/
def sampleOvertaken : List Call :=
  [⟨"YSSY", .epoch, .updateFlight { sampleUpdate "QFA1" "B789" with landing := .epoch }⟩,
    ⟨"YSSY", .sampleSeconds 390, .updateFlight { sampleUpdate "VOZ2" "B738" with
      landing := .sampleSeconds 60 }⟩]

/-- Six minutes and forty seconds after the epoch, time is accounted for. -/
def sampleLate : Call := ⟨"YSSY", .sampleSeconds 400, .recompute⟩

/-- A flight that has different landing times after two calls is not settled by the first one. -/
theorem unsettled_of_repeated {call : Call} {callsign : Callsign}
    (replied : service.repeated registry call = some (reply, reply'))
    (answered : reply.answer.isOk = true)
    (moved : ∃ flight ∈ reply.registry.tracked? call.airport callsign,
      ∃ later ∈ reply'.registry.tracked? call.airport callsign,
        later.landing.scheduled ≠ flight.landing.scheduled) : service.Unsettled registry call := by
  obtain ⟨flight, tracked, later, tracked', differ⟩ := moved
  obtain ⟨middle, found, listed, named⟩ := tracked?_eq_some tracked
  obtain ⟨after, found', listed', named'⟩ := tracked?_eq_some tracked'
  obtain ⟨replies, replies'⟩ := replies_of_repeated replied
  exact ⟨reply, reply', middle, after, replies, answered, replies', found, found', flight, listed,
    later, listed', named'.trans named.symm, fun stands => differ stands.scheduled⟩

/--
Recomputations at one time need not settle.

A flight may swing between two runways, each of which is the better one by the estimate that the
other one gives. And a flight may move up when one is dropped that it was kept away from.
-/
theorem recompute_unsettled_samples :
    (∃ reached, sampleUnplaced.Reachable reached
        ∧ sampleUnplaced.Unsettled reached ⟨"YSSY", .epoch, .recompute⟩)
      ∧ ∃ reached, sampleStandard.Reachable reached
        ∧ sampleStandard.Unsettled reached sampleLate := by
  constructor
  · obtain ⟨created, founded⟩ : ∃ created, Registry.empty.create sampleSingles = .ok created :=
      ⟨_, rfl⟩
    obtain ⟨reached, followed, ⟨first, second⟩, replied, answered, moved⟩ :
        ∃ reached ∈ sampleUnplaced.follow (fun _ _ => True) created sampleSwing,
          ∃ replied ∈ sampleUnplaced.repeated reached ⟨"YSSY", .epoch, .recompute⟩,
            replied.1.answer.isOk = true ∧ ∃ flight ∈ replied.1.registry.tracked? "YSSY" "QFA1",
              ∃ later ∈ replied.2.registry.tracked? "YSSY" "QFA1",
                later.landing.scheduled ≠ flight.landing.scheduled := by
      cases founded
      decide +kernel
    exact ⟨reached, (reaches_of_follow followed).reachable (.created .empty founded),
      unsettled_of_repeated replied answered moved⟩
  · let airport : Airport := { Airport.sample with modes := [singleMode] }
    obtain ⟨created, founded⟩ : ∃ created, Registry.empty.create airport = .ok created :=
      ⟨_, rfl⟩
    obtain ⟨reached, followed, ⟨first, second⟩, replied, answered, moved⟩ :
        ∃ reached ∈ sampleStandard.follow (fun _ _ => True) created sampleOvertaken,
          ∃ replied ∈ sampleStandard.repeated reached sampleLate,
            replied.1.answer.isOk = true ∧ ∃ flight ∈ replied.1.registry.tracked? "YSSY" "VOZ2",
              ∃ later ∈ replied.2.registry.tracked? "YSSY" "VOZ2",
                later.landing.scheduled ≠ flight.landing.scheduled := by
      cases founded
      -- Two flights are sorted by insertion, which can be evaluated.
      simp only [sampleOvertaken, follow, repeated, execute, Scheduler.schedule, Scheduler.waiting,
        sortFlights, mergeSort_eq_insertionSort]
      decide +kernel
    exact ⟨reached, (reaches_of_follow followed).reachable (.created .empty founded),
      unsettled_of_repeated replied answered moved⟩

end ArrivalManager.Service
