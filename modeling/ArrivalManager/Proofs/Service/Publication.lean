import ArrivalManager.Service.Ticks
import ArrivalManager.Proofs.Sequence.Order
import ArrivalManager.Proofs.Service.Atomicity

/-! What a service publishes: sequences in order, with every flight in a fitting state. -/

namespace ArrivalManager

namespace Sequence.Sound

variable {scheduler : Scheduler} {before : Sequence} {outcome : Outcome Sequence Unit}

/-- Whatever a pass reports, it leaves the flights of a sound sequence well-formed. -/
theorem scheduled_wellFormed (sound : before.Sound)
    (passed : scheduler.schedule before = .ok outcome) : outcome.after.WellFormed := by
  obtain ⟨turns, pass⟩ := Scheduler.exists_pass passed
  have distinct : DistinctCallsigns outcome.after.flights := sound.distinct.perm pass.callsigns_perm
  refine ⟨?_, ?_, ?_⟩
  · -- The flights are sorted at the end, each under a callsign of its own.
    rw [pass.after] at distinct ⊢
    apply sortFlights_pairwise
    exact distinct.perm ((sortFlights_perm _).map _).symm
  · intro flight member
    rcases pass.mem_after.mp member with ⟨tracked, settled⟩ | ⟨turn, taken, rfl⟩
    · -- A flight that does not wait keeps its state, which is one of the later ones.
      exact FlightState.bounds_of_settled (sound.tracked flight tracked) settled
    · -- After its turn a flight is unstable, also if it could not be scheduled.
      rw [pass.result_state taken]
      decide
  · -- A pass does not concern the flights that were taken out.
    intro flight member
    rw [pass.after] at member
    exact sound.parked flight member

end Sequence.Sound

namespace Service

variable {service : Service} {registry : Registry} {published : List Snapshot} {airport : String}
  {now : Instant} {command : Command} {reply : Reply}

/-- The registries that a service can come to have, each with all that was published by then. -/
inductive Publishes (service : Service) : Registry → List Snapshot → Prop where
  | empty : Publishes service .empty []
  | created {registry start : Registry} {published : List Snapshot} {airport : Airport}
    (before : Publishes service registry published)
    (done : registry.create airport = .ok start) : Publishes service start published
  | removed {registry rest : Registry} {published : List Snapshot} {airport : String}
    (before : Publishes service registry published)
    (done : registry.remove airport = .ok rest) : Publishes service rest published
  | replied {registry : Registry} {published : List Snapshot} {call : Call} {reply : Reply}
    (before : Publishes service registry published)
    (done : service.Replies registry call reply) :
    Publishes service reply.registry (published ++ reply.published.toList)

/-- Whatever was published by then, a service can come to its registry. -/
theorem Publishes.reachable (run : service.Publishes registry published) :
    service.Reachable registry := by
  induction run with
  | empty => exact .empty
  | created _ done ih => exact .created ih done
  | removed _ done ih => exact .removed ih done
  | replied _ done ih => exact .replied ih done

/-- Wherever a service can come to, it has published something by then, or nothing. -/
theorem Reachable.publishes (reachable : service.Reachable registry) :
    ∃ published, service.Publishes registry published := by
  induction reachable with
  | empty => exact ⟨[], .empty⟩
  | created _ done ih => exact ih.imp fun _ before => .created before done
  | removed _ done ih => exact ih.imp fun _ before => .removed before done
  | replied _ done ih =>
    obtain ⟨published, before⟩ := ih
    exact ⟨_, .replied before done⟩

/-- What regular recomputations publish is published too, in the same order. -/
theorem Publishes.ticked {clock : Nat → Except Overflow Instant} {reading remaining : Nat}
    {run : TickRun} (before : service.Publishes registry published)
    (ticked : service.tickTimes airport clock registry reading remaining = .ok run) :
    service.Publishes run.registry (published ++ run.published) := by
  induction remaining generalizing registry published reading run with
  | zero =>
    cases ticked
    rw [List.append_nil]
    exact before
  | succ remaining ih =>
    unfold tickTimes at ticked
    obtain ⟨now, _, ticked⟩ := bind_eq_ok.mp ticked
    obtain ⟨reply, done, ticked⟩ := bind_eq_ok.mp ticked
    have replies : service.Replies registry ⟨airport, now, .recompute⟩ reply := .executed done
    have after := Publishes.replied before replies
    split at ticked
    · -- An airport that is not managed ends the run.
      cases pure_eq_ok.mp ticked
      exact after
    · obtain ⟨rest, further, ticked⟩ := bind_eq_ok.mp ticked
      cases pure_eq_ok.mp ticked
      have last := ih after further
      rw [List.append_assoc] at last
      exact last

/-- What comes of a command is well-formed, whatever comes of it, and so is what it publishes. -/
theorem execution_wellFormed (sound : registry.Sound)
    (whole : ∀ sequence ∈ registry.sequences, sequence.WellFormed)
    (execution : service.Execution registry airport now command reply) :
    (∀ sequence ∈ reply.registry.sequences, sequence.WellFormed)
      ∧ ∀ snapshot ∈ reply.published, snapshot.WellFormed := by
  cases execution with
  | unmanaged _ => exact ⟨whole, by simp⟩
  | @refused before after refusal misses found made =>
    refine ⟨?_, by simp⟩
    intro sequence managed
    -- In a sound sequence, a change that is refused leaves no trace.
    obtain rfl : after = before :=
      (sound.sequence? found).effect_refused (effect_of_change made) rfl
    rcases Registry.mem_replace managed with rfl | former
    · exact whole sequence (List.mem_of_find?_eq_some found)
    · exact whole sequence former
  | @scheduled before changed after slot passed misses found made pass kept =>
    -- The pass puts the flights in order, and what is dropped after it leaves them there.
    have changedSound := (sound.sequence? found).effect (effect_of_change made)
    have passedWhole := changedSound.scheduled_wellFormed pass
    have afterWhole : after.WellFormed := passedWhole.dropped (kept_drops kept)
    refine ⟨?_, ?_⟩
    · intro sequence managed
      rcases Registry.mem_replace managed with rfl | former
      · exact afterWhole
      · exact whole sequence former
    · -- The one snapshot shows what the pass and the clearing of old entries have left.
      intro snapshot shown
      cases shown
      exact afterWhole.snapshot now

/--
Every sequence of a service is well-formed, and so is everything that it ever published.

This holds whatever the service was told to do, also if a pass could not schedule some flight, and
after recomputations that drop flights from what the pass had put in order.
-/
theorem publishes_wellFormed (run : service.Publishes registry published) :
    (∀ sequence ∈ registry.sequences, sequence.WellFormed)
      ∧ ∀ snapshot ∈ published, snapshot.WellFormed := by
  induction run with
  | empty => exact ⟨fun sequence managed => absurd managed List.not_mem_nil, by simp⟩
  | created _ done ih =>
    refine ⟨?_, ih.2⟩
    intro sequence managed
    rcases Registry.mem_create done managed with founded | former
    · exact Sequence.wellFormed_of_airport founded
    · exact ih.1 sequence former
  | removed _ done ih =>
    refine ⟨?_, ih.2⟩
    intro sequence managed
    exact ih.1 sequence (Registry.mem_remove done managed)
  | replied before done ih =>
    cases done with
    | abandoned _ =>
      -- A recomputation that is given up changes nothing and publishes nothing.
      rw [Option.toList_none, List.append_nil]
      exact ih
    | executed done =>
      have sound := reachable_sound before.reachable
      obtain ⟨whole, shown⟩ := execution_wellFormed sound ih.1 (execution_of_execute done)
      refine ⟨whole, ?_⟩
      -- A snapshot was published before, or it is the one of this command.
      intro snapshot listed
      rcases List.mem_append.mp listed with earlier | latest
      · exact ih.2 snapshot earlier
      · exact shown snapshot (Option.mem_toList.mp latest)

/-- One flight is reported and taken out, and another one is reported that lands before it. -/
def sampleReports : List Call :=
  let later := { sampleUpdate "VOZ2" "B738" with landing := .sampleSeconds 4800 }
  [⟨"YSSY", .epoch, .updateFlight later⟩, ⟨"YSSY", .epoch, .desequence "VOZ2"⟩,
    ⟨"YSSY", .epoch, .updateFlight (sampleUpdate "QFA1" "B789")⟩]

/-- A third flight is reported and becomes stable, and the one that was taken out is resumed. -/
def sampleResumption : List Call :=
  let report := { sampleUpdate "JST3" "A320" with landing := .sampleSeconds 3900 }
  [⟨"YSSY", .sampleSeconds 2400, .updateFlight report⟩, ⟨"YSSY", .sampleSeconds 3000, .recompute⟩,
    ⟨"YSSY", .sampleSeconds 3000, .resume "VOZ2"⟩]

/--
What is published while one flight lands and is purged and another one is taken out is well-formed.

So is the sequence that comes of it when two flights are tracked again.
-/
theorem publishes_wellFormed_sampleTicks :
    ∃ start reached run last,
      Registry.empty.create { Airport.sample with modes := [singleMode] } = .ok start
        ∧ sampleStandard.follow (fun _ _ => True) start sampleReports = some reached
        ∧ sampleStandard.tickTimes "YSSY" (steppedClock .epoch (.ofMinutes 20)) reached 0 3 = .ok run
        ∧ run.published.map (fun snapshot =>
            (snapshot.flights.map (·.callsign), snapshot.desequenced.map (·.callsign)))
          = [(["QFA1"], ["VOZ2"]), (["QFA1"], ["VOZ2"]), ([], ["VOZ2"])]
        ∧ (∀ snapshot ∈ run.published, snapshot.WellFormed)
        ∧ sampleStandard.follow (fun _ _ => True) run.registry sampleResumption = some last
        ∧ ∀ sequence ∈ last.sequences, sequence.WellFormed := by
  let airport : Airport := { Airport.sample with modes := [singleMode] }
  obtain ⟨start, created⟩ : ∃ start, Registry.empty.create airport = .ok start := ⟨_, rfl⟩
  have computed : ((sampleStandard.follow (fun _ _ => True) start sampleReports).bind fun reached =>
      (sampleStandard.tickTimes "YSSY" (steppedClock .epoch (.ofMinutes 20)) reached 0 3).toOption.bind
        fun run => if (sampleStandard.follow (fun _ _ => True) run.registry sampleResumption).isSome
          then some (run.published.map fun snapshot =>
            (snapshot.flights.map (·.callsign), snapshot.desequenced.map (·.callsign)))
          else none)
      = some [(["QFA1"], ["VOZ2"]), (["QFA1"], ["VOZ2"]), ([], ["VOZ2"])] := by
    cases created
    decide +kernel
  obtain ⟨reached, followed, computed⟩ := Option.bind_eq_some_iff.mp computed
  obtain ⟨run, ticked, computed⟩ := Option.bind_eq_some_iff.mp computed
  rw [toOption_eq_some] at ticked
  split at computed
  · rename_i resumed
    obtain ⟨last, resumed⟩ := Option.isSome_iff_exists.mp resumed
    have reachable : sampleStandard.Reachable reached :=
      (reaches_of_follow followed).reachable (.created .empty created)
    obtain ⟨published, before⟩ := reachable.publishes
    have ran := before.ticked ticked
    obtain ⟨_, after⟩ := ((reaches_of_follow resumed).reachable ran.reachable).publishes
    refine ⟨start, reached, run, last, created, followed, ticked, Option.some.inj computed,
      fun snapshot listed => ?_, resumed, (publishes_wellFormed after).1⟩
    exact (publishes_wellFormed ran).2 snapshot (List.mem_append_right _ listed)
  · cases computed

end Service

end ArrivalManager
