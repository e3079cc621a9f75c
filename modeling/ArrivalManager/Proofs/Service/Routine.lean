import ArrivalManager.Proofs.Schedule.Pass
import ArrivalManager.Proofs.Sequence.Routine
import ArrivalManager.Proofs.Service.Effect

/-! The commands of routine operation change a sequence only in ways that keep promises. -/

namespace ArrivalManager.Service

open Estimation

variable {service : Service} {sequence after : Sequence} {now : Instant} {command : Command}
  {fresh : SlotId} {outcome : Outcome Sequence (Option SlotId)}

/-- Whatever a routine command changes before the pass, it keeps what was promised. -/
theorem change_carries (routine : command.isRoutine = true)
    (given : Gives (service.change now fresh command sequence) outcome) :
    sequence.Carries outcome.after := by
  cases effect_of_change given with
  | refused _ => exact .refl sequence
  | revised answer records moved unplanned _ =>
    have kept := records.imp fun _ _ revised => And.intro (revised.keeps routine) revised.sequenced
    exact Sequence.carries_records kept moved (unplanned routine)
  | parked found _ _ keeps => exact Sequence.carries_replaceParked found keeps
  | tracked fresh delegated done =>
    exact Sequence.addFlight_carries done delegated (by rw [fresh]; rfl)
  | held _ done => exact .of_rearranges (Sequence.upsertPending_rearranges done)
  | inserted ordered _ _ =>
    -- A controller who inserts a flight decides about its landing.
    rw [ordered] at routine
    cases routine
  | desequenced done => exact Sequence.desequence_carries done
  | resumed _ done => exact Sequence.resume_carries done
  | removed _ => exact (Sequence.remove_drops sequence _).carries

/-- A change that is refused leaves at most flights out. -/
theorem change_refused {refusal : Refusal}
    (given : Gives (service.change now fresh command sequence) outcome)
    (refused : outcome.answer = .error refusal) : sequence.Drops outcome.after := by
  cases effect_of_change given with
  | refused _ => exact .refl sequence
  | inserted _ _ done =>
    -- Only the retirement of the flight may be forgotten.
    obtain ⟨_, rfl, ⟨_, _, rfl⟩ | ⟨_, _, rfl⟩⟩ := Sequence.insertFlight_cases done
    · exact ⟨rfl, rfl, rfl, .refl _, .refl _⟩
    · cases refused
  | removed _ => exact Sequence.remove_drops sequence _
  | revised _ _ _ _ _ | parked _ _ _ _ | tracked _ _ _ | held _ _ | desequenced _ | resumed _ _ =>
    cases refused

/-- No command moves a sequence to another airport. -/
theorem change_airport (given : Gives (service.change now fresh command sequence) outcome) :
    outcome.after.airport = sequence.airport := by
  cases effect_of_change given with
  | refused _ | revised _ _ _ _ _ | parked _ _ _ _ => rfl
  | tracked _ _ done =>
    obtain ⟨_, _, _, rfl⟩ := Sequence.addFlight_eq_ok done
    rfl
  | held _ done => exact (Sequence.upsertPending_rearranges done).airport
  | inserted _ _ done =>
    obtain ⟨_, rfl, ⟨_, _, rfl⟩ | ⟨_, admitted, rfl⟩⟩ := Sequence.insertFlight_cases done
    · rfl
    · obtain ⟨_, _, _, _, _, rfl⟩ := Sequence.insertAdmitted_eq_ok admitted
      rfl
  | desequenced done => exact (Sequence.desequence_carries done).airport
  | resumed _ done => exact (Sequence.resume_carries done).airport
  | removed _ => exact (Sequence.remove_drops sequence _).airport

/--
What a recomputation drops: landed flights, overdue pending flights and old retirements.

A flight that is dropped as it has landed is retired, unless that is long enough ago as well.
-/
theorem retain_eq_ok (done : service.retain sequence now = .ok after) :
    ∃ landed retired, now.minus service.settings.landedRetention = .ok landed
      ∧ now.minus service.settings.retiredRetention = .ok retired
      ∧ after = { sequence with
        flights := sequence.flights.filter (not ∘ Sequence.hasLandedBefore landed)
        pending := sequence.pending.filter fun flight => landed ≤ flight.landing.estimate
        retired := (sequence.retired ++ (sequence.flights.filter
          (Sequence.hasLandedBefore landed)).map Sequence.retirement).filter (retired ≤ ·.landing) } := by
  unfold retain at done
  obtain ⟨landed, since, done⟩ := bind_eq_ok.mp done
  obtain ⟨retired, remembered, done⟩ := bind_eq_ok.mp done
  have ends : (((sequence.purgeLanded landed).2.expirePending landed).2.forgetRetired retired).2
      = after := pure_eq_ok.mp done
  refine ⟨landed, retired, since, remembered, ?_⟩
  -- A flight is not overdue exactly if its estimate is not before the cutoff.
  rw [← ends, Sequence.purgeLanded_eq]
  simp only [Sequence.forgetRetired, Sequence.expirePending, List.partition_eq_filter_filter,
    Function.comp_def, ← not_lt, decide_not]

/-- Every other command leaves the sequence as the pass left it. -/
theorem kept_other (other : command ≠ .recompute)
    (done : service.kept now command sequence = .ok after) : after = sequence := by
  unfold kept at done
  split at done
  · exact absurd rfl other
  · exact (Except.ok.inj done).symm

/-- What is dropped after a pass is at most flights. -/
theorem kept_drops (done : service.kept now command sequence = .ok after) :
    sequence.Drops after := by
  unfold kept at done
  split at done
  · obtain ⟨_, _, _, _, rfl⟩ := retain_eq_ok done
    exact ⟨rfl, rfl, rfl, List.filter_sublist, .refl _⟩
  · cases done
    exact .refl sequence

/-- What comes of a command belongs to the airport that the command went to. -/
theorem scheduled_airport {changed : Sequence} {slot : Option SlotId} {passed : Outcome Sequence Unit}
    (made : Gives (service.change now fresh command sequence) ⟨.ok slot, changed⟩)
    (pass : service.scheduler.schedule changed = .ok passed)
    (kept : service.kept now command passed.after = .ok after) :
    after.airport = sequence.airport := by
  obtain ⟨turns, turned⟩ := Scheduler.exists_pass pass
  rw [(kept_drops kept).airport, turned.frame.1]
  exact change_airport made

end ArrivalManager.Service
