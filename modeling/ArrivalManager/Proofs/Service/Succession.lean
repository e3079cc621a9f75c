import ArrivalManager.Proofs.Service.Atomicity

/-! What a call makes of the sequence of an airport, and whom a recomputation lets go. -/

namespace ArrivalManager.Service

open Estimation

variable {service : Service} {registry : Registry} {airport : String} {call : Call} {reply : Reply}
  {now : Instant} {fresh : SlotId} {before changed after : Sequence} {slot : Option SlotId}
  {passed : Outcome Sequence Unit}

/-- What a call makes of the sequence of an airport. -/
inductive Succession (service : Service) (fresh : SlotId) (airport : String) (call : Call)
    (reply : Reply) (before : Sequence) : Sequence → Prop where
  /-- The sequence stays as it is if the call goes to another airport or is rejected. -/
  | unchanged (rejected : call.airport = airport → reply.isRejected = true) :
    Succession service fresh airport call reply before before
  /-- Otherwise it is changed and scheduled, and what is old is dropped. -/
  | carried {changed after : Sequence} {slot : Option SlotId} {passed : Outcome Sequence Unit}
    (here : call.airport = airport) (answered : reply.answer = passed.answer.map fun _ => slot)
    (made : Gives (service.change call.now fresh call.command before) ⟨.ok slot, changed⟩)
    (pass : service.scheduler.schedule changed = .ok passed)
    (kept : service.kept call.now call.command passed.after = .ok after) :
    Succession service fresh airport call reply before after

/-- A call whose execution comes to an end leads to the reply that it gives. -/
theorem replies_of_toOption
    (computed : (service.execute registry call.airport call.now call.command).toOption = some reply) :
    service.Replies registry call reply := .executed (toOption_eq_some.mp computed)

/-- The sequence of an airport has a successor after every call. -/
theorem exists_succession (sound : registry.Sound) (replies : service.Replies registry call reply)
    (found : registry.sequence? airport = some before) :
    ∃ after, reply.registry.sequence? airport = some after
      ∧ service.Succession registry.nextSlot airport call reply before after := by
  cases replies with
  | abandoned _ =>
    refine ⟨before, found, .unchanged fun _ => ?_⟩
    -- A recomputation that is given up is refused, whether the airport is managed or not.
    unfold Reply.isRejected abandoned
    dsimp only
    split <;> rfl
  | executed done =>
    have execution := execution_of_execute done
    by_cases here : call.airport = airport
    · subst here
      cases execution with
      | unmanaged missing => simp [found] at missing
      | refused misses managed made =>
        rename_i after refusal
        obtain rfl := Option.some.inj (found.symm.trans managed)
        have effect := effect_of_change made
        -- In a sound sequence, a change that is refused leaves no trace.
        obtain rfl : after = before := (sound.sequence? found).effect_refused effect rfl
        refine ⟨after, Registry.replace_sequence?_found found rfl rfl, .unchanged fun _ => ?_⟩
        simp [Reply.isRejected, effect.rejects rfl]
      | scheduled misses managed made pass kept =>
        obtain rfl := Option.some.inj (found.symm.trans managed)
        exact ⟨_, Registry.replace_sequence?_found found rfl (scheduled_airport made pass kept),
          .carried rfl rfl made pass kept⟩
    · refine ⟨before, ?_, .unchanged fun there => absurd there here⟩
      rw [execution_elsewhere execution (Ne.symm here)]
      exact found

/-- The sequence of an airport after a call is the successor of a sound one before it. -/
theorem exists_predecessor (reachable : service.Reachable registry)
    (replies : service.Replies registry call reply)
    (found : reply.registry.sequence? airport = some after) :
    ∃ before, registry.sequence? airport = some before ∧ before.Sound
      ∧ service.Succession registry.nextSlot airport call reply before after := by
  -- No call takes an airport under management, so that it was managed before.
  have managed : airport ∈ registry.airports := by
    rw [← replies_airports replies, Registry.mem_airports, found]
    rfl
  obtain ⟨before, former⟩ := Option.isSome_iff_exists.mp (Registry.mem_airports.mp managed)
  have sound := reachable_sound reachable
  obtain ⟨last, found', succession⟩ := exists_succession sound replies former
  obtain rfl := Option.some.inj (found.symm.trans found')
  exact ⟨before, former, sound.sequence? former, succession⟩

/-- A call is not rejected for what its pass reports. -/
theorem isRejected_of_pass (pass : service.scheduler.schedule changed = .ok passed)
    (answered : reply.answer = passed.answer.map fun _ => slot) : reply.isRejected = false := by
  obtain ⟨turns, turned⟩ := Scheduler.exists_pass pass
  unfold Reply.isRejected
  rw [answered]
  cases answer : passed.answer with
  | ok _ => rfl
  | error refusal =>
    -- All that a pass may report is that no landing time was found.
    simp [Except.map, turned.answer_error answer]

/-- A recomputation lets a flight go, whose record is current by then, as it landed long enough ago. -/
structure Purges (service : Service) (now : Instant) (current : Flight) : Prop where
  landed : (current.promote now service.settings.thresholds).state = .landed
  overdue : service.settings.landedRetention < now.since current.landing.scheduled

/-- What a recomputation leaves of a sequence. -/
structure Recomputes (service : Service) (now : Instant) (before after : Sequence) : Prop where
  /-- A tracked flight stays tracked, or is purged and then retired for a while. -/
  tracked : ∀ flight ∈ before.flights, ∃ current,
    Gives (service.estimator.refresh before.airport flight now) current
      ∧ ((∃ later ∈ after.flights, later.callsign = flight.callsign)
        ∨ service.Purges now current
          ∧ (now.since (Sequence.retirement current).landing ≤ service.settings.retiredRetention →
            Sequence.retirement current ∈ after.retired))
  desequenced : after.desequenced = before.desequenced
  /-- A pending flight stays pending until its estimate is overdue. -/
  waiting : ∀ flight ∈ before.pending, flight ∈ after.pending
    ∨ service.settings.landedRetention < now.since flight.landing.estimate
  /-- A retired callsign is remembered for a while after its landing. -/
  retired : ∀ retired ∈ before.retired,
    now.since retired.landing ≤ service.settings.retiredRetention → retired ∈ after.retired

/-- A pass leaves pending, desequenced and retired flights alone. -/
theorem pass_frame (pass : service.scheduler.schedule changed = .ok passed) :
    passed.after.pending = changed.pending ∧ passed.after.desequenced = changed.desequenced
      ∧ passed.after.retired = changed.retired := by
  obtain ⟨turns, turned⟩ := Scheduler.exists_pass pass
  rw [turned.after]
  exact ⟨rfl, rfl, rfl⟩

/-- A flight that is tracked before a pass is tracked after it, as it was or as an unstable one. -/
theorem pass_tracked {flight : Flight} (pass : service.scheduler.schedule changed = .ok passed)
    (tracked : flight ∈ changed.flights) :
    flight ∈ passed.after.flights
      ∨ ∃ later ∈ passed.after.flights, later.callsign = flight.callsign
        ∧ later.state = .unstable := by
  obtain ⟨turns, turned⟩ := Scheduler.exists_pass pass
  cases waits : flight.state.isSchedulable with
  | false => exact .inl (turned.mem_after.mpr (.inl ⟨tracked, waits⟩))
  | true =>
    obtain ⟨turn, member, rfl⟩ := turned.exists_turn tracked waits
    exact .inr ⟨turn.result, turned.mem_after.mpr (.inr ⟨turn, member, rfl⟩),
      turned.result_callsign member, turned.result_state member⟩

/-- A recomputation that is carried out leaves this much of a sequence. -/
theorem recomputes_of_made
    (made : Gives (service.change now fresh .recompute before) ⟨.ok slot, changed⟩)
    (pass : service.scheduler.schedule changed = .ok passed)
    (kept : service.kept now .recompute passed.after = .ok after) :
    service.Recomputes now before after := by
  obtain ⟨moved, progressed, same⟩ := change_recompute made
  cases same
  obtain ⟨flights, arranged, mode, modeChange, records, order, rfl, _, _⟩ :=
    passTime_gives progressed
  obtain ⟨pending, desequenced, retired⟩ := pass_frame pass
  obtain ⟨landedBy, retiredBy, landed, remembered, rfl⟩ := retain_eq_ok kept
  refine ⟨fun flight tracked => ?_, desequenced, fun flight waits => ?_, fun entry listed recent => ?_⟩
  · obtain ⟨record, listed, current, refreshed, rfl⟩ :=
      exists_of_forall₂ (List.Forall₂.flip records) tracked
    have named : (current.promote now service.settings.thresholds).callsign = flight.callsign :=
      (Estimator.refresh_sameArrival refreshed).callsign
    refine ⟨current, refreshed, ?_⟩
    rcases pass_tracked pass (order.mem_iff.mpr listed) with stays | ⟨later, stays, same, unstable⟩
    · -- The pass leaves the record alone, so it is this one that stays or is purged.
      by_cases old : Sequence.hasLandedBefore landedBy
          (current.promote now service.settings.thresholds) = true
      · have purged := old
        simp only [Sequence.hasLandedBefore, Bool.and_eq_true, decide_eq_true_eq]
          at purged
        refine .inr ⟨⟨purged.1, (Instant.lt_of_minus landed).mp purged.2⟩, fun recent => ?_⟩
        refine List.mem_filter.mpr ⟨List.mem_append_right _ ?_, ?_⟩
        · exact List.mem_map.mpr ⟨_, List.mem_filter.mpr ⟨stays, old⟩, rfl⟩
        · simpa [← not_lt, Instant.lt_of_minus remembered] using recent
      · exact .inl ⟨_, List.mem_filter.mpr ⟨stays, by simpa using old⟩, named⟩
    · -- After its turn the flight is unstable, and so it has not landed.
      refine .inl ⟨later, List.mem_filter.mpr ⟨stays, ?_⟩, same.trans named⟩
      simp [Sequence.hasLandedBefore, unstable]
  · by_cases overdue : flight.landing.estimate < landedBy
    · exact .inr ((Instant.lt_of_minus landed).mp overdue)
    · refine .inl (List.mem_filter.mpr ⟨?_, by simpa using overdue⟩)
      rw [pending]
      exact waits
  · refine List.mem_filter.mpr ⟨List.mem_append_left _ ?_, ?_⟩
    · rw [retired]
      exact listed
    · simpa [← not_lt, Instant.lt_of_minus remembered] using recent

end ArrivalManager.Service
