import ArrivalManager.Proofs.Service.Succession

/-! Retired callsigns stay away: their updates are refused until their retirement is old enough. -/

namespace ArrivalManager

open Estimation

variable {service : Service} {registry start last : Registry} {airport : String} {call : Call}
  {reply : Reply} {now : Instant} {command : Command} {before after sequence : Sequence}
  {retired : RetiredFlight} {flight : Flight} {outcome : Outcome Sequence (Option SlotId)}

/-- Whether a command is to insert a flight of this callsign. -/
def Command.inserts (command : Command) (callsign : Callsign) : Bool :=
  match command with
  | .insertFlight named _ _ => named = callsign
  | _ => false

/-- Whether a command accounts for the passage of time. -/
def Command.isRecompute : Command → Bool
  | .recompute => true
  | _ => false

namespace Registry

/-- Where each airport has one sequence, to put that sequence in its place changes nothing. -/
theorem replace_self (distinct : registry.airports.Nodup)
    (found : registry.sequence? airport = some sequence) : registry.replace sequence = registry := by
  have listed := List.mem_of_find?_eq_some found
  -- What is put in the place of the sequence is the sequence itself, and no other one is replaced.
  have same : (registry.sequences.map fun other =>
      if other.airport.identifier = sequence.airport.identifier then sequence else other)
        = registry.sequences := by
    refine (List.map_congr_left fun other member => ?_).trans (List.map_id _)
    by_cases named : other.airport.identifier = sequence.airport.identifier
    · rw [if_pos named]
      exact (List.inj_on_of_nodup_map distinct member listed named).symm
    · rw [if_neg named]
      rfl
  unfold replace
  rw [same]

end Registry

namespace Service

/-- The update of a retired flight is refused, and nothing at all changes. -/
theorem execute_retired {update : FlightUpdate} (distinct : registry.airports.Nodup)
    (found : registry.sequence? airport = some sequence)
    (gone : sequence.isRetired update.callsign = true) (bound : update.destination = airport)
    (now : Instant) : service.execute registry airport now (.updateFlight update)
      = .ok ⟨.error (.flightRetired update.callsign), registry, none⟩ := by
  have refused : service.change now registry.nextSlot (.updateFlight update) sequence
      = pure ⟨.error (.flightRetired update.callsign), sequence⟩ := by
    have destined : update.destination = sequence.airport.identifier :=
      bound.trans (Registry.sequence?_airport found).symm
    have first : service.updateFlight update now sequence
        = pure ⟨.error (.flightRetired update.callsign), sequence⟩ := by
      unfold updateFlight
      simp [destined, gone]
    unfold change
    simp only [first]
    rfl
  unfold execute
  simp only [found, refused, ExceptT.run_pure]
  -- Nothing was looked up on the way, and the sequence is put where it was before.
  have uncounted : ({ registry with misses := registry.misses + .none } : Registry) = registry := rfl
  show Except.ok (Reply.mk _ (Registry.replace
    { registry with misses := registry.misses + .none } sequence) none) = _
  rw [uncounted, Registry.replace_self distinct found]

/-- The entry of a retired flight outlasts every change before a pass, unless the flight is inserted. -/
theorem effect_retired (effect : service.Effect now before command outcome)
    (listed : retired ∈ before.retired)
    (uninserted : command.inserts retired.callsign = false) : retired ∈ outcome.after.retired := by
  cases effect with
  | refused _ | revised _ _ _ _ _ | parked _ _ _ _ => exact listed
  | tracked _ _ done =>
    obtain ⟨_, _, _, rfl⟩ := Sequence.addFlight_eq_ok done
    exact listed
  | held _ done =>
    obtain ⟨_, ⟨_, _, rfl⟩ | ⟨_, rfl⟩⟩ := Sequence.upsertPending_eq_ok done <;> exact listed
  | @inserted callsign typeCode position flight _ ordered chosen done =>
    -- Only the retirement of the flight that is inserted is forgotten, and that is another one.
    have named := (flight.activate_sameArrival now).callsign.trans
      (Sequence.insertedFlight_eq_ok chosen).1
    have other : retired.callsign ≠ callsign := by
      rintro rfl
      rw [ordered] at uninserted
      simp [Command.inserts] at uninserted
    have kept : retired ∈ before.retired.filter (·.callsign ≠ (flight.activate now).callsign) :=
      List.mem_filter.mpr ⟨listed, by simpa [named] using other⟩
    obtain ⟨_, rfl, ⟨_, _, rfl⟩ | ⟨_, admitted, rfl⟩⟩ := Sequence.insertFlight_cases done
    · exact kept
    · obtain ⟨_, _, _, _, _, rfl⟩ := Sequence.insertAdmitted_eq_ok admitted
      exact kept
  | desequenced done =>
    obtain ⟨_, _, rfl⟩ := Sequence.desequence_eq_ok done
    exact listed
  | resumed _ done =>
    obtain ⟨_, _, _, _, rfl⟩ := Sequence.resume_eq_ok done
    exact listed
  | @removed name _ =>
    rcases Sequence.remove_cases before name with missing | ⟨flight, rest, taken, removed⟩
    · rw [missing]
      exact listed
    · -- To take the flight out concerns no entry, and its own entry comes last.
      have stays : retired ∈ rest.retired := by
        rw [(Sequence.takeOut_split taken).2.1]
        exact listed
      rcases removed with ⟨_, lost⟩ | ⟨_, retires⟩
      · rw [lost]
        exact stays
      · rw [retires]
        exact List.mem_append_left _ stays

/--
A call that leaves a retired callsign away.

No insertion of it is accepted, and no recomputation comes later than its retirement lasts.
-/
def Withholds (service : Service) (airport : String) (retired : RetiredFlight) (call : Call)
    (reply : Reply) : Prop :=
  call.airport = airport →
    (call.command.inserts retired.callsign = true → reply.isRejected = true)
      ∧ (call.command.isRecompute = true →
        call.now.since retired.landing ≤ service.settings.retiredRetention)

instance (service : Service) (airport : String) (retired : RetiredFlight) (call : Call)
    (reply : Reply) : Decidable (service.Withholds airport retired call reply) :=
  inferInstanceAs (Decidable (_ → (_ → _) ∧ (_ → _)))

/-- A retired callsign stays retired through a call that leaves it away. -/
theorem Succession.mem_retired {fresh : SlotId}
    (succession : service.Succession fresh airport call reply before after)
    (withholds : service.Withholds airport retired call reply) (listed : retired ∈ before.retired) :
    retired ∈ after.retired := by
  cases succession with
  | unchanged _ => exact listed
  | carried here answered made pass remains =>
    rename_i changed slot passed
    obtain ⟨uninserted, timely⟩ := withholds here
    by_cases recomputes : call.command = .recompute
    · rw [recomputes] at made remains timely
      exact (recomputes_of_made made pass remains).retired retired listed (timely rfl)
    · obtain rfl := kept_other recomputes remains
      rw [(pass_frame pass).2.2]
      refine effect_retired (effect_of_change made) listed ?_
      -- An insertion of the callsign would have to be rejected, but this call is not.
      by_contra inserts
      have rejected := uninserted (by simpa using inserts)
      rw [isRejected_of_pass pass answered] at rejected
      cases rejected

/--
A call by which a flight is retired, with its landing time at that moment.

The flight is removed, or it is purged by a recomputation as it has landed, in time to be remembered.
-/
inductive Retires (service : Service) (registry : Registry) (airport : String) (call : Call)
    (reply : Reply) : RetiredFlight → Prop where
  | removed {before : Sequence} {flight : Flight} (here : call.airport = airport)
    (ordered : call.command = .remove flight.callsign) (accepted : reply.isRejected = false)
    (found : registry.sequence? airport = some before) (known : flight ∈ before.known) :
    Retires service registry airport call reply (Sequence.retirement flight)
  | purged {before after : Sequence} {flight current : Flight} (here : call.airport = airport)
    (recomputes : call.command = .recompute)
    (found : registry.sequence? airport = some before) (tracked : flight ∈ before.flights)
    (refreshed : Gives (service.estimator.refresh before.airport flight call.now) current)
    (found' : reply.registry.sequence? airport = some after)
    (untracked : after.isTracked flight.callsign = false)
    (timely : call.now.since (Sequence.retirement current).landing ≤ service.settings.retiredRetention) :
    Retires service registry airport call reply (Sequence.retirement current)

/-- To remove a known flight retires it. -/
theorem retirement_of_remove {changed : Sequence} {slot : Option SlotId} {fresh : SlotId}
    (sound : before.Sound) (known : flight ∈ before.known)
    (made : Gives (service.change now fresh (.remove flight.callsign) before) ⟨.ok slot, changed⟩) :
    Sequence.retirement flight ∈ changed.retired := by
  have given := pure_gives.mp made
  rcases Sequence.remove_cases before flight.callsign with
    missing | ⟨found, rest, taken, ⟨_, lost⟩ | ⟨_, removed⟩⟩
  · rw [missing] at given
    cases given
  · rw [lost] at given
    cases given
  · rw [removed] at given
    cases given
    -- The flight that is taken out is the known one of its name.
    obtain ⟨named, split⟩ := Sequence.takeOut_known taken
    have listed : found ∈ before.known := split.mem_iff.mp List.mem_cons_self
    obtain rfl := sound.partitioned.knownOnce.same listed known named
    exact List.mem_append_right _ List.mem_cons_self

/-- A flight that is retired by a call is among the retired ones after it. -/
theorem Retires.mem_retired (sound : registry.Sound) (replies : service.Replies registry call reply)
    (retires : service.Retires registry airport call reply retired) :
    ∃ after, reply.registry.sequence? airport = some after ∧ retired ∈ after.retired := by
  cases retires with
  | removed here ordered accepted found known =>
    obtain ⟨after, found', succession⟩ := exists_succession sound replies found
    refine ⟨after, found', ?_⟩
    cases succession with
    | unchanged rejected => simp [rejected here] at accepted
    | carried _ _ made pass remains =>
      rw [ordered] at made remains
      cases remains
      rw [(pass_frame pass).2.2]
      exact retirement_of_remove (sound.sequence? found) known made
  | @purged before after flight current here recomputes found tracked refreshed found' untracked timely =>
    obtain ⟨after', found'', succession⟩ := exists_succession sound replies found
    obtain rfl : after = after' := Option.some.inj (found'.symm.trans found'')
    refine ⟨after, found', ?_⟩
    -- The flight is tracked no more, so it was purged.
    have gone {later : Flight} (member : later ∈ after.flights)
        (named : later.callsign = flight.callsign) : False := by
      have known := Sequence.isTracked_eq_false.mp untracked later (List.mem_append_left _ member)
      exact known named
    cases succession with
    | unchanged _ => exact (gone tracked rfl).elim
    | carried _ _ made pass remains =>
      rw [recomputes] at made remains
      obtain ⟨other, refreshed', ⟨later, member, named⟩ | ⟨_, remembered⟩⟩ :=
        (recomputes_of_made made pass remains).tracked flight tracked
      · exact (gone member named).elim
      · obtain rfl : current = other := Except.ok.inj (refreshed.symm.trans refreshed')
        exact remembered timely

/--
A retired callsign stays away until its retirement is over, whatever else the service is told to do.

It is neither tracked nor desequenced nor pending, and all updates of it are refused without a trace.
-/
theorem retires_staysAway (reachable : service.Reachable registry)
    (replies : service.Replies registry call reply)
    (retires : service.Retires registry airport call reply retired)
    (run : service.Reaches (service.Withholds airport retired) reply.registry last) :
    ∃ sequence, last.sequence? airport = some sequence
      ∧ (∀ flight ∈ sequence.held, flight.callsign ≠ retired.callsign)
      ∧ ∀ (now : Instant) (update : FlightUpdate), update.callsign = retired.callsign →
        update.destination = airport → service.execute last airport now (.updateFlight update)
          = .ok ⟨.error (.flightRetired retired.callsign), last, none⟩ := by
  have begun : service.Reachable reply.registry := .replied reachable replies
  have reached := run.reachable begun
  -- The invariant of the run is that the entry of the flight is among the retired ones.
  have remembered : ∃ sequence, last.sequence? airport = some sequence
      ∧ retired ∈ sequence.retired := by
    clear reached
    induction run with
    | start => exact retires.mem_retired (reachable_sound reachable) replies
    | step run done withholds ih =>
      obtain ⟨before, found, listed⟩ := ih
      obtain ⟨after, found', succession⟩ :=
        exists_succession (reachable_sound (run.reachable begun)) (.executed done) found
      exact ⟨after, found', succession.mem_retired withholds listed⟩
  obtain ⟨sequence, found, listed⟩ := remembered
  have sound := (reachable_sound reached).sequence? found
  refine ⟨sequence, found, sound.partitioned.retiredNotHeld retired listed, ?_⟩
  intro now update named bound
  rw [← named]
  refine execute_retired (reachable_airports reached) found ?_ bound now
  exact List.any_eq_true.mpr ⟨retired, listed, by simpa using named.symm⟩

/-- New data of a flight that was removed, and the passage of time. -/
def sampleAfterRemoval : List Call :=
  let twelveMinutes : Instant := ⟨720000000000, by decide, by decide⟩
  [⟨"YSSY", .epoch, .updateFlight (sampleUpdate "QFA1" "B789")⟩, ⟨"YSSY", twelveMinutes, .recompute⟩]

/-- A flight that was removed stays away, although data of it still comes in and time passes. -/
theorem retires_staysAway_sampleAfterRemoval :
    let removal : Call := ⟨"YSSY", .epoch, .remove "QFA1"⟩
    ∃ created registry reply retired last sequence,
      Registry.empty.create { Airport.sample with modes := [singleMode] } = .ok created
        ∧ sampleStandard.follow (RoutineAt "YSSY") created (sampleCalls.take 1) = some registry
        ∧ sampleStandard.Replies registry removal reply
        ∧ sampleStandard.Retires registry "YSSY" removal reply retired ∧ retired.callsign = "QFA1"
        ∧ sampleStandard.follow (sampleStandard.Withholds "YSSY" retired) reply.registry
          sampleAfterRemoval = some last
        ∧ last.sequence? "YSSY" = some sequence
        ∧ (∀ flight ∈ sequence.held, flight.callsign ≠ "QFA1")
        ∧ sampleStandard.execute last "YSSY" .epoch (.updateFlight (sampleUpdate "QFA1" "B789"))
          = .ok ⟨.error (.flightRetired "QFA1"), last, none⟩ := by
  intro removal
  let airport : Airport := { Airport.sample with modes := [singleMode] }
  obtain ⟨created, founded⟩ : ∃ created, Registry.empty.create airport = .ok created := ⟨_, rfl⟩
  have computed : ((sampleStandard.follow (RoutineAt "YSSY") created (sampleCalls.take 1)).bind
      fun registry => (registry.sequence? "YSSY").bind fun before =>
        (before.flight? "QFA1").bind fun flight =>
          (sampleStandard.execute registry "YSSY" .epoch (.remove "QFA1")).toOption.bind fun reply =>
            if reply.isRejected then none
            else sampleStandard.follow (sampleStandard.Withholds "YSSY" (Sequence.retirement flight))
              reply.registry sampleAfterRemoval).isSome := by
    cases founded
    decide +kernel
  obtain ⟨last, computed⟩ := Option.isSome_iff_exists.mp computed
  obtain ⟨registry, followed, computed⟩ := Option.bind_eq_some_iff.mp computed
  obtain ⟨before, found, computed⟩ := Option.bind_eq_some_iff.mp computed
  obtain ⟨flight, tracked, computed⟩ := Option.bind_eq_some_iff.mp computed
  obtain ⟨reply, executed, computed⟩ := Option.bind_eq_some_iff.mp computed
  obtain ⟨member, named⟩ := findFlight_mem tracked
  split at computed
  · cases computed
  · rename_i accepted
    have replies : sampleStandard.Replies registry removal reply := replies_of_toOption executed
    have reachable : sampleStandard.Reachable registry :=
      (reaches_of_follow followed).reachable (.created .empty founded)
    have retires : sampleStandard.Retires registry "YSSY" removal reply (Sequence.retirement flight) :=
      .removed rfl (by rw [named]) (by simpa using accepted) found (List.mem_append_left _ member)
    obtain ⟨sequence, found', away, refused⟩ :=
      retires_staysAway reachable replies retires (reaches_of_follow computed)
    have same : (Sequence.retirement flight).callsign = "QFA1" := named
    rw [same] at away
    refine ⟨created, registry, reply, _, last, sequence, founded, followed, replies, retires, same,
      computed, found', away, ?_⟩
    exact same ▸ refused .epoch (sampleUpdate "QFA1" "B789") same.symm rfl

end Service

end ArrivalManager
