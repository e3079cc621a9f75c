import ArrivalManager.Proofs.Service.Sound
import ArrivalManager.Proofs.Service.Spacing

/-! Every command takes effect in full or not at all, whatever a service was told to do before. -/

namespace ArrivalManager

namespace Registry

variable {registry start : Registry} {sequence : Sequence}

/-- A registry in which every sequence is sound. -/
def Sound (registry : Registry) : Prop := ∀ sequence ∈ registry.sequences, sequence.Sound

/-- A sequence that joins others takes a place among them, and they stay in their order. -/
theorem insertOrdered_perm (sequence : Sequence) (sequences : List Sequence) :
    (insertOrdered sequence sequences).Perm (sequence :: sequences) := by
  induction sequences with
  | nil => exact .refl _
  | cons first rest ih =>
    unfold insertOrdered
    split
    · exact .refl _
    · -- Further back, the sequence changes places with the first one.
      exact (ih.cons first).trans (.swap sequence first rest)

/-- To put a sequence in its place manages no other airports than before. -/
theorem replace_airports (registry : Registry) (sequence : Sequence) :
    (registry.replace sequence).airports = registry.airports := by
  unfold airports replace
  rw [List.map_map]
  refine List.map_congr_left fun other _ => ?_
  -- What is replaced belongs to the same airport.
  by_cases same : other.airport.identifier = sequence.airport.identifier
  · simp [same]
  · simp [same]

/-- An airport is managed exactly if a sequence is found for it. -/
theorem mem_airports {airport : String} :
    airport ∈ registry.airports ↔ (registry.sequence? airport).isSome = true := by
  unfold airports sequence?
  simp only [List.mem_map, List.find?_isSome, decide_eq_true_eq]

/-- Where no airport is managed twice, every sequence is the one that is found for its airport. -/
theorem sequence?_of_mem (distinct : registry.airports.Nodup)
    (managed : sequence ∈ registry.sequences) :
    registry.sequence? sequence.airport.identifier = some sequence := by
  cases found : registry.sequence? sequence.airport.identifier with
  | none =>
    have missing := List.find?_eq_none.mp found sequence managed
    simp at missing
  | some other =>
    have listed := List.mem_of_find?_eq_some found
    rw [List.inj_on_of_nodup_map distinct listed managed (sequence?_airport found)]

/-- When an airport is taken under management, its empty sequence joins the others. -/
theorem mem_create {airport : Airport} (created : registry.create airport = .ok start)
    (managed : sequence ∈ start.sequences) :
    Sequence.ofAirport airport = .ok sequence ∨ sequence ∈ registry.sequences := by
  obtain ⟨fresh, founded, created⟩ := bind_eq_ok.mp created
  split at created
  · cases created
  · cases pure_eq_ok.mp created
    rcases List.mem_cons.mp ((insertOrdered_perm _ _).mem_iff.mp managed) with rfl | former
    · exact .inl founded
    · exact .inr former

/-- When an airport is given up, the sequences that are left were there before. -/
theorem mem_remove {airport : String} (removed : registry.remove airport = .ok start)
    (managed : sequence ∈ start.sequences) : sequence ∈ registry.sequences := by
  unfold Registry.remove at removed
  split at removed
  · cases removed
    exact (List.mem_filter.mp managed).1
  · cases removed

/-- After a replacement there are the new sequence and others that were there before. -/
theorem mem_replace {other : Sequence} (managed : other ∈ (registry.replace sequence).sequences) :
    other = sequence ∨ other ∈ registry.sequences := by
  obtain ⟨former, listed, same⟩ := List.mem_map.mp managed
  split at same
  · exact .inl same.symm
  · rw [← same]
    exact .inr listed

namespace Sound

variable (sound : registry.Sound)
include sound

/-- An airport that is taken under management has a sound sequence. -/
theorem create {airport : Airport} (created : registry.create airport = .ok start) :
    start.Sound := by
  intro sequence managed
  rcases mem_create created managed with founded | former
  · exact Sequence.sound_of_airport founded
  · exact sound sequence former

/-- To give up an airport leaves the others as they are. -/
theorem remove {airport : String} (removed : registry.remove airport = .ok start) :
    start.Sound := fun sequence managed => sound sequence (mem_remove removed managed)

/-- A sound sequence may take the place of another one. -/
theorem replace (after : sequence.Sound) : (registry.replace sequence).Sound := by
  intro other managed
  rcases mem_replace managed with rfl | former
  · exact after
  · exact sound other former

/-- The sequence that is found for an airport is sound. -/
theorem sequence? {airport : String} (found : registry.sequence? airport = some sequence) :
    sequence.Sound := sound sequence (List.mem_of_find?_eq_some found)

end Sound

end Registry

/-- Whether a command was refused altogether, and not only left a flight without a landing time. -/
def Reply.isRejected (reply : Reply) : Bool :=
  match reply.answer with
  | .error refusal => !refusal.isUnsatisfiable
  | .ok _ => false

/--
A command that takes effect in full or not at all.

If it is rejected, no sequence changes and nothing is published. Otherwise the new sequence of its
airport is published, once, also if no landing time was found for some flight.
-/
structure Reply.Atomic (reply : Reply) (registry : Registry) (call : Call) : Prop where
  rejected : reply.isRejected = true →
    (∀ airport, reply.registry.sequence? airport = registry.sequence? airport)
      ∧ reply.published = none
  carried : reply.isRejected = false →
    ∃ after, reply.registry.sequence? call.airport = some after
      ∧ reply.published = some (after.snapshot call.now)

namespace Service

variable {service : Service} {registry : Registry} {call : Call} {reply : Reply} {name : String}
  {now : Instant} {command : Command}

/-- What a call leads to: it is executed, or given up before it begins, as recomputations may be. -/
inductive Replies (service : Service) (registry : Registry) (call : Call) : Reply → Prop where
  | executed {reply : Reply}
    (done : service.execute registry call.airport call.now call.command = .ok reply) :
    Replies service registry call reply
  | abandoned (recomputes : call.command = .recompute) :
    Replies service registry call ⟨.error (abandoned registry call.airport), registry, none⟩

/-- The registries that a service can come to have. -/
inductive Reachable (service : Service) : Registry → Prop where
  | empty : Reachable service .empty
  | created {registry start : Registry} {airport : Airport} (before : Reachable service registry)
    (done : registry.create airport = .ok start) : Reachable service start
  | removed {registry rest : Registry} {airport : String} (before : Reachable service registry)
    (done : registry.remove airport = .ok rest) : Reachable service rest
  | replied {registry : Registry} {call : Call} {reply : Reply}
    (before : Reachable service registry) (done : service.Replies registry call reply) :
    Reachable service reply.registry

/-- What a run of executed calls leads to can come about if its start can. -/
theorem Reaches.reachable {start last : Registry} {admits : Call → Reply → Prop}
    (reachable : service.Reachable start) (run : service.Reaches admits start last) :
    service.Reachable last := by
  induction run with
  | start => exact reachable
  | step _ done _ ih => exact .replied ih (.executed done)

/-- A command leaves every sequence sound, whatever it comes to. -/
theorem execution_sound (sound : registry.Sound)
    (execution : service.Execution registry name now command reply) : reply.registry.Sound := by
  cases execution with
  | unmanaged _ => exact sound
  | refused misses found made =>
    exact Registry.Sound.replace sound ((sound.sequence? found).effect (effect_of_change made))
  | scheduled misses found made pass kept =>
    -- The change, the pass and the clearing of old entries each leave the sequence sound.
    have changed := (sound.sequence? found).effect (effect_of_change made)
    exact Registry.Sound.replace sound ((changed.scheduled pass).kept kept)

/-- Every sequence of a service is sound, whatever the service was told to do. -/
theorem reachable_sound (reachable : service.Reachable registry) : registry.Sound := by
  induction reachable with
  | empty => exact fun sequence member => absurd member List.not_mem_nil
  | created _ done ih => exact ih.create done
  | removed _ done ih => exact ih.remove done
  | replied _ done ih =>
    cases done with
    | executed done => exact execution_sound ih (execution_of_execute done)
    | abandoned _ => exact ih

/-- No call takes an airport under management, or gives one up. -/
theorem replies_airports (replies : service.Replies registry call reply) :
    reply.registry.airports = registry.airports := by
  cases replies with
  | abandoned _ => rfl
  | executed done =>
    cases execution_of_execute done with
    | unmanaged _ => rfl
    | refused _ _ _ | scheduled _ _ _ _ _ => exact Registry.replace_airports _ _

/-- No airport is managed twice, whatever a service was told to do. -/
theorem reachable_airports (reachable : service.Reachable registry) : registry.airports.Nodup := by
  induction reachable with
  | empty => exact List.nodup_nil
  | @created registry _ airport _ done ih =>
    obtain ⟨sequence, founded, done⟩ := bind_eq_ok.mp done
    split at done
    · cases done
    · rename_i unmanaged
      cases pure_eq_ok.mp done
      -- The airport was not managed before, so it does not come up twice.
      have fresh : sequence.airport.identifier ∉ registry.airports := by
        rw [(Sequence.partitioned_of_airport founded).1, Registry.mem_airports]
        exact unmanaged
      exact (((Registry.insertOrdered_perm _ _).map _).nodup_iff).mpr (List.nodup_cons.mpr ⟨fresh, ih⟩)
  | removed _ done ih =>
    unfold Registry.remove at done
    split at done
    · cases done
      exact (List.filter_sublist.map _).nodup ih
    · cases done
  | replied _ done ih =>
    rw [replies_airports done]
    exact ih

/-- No effect is refused for want of a landing time. -/
theorem Effect.rejects {before : Sequence} {outcome : Outcome Sequence (Option SlotId)}
    {refusal : Refusal} (effect : service.Effect now before command outcome)
    (refused : outcome.answer = .error refusal) : refusal.isUnsatisfiable = false := by
  cases effect with
  | refused rejects =>
    cases refused
    exact rejects
  | inserted _ _ done =>
    obtain ⟨_, rfl, ⟨other, failed, rfl⟩ | ⟨_, _, rfl⟩⟩ := Sequence.insertFlight_cases done
    · cases Outcome.map_refused.mp refused
      exact Sequence.insertAdmitted_rejects failed
    · cases Outcome.map_refused.mp refused
  | removed _ => exact Sequence.remove_rejects _ _ _ (Outcome.map_refused.mp refused)
  | _ => cases refused

/--
Every command takes effect in full or not at all.

This holds of whatever registry the service has come to, and of whatever comes of the command.
-/
theorem replies_atomic (reachable : service.Reachable registry)
    (replies : service.Replies registry call reply) : reply.Atomic registry call := by
  have sound := reachable_sound reachable
  cases replies with
  | abandoned _ =>
    refine ⟨fun _ => ⟨fun _ => rfl, rfl⟩, fun carried => ?_⟩
    -- Whether the airport is managed or not, a recomputation that is given up is refused.
    unfold Reply.isRejected abandoned at carried
    dsimp only at carried
    split at carried
    · cases carried
    · cases carried
  | executed done =>
    cases execution_of_execute done with
    | unmanaged _ => exact ⟨fun _ => ⟨fun _ => rfl, rfl⟩, nofun⟩
    | refused misses found made =>
      rename_i sequence after refusal
      have effect := effect_of_change made
      -- In a sound sequence, a change that is refused leaves no trace.
      obtain rfl : after = sequence := (sound.sequence? found).effect_refused effect rfl
      refine ⟨fun _ => ⟨fun airport => ?_, rfl⟩, fun carried => ?_⟩
      · by_cases here : airport = call.airport
        · rw [here, found]
          exact Registry.replace_sequence?_found found rfl rfl
        · refine Registry.replace_sequence?_other ?_
          rw [Registry.sequence?_airport found]
          exact here
      · simp [Reply.isRejected, effect.rejects rfl] at carried
    | scheduled misses found made pass kept =>
      rename_i sequence changed after slot passed
      refine ⟨fun rejected => ?_, fun _ => ⟨after, ?_, rfl⟩⟩
      · -- All that a pass may report is that no landing time was found.
        obtain ⟨turns, turned⟩ := Scheduler.exists_pass pass
        cases answer : passed.answer with
        | ok _ => simp [Reply.isRejected, answer, Except.map] at rejected
        | error refusal =>
          simp [Reply.isRejected, answer, Except.map, turned.answer_error answer] at rejected
      · exact Registry.replace_sequence?_found found rfl (scheduled_airport made pass kept)

/-- One flight is removed, the next one taken out, one is tracked, and the last one out of range. -/
def sampleTraffic : List Call :=
  let outOfRange := { sampleUpdate "JST3" "A320" with fix := some ⟨"RIVET", .epoch, none⟩ }
  [⟨"YSSY", .epoch, .updateFlight (sampleUpdate "VOZ2" "B738")⟩,
    ⟨"YSSY", .epoch, .remove "VOZ2"⟩,
    ⟨"YSSY", .epoch, .updateFlight (sampleUpdate "QLK4" "DH8D")⟩,
    ⟨"YSSY", .epoch, .desequence "QLK4"⟩,
    ⟨"YSSY", .epoch, .updateFlight (sampleUpdate "QFA1" "B789")⟩,
    ⟨"YSSY", .epoch, .updateFlight outOfRange⟩]

/-- The flights of a sequence that are tracked, pending, taken out and retired. -/
def callsignsByList (sequence : Sequence) : List (List Callsign) :=
  [sequence.flights.map (·.callsign), sequence.pending.map (·.callsign),
    sequence.desequenced.map (·.callsign), sequence.retired.map (·.callsign)]

/--
With flights of every kind, one command is rejected and another one is carried out.

The rejected one is to insert the flight that is out of range in front of the one that was removed.
-/
theorem replies_atomic_sampleTraffic :
    let insertion : Call := ⟨"YSSY", .epoch, .insertFlight "JST3" none (.before "VOZ2")⟩
    let report : Call := ⟨"YSSY", .epoch, .updateFlight (sampleUpdate "QFA1" "B789")⟩
    ∃ start busy sequence rejected carried,
      Registry.empty.create { Airport.sample with modes := [singleMode] } = .ok start
        ∧ sampleStandard.follow (fun _ _ => True) start sampleTraffic = some busy
        ∧ busy.sequence? "YSSY" = some sequence
        ∧ callsignsByList sequence = [["QFA1"], ["JST3"], ["QLK4"], ["VOZ2"]]
        ∧ sampleStandard.Replies busy insertion rejected ∧ rejected.isRejected = true
        ∧ rejected.Atomic busy insertion
        ∧ sampleStandard.Replies busy report carried ∧ carried.isRejected = false
        ∧ carried.Atomic busy report := by
  intro insertion report
  let airport : Airport := { Airport.sample with modes := [singleMode] }
  obtain ⟨start, created⟩ : ∃ start, Registry.empty.create airport = .ok start := ⟨_, rfl⟩
  let execute (registry : Registry) (call : Call) : Option Reply :=
    (sampleStandard.execute registry call.airport call.now call.command).toOption
  have computed : ((sampleStandard.follow (fun _ _ => True) start sampleTraffic).bind fun busy =>
      (busy.sequence? "YSSY").bind fun sequence => (execute busy insertion).bind fun rejected =>
        (execute busy report).map fun carried =>
          (callsignsByList sequence, rejected.isRejected, carried.isRejected))
      = some ([["QFA1"], ["JST3"], ["QLK4"], ["VOZ2"]], true, false) := by
    cases created
    decide +kernel
  obtain ⟨busy, followed, computed⟩ := Option.bind_eq_some_iff.mp computed
  obtain ⟨sequence, found, computed⟩ := Option.bind_eq_some_iff.mp computed
  obtain ⟨rejected, refusing, computed⟩ := Option.bind_eq_some_iff.mp computed
  obtain ⟨carried, carrying, computed⟩ := Option.map_eq_some_iff.mp computed
  simp only [Prod.mk.injEq] at computed
  have replies {call : Call} {reply : Reply} (done : execute busy call = some reply) :
      sampleStandard.Replies busy call reply := .executed (toOption_eq_some.mp done)
  have reachable : sampleStandard.Reachable busy :=
    (reaches_of_follow followed).reachable (.created .empty created)
  exact ⟨start, busy, sequence, rejected, carried, created, followed, found, computed.1,
    replies refusing, computed.2.1, replies_atomic reachable (replies refusing),
    replies carrying, computed.2.2, replies_atomic reachable (replies carrying)⟩

end Service

end ArrivalManager
