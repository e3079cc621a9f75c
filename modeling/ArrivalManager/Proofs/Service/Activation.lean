import ArrivalManager.Proofs.Service.Invariant
import ArrivalManager.Proofs.Service.Origin

/-! Flights that are activated for the first time, and feeder fixes that they are past by then. -/

namespace ArrivalManager

open Estimation

variable {service : Service} {registry : Registry} {airport : String} {call : Call} {reply : Reply}
  {now : Instant} {before after : Sequence} {flight other begun : Flight}

namespace Flight

/-- A flight whose feeder fix, if it has one, is crossed or expected at a time or later. -/
def FixAccounted (flight : Flight) (now : Instant) : Prop :=
  ∀ fix, flight.fix = some fix → fix.isPassed = true ∨ now ≤ fix.times.estimate

/-- A fix is accounted for unless a crossing of it was missed. -/
theorem fixAccounted_iff : flight.FixAccounted now ↔ Service.missedCrossing flight now = false := by
  unfold FixAccounted Service.missedCrossing
  cases flight.fix with
  | none => simp
  | some fix => cases passed : fix.isPassed <;> simp [passed]

instance (flight : Flight) (now : Instant) : Decidable (flight.FixAccounted now) :=
  decidable_of_iff _ fixAccounted_iff.symm

/-- Whether the fix is accounted for depends on what is known of it, and on nothing else. -/
theorem fixAccounted_congr (same : flight.fixKnowledge = other.fixKnowledge) :
    flight.FixAccounted now ↔ other.FixAccounted now := by
  have known (flight : Flight) : flight.FixAccounted now
      ↔ ∀ known, flight.fixKnowledge = some known → known.1.crossing.isSome = true ∨ now ≤ known.2 := by
    unfold FixAccounted fixKnowledge
    cases flight.fix with
    | none => simp
    | some fix => simp [FeederFix.report, FeederFix.isPassed]
  rw [known flight, known other, same]

end Flight

namespace FlightUpdate

/-- To take over an update does not activate a flight. -/
theorem applyTo_activated (update : FlightUpdate) (flight : Flight) :
    (update.applyTo flight).activated = flight.activated := by
  unfold applyTo
  dsimp only
  split <;> rfl

end FlightUpdate

namespace Service

/-- A flight that begins to be tracked is active, and past its fix if that should be so by then. -/
theorem activated_accounted (given : Gives (service.activated before.airport flight now) begun) :
    begun.activated = some now ∧ begun.FixAccounted now := by
  obtain ⟨located, rfl, way⟩ := activated_gives given
  refine ⟨rfl, (Flight.fixAccounted_congr (located.activate_fixKnowledge now)).mpr ?_⟩
  rcases way with ⟨missed, rfl⟩ | refreshed
  · exact Flight.fixAccounted_iff.mpr missed
  · -- The crossing is filled in, and estimates that are derived anew leave it there.
    intro fix found
    have report := (Estimator.refresh_continues refreshed).report
    simp only [Flight.fixReport, found, Option.map_some, Option.map_map] at report
    obtain ⟨former, _, same⟩ := Option.map_eq_some_iff.mp report.symm
    have crossed : fix.crossing = some .untracked := congrArg FixReport.crossing same.symm
    left
    rw [FeederFix.isPassed, crossed]
    rfl

/-- Every flight that is tracked or desequenced has been activated. -/
theorem reachable_activated (reachable : service.Reachable registry)
    (found : registry.sequence? airport = some before) (known : flight ∈ before.known) :
    flight.activated.isSome = true := by
  refine @reachable_invariant service registry
    (fun sequence => ∀ flight ∈ sequence.known, flight.activated.isSome = true) before ?_ ?_ reachable
    (List.mem_of_find?_eq_some found) flight known
  · -- An airport that is taken under management has no flights.
    intro airport sequence founded flight member
    have held : flight ∈ sequence.held := List.mem_append_left _ member
    rw [Sequence.held_of_airport founded] at held
    cases held
  · intro now fresh command slot before changed after passed _ active made pass kept flight member
    obtain ⟨former, origin, same⟩ := exists_origin made pass kept member
    rw [same.activated]
    cases origin with
    | kept known continues =>
      rw [continues.activated]
      exact active _ known
    | updated _ known _ continues =>
      rw [continues.activated, FlightUpdate.applyTo_activated]
      exact active _ known
    | resumed _ continues => exact continues.activated
    | tracked _ begun =>
      rw [(activated_accounted begun).1]
      rfl
    | inserted _ _ same =>
      rw [same.activated]
      rfl

/-- A flight that is tracked and active after a command, although no record of it was active before. -/
structure Activates (before after : Sequence) (flight : Flight) : Prop where
  tracked : flight ∈ after.flights
  active : flight.activated.isSome = true
  first : ∀ former ∈ before.held, former.callsign = flight.callsign → former.activated = none

/-- A flight that is activated for the first time was neither tracked nor desequenced before. -/
theorem Activates.unknown {old : Flight} (activates : Activates before after flight)
    (reachable : service.Reachable registry) (found : registry.sequence? airport = some before)
    (known : old ∈ before.known) : flight.callsign ≠ old.callsign := by
  intro named
  have idle := activates.first old (List.mem_append_left _ known) named.symm
  have active := reachable_activated reachable found known
  simp [idle] at active

/--
A flight that is activated for the first time is past its feeder fix if it should be by then.

The exception is a flight that is inserted from the pending ones: no crossing is filled in for it, so
its fix is accounted for exactly if it is so for the pending flight.
-/
theorem activates_accounted (reachable : service.Reachable registry)
    (replies : service.Replies registry call reply)
    (found : registry.sequence? airport = some before)
    (found' : reply.registry.sequence? airport = some after) (activates : Activates before after flight) :
    flight.FixAccounted call.now ↔ ∀ typeCode place waiting,
      call.command = .insertFlight flight.callsign typeCode place →
      findFlight before.pending flight.callsign = some waiting → waiting.FixAccounted call.now := by
  have sound := reachable_sound reachable
  obtain ⟨_, same, succession⟩ := exists_succession sound replies found
  obtain rfl := Option.some.inj (found'.symm.trans same)
  have unknown {old : Flight} (known : old ∈ before.known) : flight.callsign ≠ old.callsign :=
    activates.unknown reachable found known
  cases succession with
  | unchanged _ => exact (unknown (List.mem_append_left _ activates.tracked) rfl).elim
  | carried here _ made pass kept =>
    obtain ⟨former, origin, known⟩ := exists_origin made pass kept (List.mem_append_left _ activates.tracked)
    rw [Flight.fixAccounted_congr known.knowledge]
    cases origin with
    | kept listed continues => exact (unknown listed (known.callsign.trans continues.callsign)).elim
    | updated _ listed _ continues =>
      have named := continues.callsign.trans (FlightUpdate.applyTo_sameArrival _ _).callsign
      exact (unknown listed (known.callsign.trans named)).elim
    | resumed listed continues =>
      have named := continues.callsign.trans (Flight.activate_sameArrival _ _).callsign
      exact (unknown listed (known.callsign.trans named)).elim
    | tracked reports begun =>
      obtain ⟨update, ordered, _⟩ := reports
      simp [ordered, (activated_accounted begun).2]
    | @inserted callsign typeCode place inserted ordered chosen same =>
      have named : flight.callsign = callsign :=
        (known.callsign.trans same.callsign).trans ((Flight.activate_sameArrival _ _).callsign.trans
          (Sequence.insertedFlight_eq_ok chosen).1)
      rw [Flight.fixAccounted_congr (same.knowledge.trans (inserted.activate_fixKnowledge _)), named]
      rcases insertedFlight_source chosen with waits | ⟨missing, fixless⟩
      · -- The pending flight is inserted with its fix as it is.
        refine ⟨fun accounted _ _ _ _ found => ?_, fun accounted => ?_⟩
        · rwa [← Option.some.inj (waits.symm.trans found)]
        · exact accounted typeCode place inserted ordered waits
      · -- A flight that is new has no fix.
        refine ⟨fun _ _ _ _ _ found => ?_, fun _ fix found => ?_⟩
        · simp [missing] at found
        · simp [fixless] at found

/-- The data of a flight that was expected at its feeder fix at the epoch, wherever it is by now. -/
def sampleOverdue (position : Option Position) : FlightUpdate :=
  { sampleUpdate "QFA1" "B789" with
    fix := some ⟨"TESAT", .epoch, none⟩
    position }

/-- Ten minutes after the epoch, the data of the flight come in, with its position. -/
def sampleSighting : Call :=
  ⟨"YSSY", .sampleSeconds 600,
    .updateFlight (sampleOverdue (some ⟨⟨-33.9, 151.2⟩, 12000, 280.0⟩))⟩

/-- Ten minutes after the epoch, a controller inserts the flight. -/
def sampleInsertion : Call :=
  ⟨"YSSY", .sampleSeconds 600, .insertFlight "QFA1" none (.at (.sampleSeconds 1800))⟩

/-- What is to be seen after a call: a sequence, its successor, and a flight activated between them. -/
def firstActivation (registry : Registry) (call : Call) (callsign : Callsign) :
    Option (Reply × Sequence × Sequence × Flight) :=
  (registry.sequence? call.airport).bind fun before =>
    (sampleStandard.execute registry call.airport call.now call.command).toOption.bind fun reply =>
      (reply.registry.sequence? call.airport).bind fun after =>
        (after.flight? callsign).bind fun flight =>
          if flight.activated.isSome = true ∧ ∀ former ∈ before.held,
              former.callsign = flight.callsign → former.activated = none then
            some (reply, before, after, flight)
          else none

/-- What is seen after a call is an activation. -/
theorem activates_of_firstActivation {callsign : Callsign}
    (seen : firstActivation registry call callsign = some (reply, before, after, flight)) :
    sampleStandard.Replies registry call reply ∧ registry.sequence? call.airport = some before
      ∧ reply.registry.sequence? call.airport = some after ∧ Activates before after flight := by
  obtain ⟨_, found, seen⟩ := Option.bind_eq_some_iff.mp seen
  obtain ⟨_, executed, seen⟩ := Option.bind_eq_some_iff.mp seen
  obtain ⟨_, found', seen⟩ := Option.bind_eq_some_iff.mp seen
  obtain ⟨_, tracked, seen⟩ := Option.bind_eq_some_iff.mp seen
  split at seen
  · rename_i holds
    cases seen
    exact ⟨replies_of_toOption executed, found, found', (findFlight_mem tracked).1, holds.1, holds.2⟩
  · cases seen

/-- A flight that is reported too late for its fix is past it, as it is tracked. -/
theorem activates_accounted_sampleSighting :
    ∃ created reply before after flight,
      Registry.empty.create { Airport.sample with modes := [singleMode] } = .ok created
        ∧ sampleStandard.Replies created sampleSighting reply
        ∧ created.sequence? "YSSY" = some before ∧ reply.registry.sequence? "YSSY" = some after
        ∧ Activates before after flight
        ∧ flight.fix.map (·.crossing) = some (some .untracked)
        ∧ flight.FixAccounted sampleSighting.now := by
  let airport : Airport := { Airport.sample with modes := [singleMode] }
  obtain ⟨created, founded⟩ : ∃ created, Registry.empty.create airport = .ok created := ⟨_, rfl⟩
  obtain ⟨⟨reply, before, after, flight⟩, seen, crossed⟩ :
      ∃ seen ∈ firstActivation created sampleSighting "QFA1",
        seen.2.2.2.fix.map (·.crossing) = some (some .untracked) := by
    cases founded
    decide +kernel
  obtain ⟨replies, found, found', activates⟩ := activates_of_firstActivation seen
  have reachable : sampleStandard.Reachable created := .created .empty founded
  have accounted := (activates_accounted reachable replies found found' activates).mpr
    fun _ _ _ ordered => by simp [sampleSighting] at ordered
  exact ⟨created, reply, before, after, flight, founded, replies, found, found', activates, crossed,
    accounted⟩

/-- A flight that is inserted when it is pending is not past its fix, however late it is for that. -/
theorem activates_unaccounted_sampleInsertion :
    ∃ reached reply before after flight, sampleStandard.Reachable reached
      ∧ sampleStandard.Replies reached sampleInsertion reply
      ∧ reached.sequence? "YSSY" = some before ∧ reply.registry.sequence? "YSSY" = some after
      ∧ Activates before after flight ∧ ¬ flight.FixAccounted sampleInsertion.now := by
  let airport : Airport := { Airport.sample with modes := [singleMode] }
  obtain ⟨created, founded⟩ : ∃ created, Registry.empty.create airport = .ok created := ⟨_, rfl⟩
  obtain ⟨reached, followed, ⟨reply, before, after, flight⟩, seen, missed⟩ :
      ∃ reached ∈ sampleStandard.follow (fun _ _ => True) created
          [⟨"YSSY", .epoch, .updateFlight (sampleOverdue none)⟩],
        ∃ seen ∈ firstActivation reached sampleInsertion "QFA1",
          ¬ seen.2.2.2.FixAccounted sampleInsertion.now := by
    cases founded
    decide +kernel
  obtain ⟨replies, found, found', activates⟩ := activates_of_firstActivation seen
  have reachable : sampleStandard.Reachable reached :=
    (reaches_of_follow followed).reachable (.created .empty founded)
  exact ⟨reached, reply, before, after, flight, reachable, replies, found, found', activates, missed⟩

end Service

end ArrivalManager
