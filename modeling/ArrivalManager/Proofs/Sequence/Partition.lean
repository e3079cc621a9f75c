import ArrivalManager.Proofs.Schedule.Pass
import ArrivalManager.Proofs.Sequence.Operation

/-! Every callsign that a sequence knows stands in one place, and every flight is bound for its airport. -/

namespace ArrivalManager.Sequence

variable {sequence before middle after : Sequence} {flight added other : Flight}
  {callsign : Callsign} {position : Nat}

/-- Every flight that a sequence holds, in whichever of its lists. -/
def held (sequence : Sequence) : List Flight := sequence.known ++ sequence.pending

/-- Every callsign that a sequence holds or has retired, as often as it comes up. -/
def callsigns (sequence : Sequence) : List Callsign :=
  sequence.held.map (·.callsign) ++ sequence.retired.map (·.callsign)

/-- A sequence whose lists share no callsign, and that holds only flights bound for its airport. -/
structure Partitioned (sequence : Sequence) : Prop where
  /-- No callsign is tracked or desequenced twice. -/
  knownOnce : DistinctCallsigns sequence.known
  pendingOnce : DistinctCallsigns sequence.pending
  pendingUnknown : ∀ flight ∈ sequence.pending, ∀ other ∈ sequence.known,
    other.callsign ≠ flight.callsign
  retiredNotHeld : ∀ retired ∈ sequence.retired, ∀ flight ∈ sequence.held,
    flight.callsign ≠ retired.callsign
  retiredOnce : (sequence.retired.map (·.callsign)).Nodup
  bound : ∀ flight ∈ sequence.held, flight.destination = sequence.airport.identifier

/-- A sequence is partitioned exactly if no callsign comes up twice among all that it knows. -/
theorem partitioned_iff : sequence.Partitioned ↔
    (∀ callsign, sequence.callsigns.count callsign ≤ 1)
      ∧ ∀ flight ∈ sequence.held, flight.destination = sequence.airport.identifier := by
  rw [← List.nodup_iff_count_le_one]
  simp only [callsigns, held, List.map_append, List.nodup_append, List.mem_append, List.mem_map]
  constructor
  · rintro ⟨knownOnce, pendingOnce, pendingUnknown, retiredNotHeld, retiredOnce, bound⟩
    simp only [held, List.mem_append] at retiredNotHeld bound
    refine ⟨⟨⟨knownOnce, pendingOnce, ?_⟩, retiredOnce, ?_⟩, bound⟩
    · rintro _ ⟨flight, known, rfl⟩ _ ⟨other, waiting, rfl⟩
      exact pendingUnknown other waiting flight known
    · rintro _ (⟨flight, known, rfl⟩ | ⟨flight, waiting, rfl⟩) _ ⟨retired, listed, rfl⟩
      · exact retiredNotHeld retired listed flight (.inl known)
      · exact retiredNotHeld retired listed flight (.inr waiting)
  · rintro ⟨⟨⟨knownOnce, pendingOnce, apart⟩, retiredOnce, notHeld⟩, bound⟩
    refine ⟨knownOnce, pendingOnce, fun flight waiting other known => ?_,
      fun retired listed flight member => ?_, retiredOnce, fun flight member => ?_⟩
    · exact apart _ ⟨other, known, rfl⟩ _ ⟨flight, waiting, rfl⟩
    · refine notHeld _ ?_ _ ⟨retired, listed, rfl⟩
      exact (List.mem_append.mp member).imp (fun known => ⟨flight, known, rfl⟩)
        fun waiting => ⟨flight, waiting, rfl⟩
    · exact bound flight (List.mem_append.mp member)

/-- How often a callsign comes up is counted list by list. -/
theorem count_callsigns (sequence : Sequence) (callsign : Callsign) :
    sequence.callsigns.count callsign
      = (sequence.flights.map (·.callsign)).count callsign
        + (sequence.desequenced.map (·.callsign)).count callsign
        + (sequence.pending.map (·.callsign)).count callsign
        + (sequence.retired.map (·.callsign)).count callsign := by
  simp only [callsigns, held, known, List.map_append, List.count_append]

/-- A change that adds nothing: no callsign comes up more often, and no flight is a new arrival. -/
structure Retains (before after : Sequence) : Prop where
  airport : after.airport = before.airport
  callsigns : ∀ callsign, after.callsigns.count callsign ≤ before.callsigns.count callsign
  arrivals : ∀ flight ∈ after.held, ∃ former ∈ before.held, former.SameArrival flight

namespace Retains

/-- A sequence that is left as it is has nothing added. -/
theorem refl (sequence : Sequence) : sequence.Retains sequence :=
  ⟨rfl, fun _ => Nat.le_refl _, fun flight member => ⟨flight, member, .refl flight⟩⟩

/-- Two changes that add nothing add nothing together. -/
theorem trans (first : before.Retains middle) (second : middle.Retains after) :
    before.Retains after where
  airport := second.airport.trans first.airport
  callsigns callsign := (second.callsigns callsign).trans (first.callsigns callsign)
  arrivals flight member := by
    obtain ⟨between, listed, later⟩ := second.arrivals flight member
    obtain ⟨former, known, earlier⟩ := first.arrivals between listed
    exact ⟨former, known, earlier.trans later⟩

/-- To leave out what a sequence knows adds nothing. -/
theorem of_sublists (airport : after.airport = before.airport)
    (flights : after.flights.Sublist before.flights)
    (desequenced : after.desequenced.Sublist before.desequenced)
    (pending : after.pending.Sublist before.pending)
    (retired : after.retired.Sublist before.retired) : before.Retains after := by
  have held : after.held.Sublist before.held := (flights.append desequenced).append pending
  refine ⟨airport, fun callsign => ?_, fun flight member => ⟨flight, held.subset member, .refl flight⟩⟩
  exact ((held.map _).append (retired.map _)).count_le callsign

/-- To change the records of flights in their places adds nothing. -/
theorem of_revised (airport : after.airport = before.airport)
    (held : List.Forall₂ Flight.SameArrival before.held after.held)
    (retired : after.retired = before.retired) : before.Retains after := by
  have callsigns : after.held.map (·.callsign) = before.held.map (·.callsign) := by
    refine List.forall₂_eq_eq_eq ▸ ?_
    rw [List.forall₂_map_left_iff, List.forall₂_map_right_iff]
    exact (List.Forall₂.flip held).imp fun _ _ same => same.callsign
  refine ⟨airport, fun callsign => ?_, fun flight member => exists_of_forall₂ held member⟩
  rw [Sequence.callsigns, Sequence.callsigns, callsigns, retired]

/-- To put the same flights into another order adds nothing. -/
theorem of_perm {flights : List Flight} (moved : flights.Perm before.flights) :
    before.Retains { before with flights } := by
  refine ⟨rfl, fun callsign => ?_, fun flight member => ⟨flight, ?_, .refl flight⟩⟩
  · have same := (moved.map (·.callsign)).count_eq callsign
    simp only [count_callsigns, same, Nat.le_refl]
  · exact ((moved.append_right _).append_right _).mem_iff.mp member

end Retains

/-- A change that adds nothing leaves the lists apart. -/
theorem Partitioned.retained (partitioned : before.Partitioned) (retains : before.Retains after) :
    after.Partitioned := by
  obtain ⟨once, bound⟩ := partitioned_iff.mp partitioned
  refine partitioned_iff.mpr
    ⟨fun callsign => (retains.callsigns callsign).trans (once callsign), fun flight member => ?_⟩
  obtain ⟨former, held, same⟩ := retains.arrivals flight member
  rw [same.destination, retains.airport]
  exact bound former held

/-- An airport that is taken under management holds no flights. -/
theorem held_of_airport {airport : Airport} (founded : ofAirport airport = .ok sequence) :
    sequence.held = [] := by
  unfold ofAirport at founded
  split at founded
  · cases founded
  · cases founded
    rfl

/-- An airport without flights is partitioned. -/
theorem partitioned_of_airport {airport : Airport} (founded : ofAirport airport = .ok sequence) :
    sequence.airport = airport ∧ sequence.Partitioned := by
  unfold ofAirport at founded
  split at founded
  · -- Without modes there is no sequence, and otherwise one that knows nothing.
    cases founded
  · cases founded
    refine ⟨rfl, partitioned_iff.mpr ⟨fun callsign => by simp [count_callsigns], ?_⟩⟩
    simp [held, known]

/-- A new record of a tracked flight adds nothing. -/
theorem retains_replace {old new : Flight} (found : before.flight? new.callsign = some old)
    (same : old.SameArrival new) :
    before.Retains { before with flights := replaceFlight before.flights new } :=
  .of_revised rfl (List.rel_append (List.rel_append
    (forall₂_replaceFlight .refl found same) (List.forall₂_same.mpr fun _ _ => .refl _))
    (List.forall₂_same.mpr fun _ _ => .refl _)) rfl

/-- A new record of a desequenced flight adds nothing. -/
theorem retains_replaceParked {old new : Flight}
    (found : findFlight before.desequenced new.callsign = some old) (same : old.SameArrival new) :
    before.Retains { before with desequenced := replaceFlight before.desequenced new } :=
  .of_revised rfl (List.rel_append (List.rel_append
    (List.forall₂_same.mpr fun _ _ => .refl _) (forall₂_replaceFlight .refl found same))
    (List.forall₂_same.mpr fun _ _ => .refl _)) rfl

/-- A new record of a pending flight adds nothing. -/
theorem retains_replacePending {old new : Flight}
    (found : findFlight before.pending new.callsign = some old) (same : old.SameArrival new) :
    before.Retains { before with pending := replaceFlight before.pending new } :=
  .of_revised rfl (List.rel_append (List.forall₂_same.mpr fun _ _ => .refl _)
    (forall₂_replaceFlight .refl found same)) rfl

/-- New records of all tracked flights add nothing. -/
theorem retains_revised {flights : List Flight}
    (same : List.Forall₂ Flight.SameArrival before.flights flights) :
    before.Retains { before with flights } :=
  .of_revised rfl (List.rel_append (List.rel_append same
    (List.forall₂_same.mpr fun _ _ => .refl _)) (List.forall₂_same.mpr fun _ _ => .refl _)) rfl

/-- To move a flight to the position of its estimate adds nothing. -/
theorem reposition_retains {displace : Bool}
    (done : before.reposition callsign displace = .ok (position, after)) : before.Retains after := by
  obtain ⟨arranged, moved, rfl⟩ := reposition_eq_ok done
  exact .of_perm moved

/-- To take a flight out for the time being adds nothing. -/
theorem desequence_retains (done : before.desequence callsign = .ok after) :
    before.Retains after := by
  obtain ⟨flight, found, rfl⟩ := desequence_eq_ok done
  have split := cons_eraseFlight_perm found
  refine ⟨rfl, fun name => ?_, fun other member => ?_⟩
  · -- The callsign is taken out of one list and put into the other.
    have counts := (split.map (·.callsign)).count_eq name
    simp only [List.map_cons, List.count_cons] at counts
    simp only [count_callsigns, List.map_append, List.count_append, List.map_cons, List.map_nil,
      List.count_cons, List.count_nil]
    omega
  · simp only [held, known, List.mem_append, List.mem_singleton] at member ⊢
    rcases member with (tracked | parked | rfl) | waiting
    · exact ⟨other, .inl (.inl (split.mem_iff.mp (List.mem_cons_of_mem _ tracked))), .refl other⟩
    · exact ⟨other, .inl (.inr parked), .refl other⟩
    · exact ⟨flight, .inl (.inl (findFlight_mem found).1), ⟨rfl, rfl⟩⟩
    · exact ⟨other, .inr waiting, .refl other⟩

/-- To bring a flight back adds nothing. -/
theorem resume_retains {now : Instant} (done : before.resume callsign now = .ok (position, after)) :
    before.Retains after := by
  obtain ⟨flight, arranged, found, moved, rfl⟩ := resume_eq_ok done
  have unstable : flight.SameArrival { flight with state := .unstable } := ⟨rfl, rfl⟩
  have same := unstable.trans (Flight.activate_sameArrival _ now)
  have split := cons_eraseFlight_perm found
  refine ⟨rfl, fun name => ?_, fun other member => ?_⟩
  · -- The callsign is taken out of one list and put into the other.
    have counts := (split.map (·.callsign)).count_eq name
    have tracked := (moved.map (·.callsign)).count_eq name
    simp only [List.map_append, List.map_cons, List.map_nil, List.count_append, List.count_cons,
      List.count_nil, same.callsign] at counts tracked
    simp only [count_callsigns]
    omega
  · simp only [held, known, List.mem_append, moved.mem_iff, List.mem_singleton] at member ⊢
    rcases member with ((tracked | rfl) | parked) | waiting
    · exact ⟨other, .inl (.inl tracked), .refl other⟩
    · exact ⟨flight, .inl (.inr (findFlight_mem found).1), same⟩
    · exact ⟨other, .inl (.inr (split.mem_iff.mp (List.mem_cons_of_mem _ parked))), .refl other⟩
    · exact ⟨other, .inr waiting, .refl other⟩

/-- A flight that is taken out of its list leaves everything else in place. -/
theorem takeOut_split (taken : before.takeOut callsign = some (flight, after)) :
    after.airport = before.airport ∧ after.retired = before.retired
      ∧ (flight :: after.held).Perm before.held := by
  -- Whichever list it is taken out of, the pending flights are none of its concern.
  have split := (takeOut_known taken).2.append_right before.pending
  rcases takeOut_eq_some taken with ⟨_, rfl⟩ | ⟨_, rfl⟩
  · exact ⟨rfl, rfl, split⟩
  · exact ⟨rfl, rfl, split⟩

/-- To stop tracking a flight adds nothing: its callsign is retired, or lost. -/
theorem remove_retains (before : Sequence) (callsign : Callsign) :
    before.Retains (before.remove callsign).after := by
  rcases remove_cases before callsign with missing | ⟨flight, rest, taken, removed⟩
  · rw [missing]
    exact .refl before
  · obtain ⟨airport, retired, split⟩ := takeOut_split taken
    have arrivals : ∀ other ∈ rest.held, ∃ former ∈ before.held, former.SameArrival other :=
      fun other member => ⟨other, split.mem_iff.mp (List.mem_cons_of_mem _ member), .refl other⟩
    -- The callsign of the flight comes up once less among those that are held.
    have counts (name : Callsign) := (split.map (·.callsign)).count_eq name
    simp only [List.map_cons, List.count_cons] at counts
    rcases removed with ⟨_, lost⟩ | ⟨_, retires⟩
    · rw [lost]
      refine ⟨airport, fun name => ?_, arrivals⟩
      have count := counts name
      simp only [callsigns, List.count_append, retired]
      omega
    · rw [retires]
      refine ⟨airport, fun name => ?_, arrivals⟩
      have count := counts name
      simp only [callsigns, retire, List.count_append, retired, List.map_append, List.map_cons,
        List.map_nil, List.count_cons, List.count_nil]
      simp only [held, known] at count ⊢
      omega

/-- To retire flights that have landed adds nothing. -/
theorem purgeLanded_retains (before : Sequence) (cutoff : Instant) :
    before.Retains (before.purgeLanded cutoff).2 := by
  rw [purgeLanded_eq]
  have split := List.filter_append_perm (hasLandedBefore cutoff) before.flights
  refine ⟨rfl, fun name => ?_, fun other member => ?_⟩
  · -- The tracked callsigns are divided between those that stay and those that are retired.
    have counts := (split.map (·.callsign)).count_eq name
    simp only [List.map_append, List.count_append] at counts
    simp only [count_callsigns, List.map_append, List.map_map, List.count_append, retirement,
      Function.comp_def] at counts ⊢
    omega
  · simp only [held, known, List.mem_append, List.mem_filter] at member ⊢
    exact ⟨other, member.imp_left (Or.imp_left And.left), .refl other⟩

/-- A pass adds nothing. -/
theorem schedule_retains {scheduler : Scheduler} {outcome : Outcome Sequence Unit}
    (passed : scheduler.schedule before = .ok outcome) : before.Retains outcome.after := by
  obtain ⟨turns, pass⟩ := Scheduler.exists_pass passed
  have others : outcome.after = { before with flights := outcome.after.flights } := by
    rw [pass.after]
  rw [others]
  refine ⟨rfl, fun name => ?_, fun flight member => ?_⟩
  · have same := pass.callsigns_perm.count_eq name
    simp only [count_callsigns, same, Nat.le_refl]
  · simp only [held, known, List.mem_append] at member ⊢
    rcases member with (tracked | parked) | waiting
    · rcases pass.mem_after.mp tracked with ⟨tracked, _⟩ | ⟨turn, taken, rfl⟩
      · exact ⟨flight, .inl (.inl tracked), .refl flight⟩
      · -- A turn schedules and admits a flight, which remains the same arrival.
        obtain ⟨rescheduled, state, same⟩ := pass.result_frame taken
        refine ⟨turn.flight, .inl (.inl (pass.mem_flights taken).1), ?_⟩
        rw [same]
        exact ⟨rescheduled.callsign, by rw [rescheduled.others]⟩
    · exact ⟨flight, .inl (.inr parked), .refl flight⟩
    · exact ⟨flight, .inr waiting, .refl flight⟩

/-- A callsign that no flight of a list has comes up in it no time. -/
theorem count_eq_zero {flights : List Flight}
    (unknown : ∀ other ∈ flights, other.callsign ≠ callsign) :
    (flights.map (·.callsign)).count callsign = 0 := by
  refine List.count_eq_zero.mpr fun member => ?_
  obtain ⟨other, listed, named⟩ := List.mem_map.mp member
  exact unknown other listed named

/-- What passes the check comes up nowhere but among the pending flights. -/
theorem count_of_checked (checked : before.checkNew flight = .ok ()) :
    before.callsigns.count flight.callsign
      = (before.pending.map (·.callsign)).count flight.callsign := by
  obtain ⟨_, unknown, active⟩ := checkNew_eq_ok.mp checked
  have tracked := count_eq_zero fun other member => unknown other (List.mem_append_left _ member)
  have parked := count_eq_zero fun other member => unknown other (List.mem_append_right _ member)
  have retired : (before.retired.map (·.callsign)).count flight.callsign = 0 := by
    refine List.count_eq_zero.mpr fun member => ?_
    obtain ⟨retired, listed, named⟩ := List.mem_map.mp member
    exact active retired listed named
  simp only [count_callsigns, tracked, parked, retired]
  omega

namespace Partitioned

variable (partitioned : before.Partitioned)
include partitioned

/-- To track a flight that passed the check leaves the lists apart, as it is pending no more. -/
theorem track {arranged : List Flight} (checked : before.checkNew flight = .ok ())
    (same : flight.SameArrival added) (moved : arranged.Perm (before.flights ++ [added])) :
    Partitioned { before.dropPending flight.callsign with flights := arranged } := by
  obtain ⟨once, bound⟩ := partitioned_iff.mp partitioned
  obtain ⟨destination, _⟩ := checkNew_eq_ok.mp checked
  refine partitioned_iff.mpr ⟨fun name => ?_, fun other member => ?_⟩
  · have count := once name
    have tracked := (moved.map (·.callsign)).count_eq name
    have waiting : ((before.pending.filter fun other => other.callsign ≠ flight.callsign).map
        (·.callsign)).count name ≤ (before.pending.map (·.callsign)).count name :=
      (List.filter_sublist.map _).count_le name
    simp only [count_callsigns, dropPending, List.map_append, List.count_append, List.map_cons,
      List.map_nil, List.count_cons, List.count_nil, same.callsign] at count tracked ⊢
    rw [tracked]
    by_cases named : flight.callsign = name
    · -- The callsign of the flight itself comes up in no other place.
      subst named
      have elsewhere := count_of_checked checked
      rw [count_callsigns] at elsewhere
      have dropped : ((before.pending.filter fun other => other.callsign ≠ flight.callsign).map
          (·.callsign)).count flight.callsign = 0 :=
        count_eq_zero fun other member => by simpa using (List.mem_filter.mp member).2
      simp only [dropped]
      split <;> omega
    · -- Any other callsign comes up no more often than before.
      simp only [beq_iff_eq, named, if_false]
      omega
  · simp only [held, known, dropPending, List.mem_append, moved.mem_iff, List.mem_singleton,
      List.mem_filter] at member
    rcases member with ((tracked | rfl) | parked) | waiting
    · exact bound other (by simp [held, known, tracked])
    · exact same.destination.trans destination
    · exact bound other (by simp [held, known, parked])
    · exact bound other (by simp [held, waiting.1])

/-- To add a flight leaves the lists apart. -/
theorem addFlight (done : before.addFlight flight = .ok (position, after)) :
    after.airport = before.airport ∧ after.Partitioned := by
  obtain ⟨checked, arranged, moved, rfl⟩ := addFlight_eq_ok done
  exact ⟨rfl, partitioned.track checked (.refl flight) moved⟩

/-- To insert a flight that is admitted leaves the lists apart. -/
theorem insertAdmitted {place : InsertPosition}
    (done : before.insertAdmitted flight place = .ok ((), after)) :
    after.airport = before.airport ∧ after.Partitioned := by
  obtain ⟨checked, pinned, arranged, inserts, moved, rfl⟩ := insertAdmitted_eq_ok done
  exact ⟨rfl, partitioned.track checked inserts.same moved⟩

/-- To insert a flight leaves the lists apart, whether it is refused or not. -/
theorem insertFlight {place : InsertPosition} {outcome : Outcome Sequence Unit}
    (done : before.insertFlight flight place = .ok outcome) :
    outcome.after.airport = before.airport ∧ outcome.after.Partitioned := by
  obtain ⟨_, rfl, cases⟩ := insertFlight_cases done
  -- The retirement of the flight is forgotten in either case.
  have forgotten : before.Retains
      { before with retired := before.retired.filter (·.callsign ≠ flight.callsign) } :=
    .of_sublists rfl (.refl _) (.refl _) (.refl _) List.filter_sublist
  rcases cases with ⟨refusal, _, rfl⟩ | ⟨after, inserted, rfl⟩
  · exact ⟨rfl, partitioned.retained forgotten⟩
  · exact (partitioned.retained forgotten).insertAdmitted inserted

/-- To hold a flight as pending leaves the lists apart, whether it was pending before or not. -/
theorem upsertPending (done : before.upsertPending flight = .ok after) :
    after.airport = before.airport ∧ after.Partitioned := by
  obtain ⟨checked, cases⟩ := upsertPending_eq_ok done
  obtain ⟨destination, _⟩ := checkNew_eq_ok.mp checked
  rcases cases with ⟨old, found, rfl⟩ | ⟨missing, rfl⟩
  · -- Both records of a flight that was pending before are bound for the airport.
    obtain ⟨member, named⟩ := findFlight_mem found
    have bound := partitioned.bound old (List.mem_append_right _ member)
    exact ⟨rfl, partitioned.retained
      (retains_replacePending found ⟨named.symm, destination.trans bound.symm⟩)⟩
  · refine ⟨rfl, ?_⟩
    -- A flight that was not pending either is known to none of the lists.
    have fresh : ∀ other ∈ before.pending, other.callsign ≠ flight.callsign := by
      simpa [findFlight] using missing
    obtain ⟨once, bound⟩ := partitioned_iff.mp partitioned
    refine partitioned_iff.mpr ⟨fun name => ?_, fun other member => ?_⟩
    · have count := once name
      simp only [count_callsigns, List.map_append, List.count_append, List.map_cons,
        List.map_nil, List.count_cons, List.count_nil] at count ⊢
      by_cases named : flight.callsign = name
      · subst named
        have elsewhere := count_of_checked checked
        rw [count_callsigns] at elsewhere
        have waiting := count_eq_zero fresh
        split <;> omega
      · simp only [beq_iff_eq, named, if_false]
        omega
    · simp only [held, List.mem_append, List.mem_singleton] at member
      rcases member with known | waiting | rfl
      · exact bound other (List.mem_append_left _ known)
      · exact bound other (List.mem_append_right _ waiting)
      · exact destination

end Partitioned

end ArrivalManager.Sequence
