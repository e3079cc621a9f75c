import ArrivalManager.Proofs.Flight.Identity
import ArrivalManager.Proofs.Schedule.Resolution
import ArrivalManager.Proofs.Sequence.Tracking

/-! What an operation on a sequence leaves behind when it is not refused, said once for each. -/

namespace ArrivalManager.Sequence

variable {before after : Sequence} {flight : Flight} {callsign : Callsign} {position : Nat}
  {now : Instant}

/-- Moving a flight to the position of its estimate changes the order of the tracked flights only. -/
theorem reposition_eq_ok {displace : Bool}
    (done : before.reposition callsign displace = .ok (position, after)) :
    ∃ arranged, arranged.Perm before.flights ∧ after = { before with flights := arranged } := by
  unfold reposition at done
  split at done
  · cases done
  · rename_i flight found
    cases done
    refine ⟨_, ?_, rfl⟩
    -- The flight is taken out and put back in, wherever that is.
    exact (List.perm_insertIdx _ _ (positionByEstimate_le ..)).trans (cons_eraseFlight_perm found)

/-- The known flights of a name are those that are found under it among tracked and desequenced. -/
theorem isTracked_eq_false :
    before.isTracked callsign = false ↔ ∀ flight ∈ before.known, flight.callsign ≠ callsign := by
  simp [isTracked, known, or_imp, forall_and]

/-- A callsign is tracked or desequenced exactly if it is that of a known flight. -/
theorem isTracked_iff :
    before.isTracked callsign = true ↔ callsign ∈ before.known.map (·.callsign) := by
  simp [isTracked, known]

/-- A flight passes the check exactly if it is bound for the airport, and not known or retired. -/
theorem checkNew_eq_ok : before.checkNew flight = .ok () ↔
    flight.destination = before.airport.identifier
      ∧ (∀ other ∈ before.known, other.callsign ≠ flight.callsign)
      ∧ ∀ retired ∈ before.retired, retired.callsign ≠ flight.callsign := by
  rw [← isTracked_eq_false]
  unfold checkNew isRetired
  -- The check fails with a reason of its own for each of the three conditions.
  by_cases bound : flight.destination = before.airport.identifier
  · cases tracked : before.isTracked flight.callsign <;> simp [bound]
  · simp [bound]

/-- A flight that is added passed the check; it is tracked somewhere, and pending no more. -/
theorem addFlight_eq_ok (done : before.addFlight flight = .ok (position, after)) :
    before.checkNew flight = .ok () ∧ ∃ arranged, arranged.Perm (before.flights ++ [flight])
      ∧ after = { before.dropPending flight.callsign with flights := arranged } := by
  unfold addFlight at done
  obtain ⟨_, checked, done⟩ := bind_eq_ok.mp done
  obtain ⟨arranged, moved, same⟩ := reposition_eq_ok done
  exact ⟨checked, arranged, moved, same⟩

/-- A flight that is held passed the check; its record is replaced if it was pending, or else added. -/
theorem upsertPending_eq_ok (done : before.upsertPending flight = .ok after) :
    before.checkNew flight = .ok () ∧
      ((∃ old, findFlight before.pending flight.callsign = some old
          ∧ after = { before with pending := replaceFlight before.pending flight })
        ∨ findFlight before.pending flight.callsign = none
          ∧ after = { before with pending := before.pending ++ [flight] }) := by
  unfold upsertPending at done
  obtain ⟨_, checked, done⟩ := bind_eq_ok.mp done
  refine ⟨checked, ?_⟩
  split at done
  · rename_i waits
    obtain ⟨old, found⟩ := Option.isSome_iff_exists.mp waits
    cases pure_eq_ok.mp done
    exact .inl ⟨old, found, rfl⟩
  · rename_i missing
    cases pure_eq_ok.mp done
    exact .inr ⟨by simpa using missing, rfl⟩

/-- A flight as it is inserted: the same arrival in the same state, on a runway if the mode has one. -/
structure InsertsAs (sequence : Sequence) (flight pinned : Flight) : Prop where
  same : flight.SameArrival pinned
  state : pinned.state = flight.state
  assigned : sequence.mode.runways ≠ [] → pinned.runway.isSome = true

/-- An inserted flight is otherwise the same, on whichever runway and at whatever time it lands. -/
theorem pinInserted_eq_ok {time : Instant} {runway : Option String} {pinned : Flight}
    (done : before.pinInserted flight time runway = .ok pinned) : before.InsertsAs flight pinned := by
  unfold pinInserted at done
  obtain ⟨fix, rfl⟩ := Flight.pinLandingTime_frame done
  dsimp only
  split
  · exact ⟨⟨rfl, rfl⟩, rfl, fun _ => rfl⟩
  · -- There is none to choose from only if the mode has none.
    rename_i missing
    refine ⟨⟨rfl, rfl⟩, rfl, fun used => ?_⟩
    obtain ⟨_, first⟩ := Option.or_eq_none_iff.mp missing
    exact absurd (List.head?_eq_none_iff.mp (Option.map_eq_none_iff.mp first)) used

/-- A flight that is admitted passed the check; it is tracked with its landing pinned. -/
theorem insertAdmitted_eq_ok {place : InsertPosition}
    (done : before.insertAdmitted flight place = .ok ((), after)) :
    before.checkNew flight = .ok () ∧ ∃ pinned arranged, before.InsertsAs flight pinned
      ∧ arranged.Perm (before.flights ++ [pinned])
      ∧ after = { before.dropPending flight.callsign with flights := arranged } := by
  unfold insertAdmitted at done
  obtain ⟨_, checked, done⟩ := bind_eq_ok.mp done
  obtain ⟨⟨time, runway⟩, _, done⟩ := bind_eq_ok.mp done
  obtain ⟨pinned, chosen, done⟩ := bind_eq_ok.mp done
  cases pure_eq_ok.mp done
  exact ⟨liftRefusal_eq_ok.mp checked, pinned, _, pinInserted_eq_ok (liftOverflow_eq_ok.mp chosen),
    sortFlights_perm _, rfl⟩

/-- An insertion forgets the retirement of the flight, and then admits it or is refused. -/
theorem insertFlight_cases {place : InsertPosition} {outcome : Outcome Sequence Unit}
    (done : before.insertFlight flight place = .ok outcome) :
    ∃ remembered, remembered
        = { before with retired := before.retired.filter (·.callsign ≠ flight.callsign) }
      ∧ ((∃ refusal, remembered.insertAdmitted flight place = .error (.refused refusal)
          ∧ outcome = ⟨.error refusal, remembered⟩)
        ∨ ∃ after, remembered.insertAdmitted flight place = .ok ((), after)
          ∧ outcome = ⟨.ok (), after⟩) := by
  refine ⟨_, rfl, ?_⟩
  unfold insertFlight at done
  rcases Outcome.ofFaulty_eq_ok done with refused | ⟨_, admitted⟩
  · exact .inl refused
  · exact .inr admitted

/-- A flight that is taken out for the time being was tracked, and is the last desequenced one. -/
theorem desequence_eq_ok (done : before.desequence callsign = .ok after) :
    ∃ flight, before.flight? callsign = some flight ∧ after = { before with
      flights := eraseFlight before.flights callsign
      desequenced := before.desequenced ++ [{ flight with state := .desequenced }] } := by
  unfold desequence at done
  split at done
  · cases done
  · rename_i flight found
    obtain ⟨parked, moved, done⟩ := bind_eq_ok.mp done
    cases pure_eq_ok.mp done
    obtain rfl := Flight.setState_eq_ok moved
    exact ⟨flight, found, rfl⟩

/-- A flight that is brought back was desequenced, and is tracked anew as an unstable one. -/
theorem resume_eq_ok (done : before.resume callsign now = .ok (position, after)) :
    ∃ flight arranged, findFlight before.desequenced callsign = some flight
      ∧ arranged.Perm
        (before.flights ++ [Flight.activate { flight with state := .unstable } now])
      ∧ after = { before with
        flights := arranged
        desequenced := eraseFlight before.desequenced callsign } := by
  unfold resume at done
  split at done
  · cases done
  · rename_i flight found
    obtain ⟨resumed, moved, done⟩ := bind_eq_ok.mp done
    obtain ⟨_, rfl⟩ := Flight.resume_eq_ok moved
    obtain ⟨arranged, moved, same⟩ := reposition_eq_ok done
    exact ⟨flight, arranged, found, moved, same⟩

/-- To take a flight out for the time being leaves its callsign known, in the other list. -/
theorem desequence_callsigns (done : before.desequence callsign = .ok after) :
    (after.known.map (·.callsign)).Perm (before.known.map (·.callsign)) := by
  obtain ⟨flight, found, rfl⟩ := desequence_eq_ok done
  have split := (cons_eraseFlight_perm found).map (·.callsign)
  have callsigns := split.append_right (before.desequenced.map (·.callsign))
  simp only [known, List.map_append, List.map_cons, List.map_nil, List.cons_append] at callsigns ⊢
  rw [← List.append_assoc]
  exact (List.perm_append_singleton _ _).trans callsigns

/-- To bring a flight back leaves its callsign known, in the other list. -/
theorem resume_callsigns (done : before.resume callsign now = .ok (position, after)) :
    (after.known.map (·.callsign)).Perm (before.known.map (·.callsign)) := by
  obtain ⟨flight, arranged, found, moved, rfl⟩ := resume_eq_ok done
  have same := (Flight.activate_sameArrival { flight with state := .unstable } now).callsign
  have split := (cons_eraseFlight_perm found).map (·.callsign)
  have callsigns := split.append_left (before.flights.map (·.callsign))
  -- Where the flight is tracked does not matter.
  refine (((moved.append_right _).map (·.callsign)).trans ?_).trans (.of_eq List.map_append.symm)
  simpa [same] using callsigns

/-- A flight that is tracked as well is known besides the others, and no longer pending. -/
theorem track_callsigns {arranged : List Flight} (moved : arranged.Perm (before.flights ++ [flight]))
    (name : Callsign) :
    ((known { before.dropPending name with flights := arranged }).map (·.callsign)).Perm
      (flight.callsign :: before.known.map (·.callsign)) := by
  have known := (moved.append_right before.desequenced).map (·.callsign)
  exact known.trans (by simp [Sequence.known])

/-- A flight that is taken out of its list was tracked, or else desequenced. -/
theorem takeOut_eq_some (taken : before.takeOut callsign = some (flight, after)) :
    (before.flight? callsign = some flight
        ∧ after = { before with flights := eraseFlight before.flights callsign })
      ∨ (findFlight before.desequenced callsign = some flight
        ∧ after = { before with desequenced := eraseFlight before.desequenced callsign }) := by
  unfold takeOut at taken
  split at taken
  · -- A tracked flight is taken out first.
    rename_i found
    cases taken
    exact .inl ⟨found, rfl⟩
  · obtain ⟨parked, found, same⟩ := Option.map_eq_some_iff.mp taken
    cases same
    exact .inr ⟨found, rfl⟩

/-- A flight that is taken out of its list is known no more, and all others still are. -/
theorem takeOut_known (taken : before.takeOut callsign = some (flight, after)) :
    flight.callsign = callsign ∧ (flight :: after.known).Perm before.known := by
  rcases takeOut_eq_some taken with ⟨found, rfl⟩ | ⟨found, rfl⟩
  · exact ⟨(findFlight_mem found).2, (cons_eraseFlight_perm found).append_right _⟩
  · -- The flight stands behind the tracked ones.
    refine ⟨(findFlight_mem found).2, List.Perm.trans ?_ ((cons_eraseFlight_perm found).append_left _)⟩
    exact List.perm_middle.symm

/-- A removal finds no flight, loses one that was removed before, or retires one. -/
theorem remove_cases (before : Sequence) (callsign : Callsign) :
    before.remove callsign = ⟨.error (.flightNotFound callsign), before⟩
      ∨ ∃ flight rest, before.takeOut callsign = some (flight, rest)
        ∧ ((flight.state = .removed
            ∧ before.remove callsign = ⟨.error (.flightRemoved flight.callsign), rest⟩)
          ∨ (flight.state ≠ .removed
            ∧ before.remove callsign = ⟨.ok { flight with state := .removed },
              rest.retire { flight with state := .removed }⟩)) := by
  cases taken : before.takeOut callsign with
  | none => exact .inl (by simp only [remove, taken])
  | some found =>
    obtain ⟨flight, rest⟩ := found
    refine .inr ⟨flight, rest, rfl, ?_⟩
    by_cases gone : flight.state = .removed
    · have refused : flight.setState .removed = .error (.flightRemoved flight.callsign) := if_pos gone
      exact .inl ⟨gone, by simp only [remove, taken, refused]⟩
    · -- From every other state a flight may be removed.
      have moved : flight.setState .removed = .ok { flight with state := .removed } := by
        simp [Flight.setState, gone, FlightState.isSequenced]
      exact .inr ⟨gone, by simp only [remove, taken, moved]⟩

/-- A removal does not look for the flight among the pending ones. -/
theorem remove_pending (before : Sequence) (callsign : Callsign) :
    (before.remove callsign).after.pending = before.pending := by
  rcases remove_cases before callsign with missing | ⟨flight, rest, taken, removed⟩
  · rw [missing]
  · have pending : rest.pending = before.pending := by
      rcases takeOut_eq_some taken with ⟨_, rfl⟩ | ⟨_, rfl⟩
      · rfl
      · rfl
    -- Whether it was removed before or is retired, the flight is out of its list by then.
    rcases removed with ⟨_, lost⟩ | ⟨_, retires⟩
    · rw [lost]
      exact pending
    · rw [retires]
      exact pending

/-- The entry under which a flight is retired. -/
def retirement (flight : Flight) : RetiredFlight :=
  ⟨flight.callsign, max flight.landing.scheduled flight.landing.estimate⟩

/-- To retire flights one after the other adds their entries, and concerns nothing else. -/
theorem foldl_retire (landed : List Flight) (sequence : Sequence) :
    landed.foldl retire sequence
      = { sequence with retired := sequence.retired ++ landed.map retirement } := by
  induction landed generalizing sequence with
  | nil => simp
  | cons flight rest ih =>
    rw [List.foldl_cons, ih]
    simp [retire, retirement]

/-- To purge landed flights leaves them out, and retires them. -/
theorem purgeLanded_eq (before : Sequence) (cutoff : Instant) :
    (before.purgeLanded cutoff).2 = { before with
      flights := before.flights.filter (not ∘ hasLandedBefore cutoff)
      retired := before.retired
        ++ (before.flights.filter (hasLandedBefore cutoff)).map retirement } := by
  unfold purgeLanded
  simp only [List.partition_eq_filter_filter]
  exact foldl_retire _ _

/-- To swap the modes carries out a change that is due, and does nothing otherwise. -/
theorem trySwapModes_cases (before : Sequence) (now : Instant) :
    (before.trySwapModes now).2 = before
      ∨ ∃ change, before.modeChange = some change ∧ change.firstLanding ≤ now
        ∧ (before.trySwapModes now).2 = before.changeMode change.mode := by
  unfold trySwapModes
  split
  · rename_i change planned
    split
    · rename_i due
      exact .inr ⟨change, planned, due, rfl⟩
    · -- Until its first landing time, the change stays planned.
      exact .inl rfl
  · exact .inl rfl

/-- To swap the modes has nothing to do with the flights. -/
theorem trySwapModes_flights (before : Sequence) (flights : List Flight) (now : Instant) :
    (trySwapModes { before with flights } now).2 = { (before.trySwapModes now).2 with flights } := by
  unfold trySwapModes
  dsimp only
  split
  · split <;> rfl
  · rfl

/-- No change of the mode is due after it was carried out. -/
theorem trySwapModes_undue {change : ModeChange}
    (planned : (before.trySwapModes now).2.modeChange = some change) : now < change.firstLanding := by
  unfold trySwapModes at planned
  split at planned
  · rename_i former known
    split at planned
    · cases planned
    · rename_i undue
      obtain rfl := Option.some.inj (known.symm.trans planned)
      exact not_le.mp undue
  · rename_i unplanned
    exact absurd (unplanned.symm.trans planned) (by simp)

/-- Where no change of the mode is due, none is carried out. -/
theorem trySwapModes_of_undue
    (undue : ∀ change, before.modeChange = some change → now < change.firstLanding) :
    (before.trySwapModes now).2 = before := by
  rcases before.trySwapModes_cases now with same | ⟨change, planned, due, _⟩
  · exact same
  · exact absurd due (not_le.mpr (undue change planned))

/--
To swap the modes concerns no flight, whether the time for it has come or not.

Without a planned change there is none to carry out, and none comes about. No mode is new either.
-/
theorem trySwapModes_eq (before : Sequence) (now : Instant) :
    ∃ mode modeChange, (before.trySwapModes now).2 = { before with mode, modeChange }
      ∧ (before.modeChange = none → mode = before.mode ∧ modeChange = none)
      ∧ ∀ searched, Scheduler.Searches { before with mode, modeChange } searched →
        Scheduler.Searches before searched := by
  rcases before.trySwapModes_cases now with same | ⟨change, planned, _, swapped⟩
  · exact ⟨before.mode, before.modeChange, same, fun unplanned => ⟨rfl, unplanned⟩, fun _ => id⟩
  · refine ⟨change.mode, none, swapped, fun unplanned => by simp [planned] at unplanned, ?_⟩
    -- What was planned is the current mode from now on.
    rintro _ (rfl | ⟨_, nothing, _⟩)
    · exact .inr ⟨change, planned, rfl⟩
    · cases nothing

/-- To declare a slot concerns no flight. -/
theorem createSlot_eq_ok {id : SlotId} {start finish : Instant} {runways : List String}
    (done : before.createSlot id start finish runways = .ok after) :
    ∃ slots, after = { before with slots } := by
  obtain ⟨slot, _, done⟩ := bind_eq_ok.mp done
  cases pure_eq_ok.mp done
  exact ⟨_, rfl⟩

/-- To move a slot concerns no flight. -/
theorem modifySlot_eq_ok {id : SlotId} {start finish : Instant}
    (done : before.modifySlot id start finish = .ok after) :
    ∃ slots, after = { before with slots } := by
  unfold modifySlot at done
  split at done
  · cases done
  · obtain ⟨moved, _, done⟩ := bind_eq_ok.mp done
    cases pure_eq_ok.mp done
    exact ⟨_, rfl⟩

/-- To give up a slot concerns no flight. -/
theorem deleteSlot_eq_ok {id : SlotId} {slot : Slot}
    (done : before.deleteSlot id = .ok (slot, after)) :
    ∃ slots, after = { before with slots } := by
  unfold deleteSlot at done
  split at done
  · cases done
  · cases done
    exact ⟨_, rfl⟩

end ArrivalManager.Sequence
