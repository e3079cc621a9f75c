import ArrivalManager.Proofs.Sequence.Operation

/-! What the routine changes of a sequence respect: callsigns, delegation, and landings once kept. -/

namespace ArrivalManager.Sequence

variable {before middle after : Sequence} {old new flight : Flight} {callsign : Callsign}

/--
A change of a sequence that keeps what was promised about landings.

Without a planned change the mode stays. No callsign comes up twice, nothing is taken out of the
scheduler's hands, and a flight that now keeps its landing was tracked with the same landing before.
-/
structure Carries (before after : Sequence) : Prop where
  airport : after.airport = before.airport
  unplanned : before.modeChange = none → after.mode = before.mode ∧ after.modeChange = none
  distinct : DistinctCallsigns before.known → DistinctCallsigns after.known
  delegated : (∀ flight ∈ before.known, flight.Delegated) → ∀ flight ∈ after.known, flight.Delegated
  sequenced : (∀ flight ∈ before.flights, flight.state.isSequenced = true) →
    ∀ flight ∈ after.flights, flight.state.isSequenced = true
  anchored : ∀ flight ∈ after.flights, flight.state.isAnchored = true →
    ∃ former ∈ before.flights, former.Keeps flight

namespace Carries

/-- What is rearranged after a change belongs to the change. -/
theorem rearranged (carries : before.Carries middle) (rearranges : middle.Rearranges after) :
    before.Carries after where
  airport := rearranges.airport.trans carries.airport
  unplanned none := by
    obtain ⟨mode, still⟩ := carries.unplanned none
    exact ⟨rearranges.mode.trans mode, rearranges.modeChange.trans still⟩
  distinct known := (carries.distinct known).perm (rearranges.known.map _)
  delegated left flight member := carries.delegated left flight (rearranges.known.mem_iff.mp member)
  sequenced left flight member := carries.sequenced left flight (rearranges.flights.mem_iff.mp member)
  anchored flight member := carries.anchored flight (rearranges.flights.mem_iff.mp member)

/-- A sequence carries everything over to itself. -/
theorem refl (sequence : Sequence) : sequence.Carries sequence :=
  ⟨rfl, fun none => ⟨rfl, none⟩, id, id, id, fun flight member _ => ⟨flight, member, .refl flight⟩⟩

/-- To rearrange a sequence is no more than a routine change. -/
theorem of_rearranges (rearranges : before.Rearranges after) : before.Carries after :=
  (refl before).rearranged rearranges

end Carries

/-- New data for tracked flights, in any order, is a routine change if the mode does not change. -/
theorem carries_records {flights arranged : List Flight} {slots : List Slot} {mode : RunwayMode}
    {modeChange : Option ModeChange}
    (records : List.Forall₂ (fun old new : Flight => old.Keeps new
      ∧ new.state.isSequenced = old.state.isSequenced) before.flights flights)
    (moved : arranged.Perm flights)
    (unplanned : before.modeChange = none → mode = before.mode ∧ modeChange = none) :
    before.Carries { before with flights := arranged, slots, mode, modeChange } := by
  -- Every tracked flight has its former record in the place where it was before it was moved.
  have former {new : Flight} (tracked : new ∈ arranged) : ∃ old ∈ before.flights,
      old.Keeps new ∧ new.state.isSequenced = old.state.isSequenced :=
    exists_of_forall₂ records (moved.mem_iff.mp tracked)
  have callsigns : (arranged.map (·.callsign)).Perm (before.flights.map (·.callsign)) := by
    rw [← map_eq_of_forall₂ records fun both => both.1.callsign]
    exact moved.map _
  refine ⟨rfl, unplanned, fun distinct => distinct.perm ?_, fun left flight known => ?_,
    fun left flight tracked => ?_, fun flight tracked _ => ?_⟩
  · -- No callsign is new, so none comes up twice.
    simpa [known] using callsigns.append_right (before.desequenced.map (·.callsign))
  · rcases List.mem_append.mp known with tracked | parked
    · obtain ⟨old, listed, keeps, _⟩ := former tracked
      exact keeps.delegated (left old (List.mem_append_left _ listed))
    · exact left flight (List.mem_append_right _ parked)
  · obtain ⟨old, listed, _, state⟩ := former tracked
    rw [state]
    exact left old listed
  · obtain ⟨old, listed, keeps, _⟩ := former tracked
    exact ⟨old, listed, keeps⟩

/-- New data for a desequenced flight is a routine change. -/
theorem carries_replaceParked (found : findFlight before.desequenced callsign = some old)
    (keeps : old.Keeps new) :
    before.Carries { before with desequenced := replaceFlight before.desequenced new } := by
  refine ⟨rfl, fun none => ⟨rfl, none⟩, fun distinct => distinct.perm ?_, fun left flight known => ?_,
    id, fun flight tracked _ => ⟨flight, tracked, .refl flight⟩⟩
  · -- The replacement has the callsign of the flight that it replaces.
    simp [known, replaceFlight_callsigns]
  · -- The tracked flights are untouched, so only the desequenced ones may be new.
    rcases List.mem_append.mp known with tracked | parked
    · exact left flight (List.mem_append_left _ tracked)
    · rcases mem_replaceFlight parked with rfl | parked
      · exact keeps.delegated (left old (List.mem_append_right _ (findFlight_mem found).1))
      · exact left flight (List.mem_append_right _ parked)

/-- To track one more flight, which waits for its landing, is a routine change. -/
theorem carries_track (unknown : before.isTracked flight.callsign = false)
    (delegated : flight.Delegated) (waits : flight.state.isSchedulable = true) :
    before.Carries { before with flights := before.flights ++ [flight] } := by
  have fresh := isTracked_eq_false.mp unknown
  have known : (known { before with flights := before.flights ++ [flight] }).Perm
      (flight :: before.known) := by
    simp [Sequence.known]
  refine ⟨rfl, fun none => ⟨rfl, none⟩, fun distinct => ?_, fun left other member => ?_,
    fun left other tracked => ?_, fun other tracked anchored => ?_⟩
  · -- The name was not known before, so it does not come up twice.
    have extended : DistinctCallsigns (flight :: before.known) := by
      refine List.nodup_cons.mpr ⟨fun member => ?_, distinct⟩
      obtain ⟨other, listed, named⟩ := List.mem_map.mp member
      exact fresh other listed named
    exact extended.perm (known.map _)
  · -- What is known now is the added flight or was known before.
    rcases List.mem_cons.mp (known.mem_iff.mp member) with rfl | member
    · exact delegated
    · exact left other member
  · rcases List.mem_append.mp tracked with tracked | added
    · exact left other tracked
    · obtain rfl := List.mem_singleton.mp added
      -- Both states in which a flight waits belong to the chain.
      exact FlightState.isSequenced_of_schedulable waits
  · rcases List.mem_append.mp tracked with tracked | added
    · exact ⟨other, tracked, .refl other⟩
    · -- A flight that waits keeps no landing yet.
      obtain rfl := List.mem_singleton.mp added
      exact absurd (FlightState.isSchedulable_of_anchored anchored) (by simp [waits])

/-- To add a flight that waits for its landing is a routine change. -/
theorem addFlight_carries {position : Nat} (done : before.addFlight flight = .ok (position, after))
    (delegated : flight.Delegated) (waits : flight.state.isSchedulable = true) :
    before.Carries after := by
  obtain ⟨checked, arranged, moved, rfl⟩ := addFlight_eq_ok done
  -- The check in front refuses a flight that is tracked or desequenced.
  have unknown := isTracked_eq_false.mpr (checkNew_eq_ok.mp checked).2.1
  exact (carries_track unknown delegated waits).rearranged ⟨rfl, rfl, rfl, moved, rfl⟩

/-- To hold a flight as pending is a routine change. -/
theorem upsertPending_rearranges (done : before.upsertPending flight = .ok after) :
    before.Rearranges after := by
  -- Whether a flight is held anew or again, only the pending flights change.
  obtain ⟨_, ⟨_, _, rfl⟩ | ⟨_, rfl⟩⟩ := upsertPending_eq_ok done
  · exact ⟨rfl, rfl, rfl, .refl _, rfl⟩
  · exact ⟨rfl, rfl, rfl, .refl _, rfl⟩

/-- To take a flight out for the time being is a routine change. -/
theorem desequence_carries (done : before.desequence callsign = .ok after) :
    before.Carries after := by
  have callsigns := desequence_callsigns done
  obtain ⟨flight, found, rfl⟩ := desequence_eq_ok done
  -- The flight is set apart from the others, which all stay tracked.
  have split := cons_eraseFlight_perm found
  have remains {other : Flight} (member : other ∈ eraseFlight before.flights callsign) :
      other ∈ before.flights := split.mem_iff.mp (List.mem_cons_of_mem _ member)
  refine ⟨rfl, fun none => ⟨rfl, none⟩, fun distinct => distinct.perm callsigns,
    fun left other member => ?_, fun left other tracked => left other (remains tracked),
    fun other tracked _ => ⟨other, remains tracked, .refl other⟩⟩
  -- What is known now was tracked, was desequenced, or is the flight that was taken out.
  simp only [known, List.mem_append, List.mem_singleton] at member
  rcases member with tracked | parked | rfl
  · exact left other (List.mem_append_left _ (remains tracked))
  · exact left other (List.mem_append_right _ parked)
  · exact (flight.keeps_state .desequenced).delegated
      (left flight (List.mem_append_left _ (findFlight_mem found).1))

/-- To bring a flight back is a routine change. -/
theorem resume_carries {position : Nat} {now : Instant}
    (done : before.resume callsign now = .ok (position, after)) : before.Carries after := by
  have callsigns := resume_callsigns done
  obtain ⟨flight, arranged, found, moved, rfl⟩ := resume_eq_ok done
  have split := cons_eraseFlight_perm found
  have remains {other : Flight} (member : other ∈ eraseFlight before.desequenced callsign) :
      other ∈ before.desequenced := split.mem_iff.mp (List.mem_cons_of_mem _ member)
  obtain ⟨landing, fix, same, _⟩ := Flight.activate_frame { flight with state := .unstable } now
  refine ⟨rfl, fun none => ⟨rfl, none⟩, fun distinct => distinct.perm callsigns,
    fun left other member => ?_, fun left other tracked => ?_, fun other tracked anchored => ?_⟩
  · simp only [known, List.mem_append, moved.mem_iff, List.mem_singleton] at member
    -- Activation sets times, but takes nothing out of the scheduler's hands.
    rcases member with (tracked | rfl) | parked
    · exact left other (List.mem_append_left _ tracked)
    · exact ((flight.keeps_state .unstable).delegated
        (left flight (List.mem_append_right _ (findFlight_mem found).1))).activate now
    · exact left other (List.mem_append_right _ (remains parked))
  · -- To be unstable is to be in the chain of states.
    rcases List.mem_append.mp (moved.mem_iff.mp tracked) with tracked | added
    · exact left other tracked
    · rw [List.mem_singleton.mp added, same]
      rfl
  · rcases List.mem_append.mp (moved.mem_iff.mp tracked) with tracked | added
    · exact ⟨other, tracked, .refl other⟩
    · -- The flight is unstable again, so it waits for a new landing.
      rw [List.mem_singleton.mp added, same] at anchored
      simp [FlightState.isAnchored] at anchored

/-- A sequence with the same modes, from which flights were at most left out. -/
structure Drops (before after : Sequence) : Prop where
  airport : after.airport = before.airport
  mode : after.mode = before.mode
  modeChange : after.modeChange = before.modeChange
  flights : after.flights.Sublist before.flights
  desequenced : after.desequenced.Sublist before.desequenced

namespace Drops

/-- Nothing has to be left out. -/
theorem refl (sequence : Sequence) : sequence.Drops sequence := ⟨rfl, rfl, rfl, .refl _, .refl _⟩

/-- What is left of the known flights was known. -/
theorem known (drops : before.Drops after) : after.known.Sublist before.known :=
  drops.flights.append drops.desequenced

/-- To leave flights out is a routine change. -/
theorem carries (drops : before.Drops after) : before.Carries after where
  airport := drops.airport
  unplanned none := ⟨drops.mode, drops.modeChange.trans none⟩
  distinct known := (drops.known.map _).nodup known
  delegated left flight member := left flight (drops.known.subset member)
  sequenced left flight member := left flight (drops.flights.subset member)
  anchored flight member _ := ⟨flight, drops.flights.subset member, .refl flight⟩

end Drops

/-- To stop tracking a flight leaves it out, also if it was removed already. -/
theorem remove_drops (before : Sequence) (callsign : Callsign) :
    before.Drops (before.remove callsign).after := by
  rcases before.remove_cases callsign with same | ⟨flight, rest, taken, removal⟩
  · rw [same]
    exact .refl before
  · -- It is out of its list, tracked or desequenced, whether its state can still change or not.
    have left : before.Drops rest := by
      rcases takeOut_eq_some taken with ⟨_, rfl⟩ | ⟨_, rfl⟩
      · exact ⟨rfl, rfl, rfl, List.eraseP_sublist, .refl _⟩
      · exact ⟨rfl, rfl, rfl, .refl _, List.eraseP_sublist⟩
    rcases removal with ⟨_, same⟩ | ⟨_, same⟩
    · rw [same]
      exact left
    · -- To retire the flight concerns neither of the lists.
      rw [same]
      exact ⟨left.airport, left.mode, left.modeChange, left.flights, left.desequenced⟩

end ArrivalManager.Sequence
