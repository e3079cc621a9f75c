import ArrivalManager.Proofs.Sequence.InPlace

/-! A refused operation leaves the sequence as it was, with two exceptions that are named here. -/

namespace ArrivalManager.Sequence

variable {scheduler : Scheduler} {sequence after : Sequence} {flight : Flight} {callsign : Callsign}
  {operation : Operation} {refusal : Refusal} {steps : InPlace Answer}

/--
Whether something is changed for good before an operation can still be refused.

An insertion forgets a retirement first, and a removal takes a flight out first.
-/
def LeavesTrace (sequence : Sequence) : Operation → Prop
  | .insertFlight flight _ => sequence.isRetired flight.callsign = true
  | .remove callsign => ∃ flight rest, sequence.takeOut callsign = some (flight, rest)
    ∧ flight.state = .removed
  | _ => False

/-- What is settled as a whole leaves nothing behind when it is refused. -/
theorem settled_refused {result : Except Refusal (Answer × Sequence)}
    (done : sequence.settled result = .ok ⟨.error refusal, after⟩) : after = sequence := by
  cases result with
  | error other =>
    cases done
    rfl
  | ok given => cases done

/-- A refused insertion leaves the sequence as it was exactly if there was no retirement to forget. -/
theorem insertFlight_refused_iff {position : InsertPosition}
    (done : sequence.insertFlight flight position = .ok ⟨.error refusal, after⟩) :
    after = sequence ↔ ¬ sequence.isRetired flight.callsign = true := by
  obtain ⟨remembered, shape, ⟨_, _, same⟩ | ⟨_, _, same⟩⟩ := insertFlight_cases done
  · obtain rfl : after = remembered := congrArg Outcome.after same
    have kept : after = sequence
        ↔ sequence.retired.filter (·.callsign ≠ flight.callsign) = sequence.retired := by
      rw [shape]
      constructor
      · exact congrArg Sequence.retired
      · intro same
        rw [same]
    -- The filter keeps all of the retired flights if none of them has the name.
    rw [kept, List.filter_eq_self]
    simp [isRetired]
  · -- An insertion that is carried out is not refused.
    cases same

/-- A sequence is not the same without a flight that is taken out of it. -/
theorem ne_of_takeOut (taken : sequence.takeOut callsign = some (flight, after)) :
    after ≠ sequence := by
  intro same
  -- It has one flight more than what is left of it.
  have longer := (takeOut_known taken).2.length_eq
  rw [same, List.length_cons] at longer
  omega

/-- A refused removal leaves the sequence as it was exactly if it did not find a removed flight. -/
theorem remove_refused_iff (done : sequence.remove callsign = ⟨.error refusal, after⟩) :
    after = sequence ↔ ¬ ∃ flight rest, sequence.takeOut callsign = some (flight, rest)
      ∧ flight.state = .removed := by
  rcases remove_cases sequence callsign with missing | ⟨flight, rest, taken, ends⟩
  · have same : sequence = after := congrArg Outcome.after (missing.symm.trans done)
    refine iff_of_true same.symm ?_
    rintro ⟨flight, rest, taken, gone⟩
    -- A flight that was removed would have been found.
    have lost : sequence.remove callsign = ⟨.error (.flightRemoved flight.callsign), rest⟩ := by
      simp [remove, taken, Flight.setState, gone]
    cases missing.symm.trans lost
  · rcases ends with ⟨gone, lost⟩ | ⟨_, retires⟩
    · obtain rfl : rest = after := congrArg Outcome.after (lost.symm.trans done)
      exact iff_of_false (ne_of_takeOut taken) (not_not_intro ⟨flight, rest, taken, gone⟩)
    · -- A removal that is carried out is not refused.
      cases retires.symm.trans done

/--
An operation that is refused changes nothing, unless it leaves one of the two traces.

This is so although each operation is carried out in steps, with nothing that undoes them: what its
steps leave behind in place is what the operation leaves behind.
-/
theorem refusal_rollsBack (listed : operation.inPlace = some steps)
    (done : sequence.perform scheduler operation = .ok ⟨.error refusal, after⟩) :
    steps.outcome sequence = .ok ⟨.error refusal, after⟩
      ∧ (after = sequence ↔ ¬ sequence.LeavesTrace operation) := by
  refine ⟨(inPlace_outcome listed scheduler sequence).trans done, ?_⟩
  cases operation with
  | addFlight _ | reposition _ _ | desequence _ | resume _ _ | upsertPending _ | createSlot _ _ _ _
  | modifySlot _ _ _ | deleteSlot _ =>
    -- Nothing changes before the last step that may be refused.
    exact iff_of_true (settled_refused done) not_false
  | insertFlight flight position =>
    -- That the answer is put in other terms makes no difference to a refusal.
    obtain ⟨inserted, given, same⟩ := bind_eq_ok.mp done
    rw [Outcome.map_eq_refused.mp (pure_eq_ok.mp same)] at given
    exact insertFlight_refused_iff given
  | remove callsign =>
    exact remove_refused_iff (Outcome.map_eq_refused.mp (Except.ok.inj done))
  | _ => cases listed

/-- The sample airport with landings to the north on one runway only. -/
def sampleSingle : Airport := { Airport.sample with modes := [singleMode] }

/-- A flight that is tracked is not tracked once more, and all stays as it was. -/
theorem refusal_rollsBack_sampleAnchor :
    ∃ start before after, ofAirport sampleSingle = .ok start
      ∧ start.follow .sample [.addFlight .sampleAnchor] = some before
      ∧ before.perform .sample (.addFlight .sampleAnchor)
        = .ok ⟨.error (.duplicateCallsign "QFA1"), after⟩
      ∧ after = before := by
  have listed : (Operation.addFlight .sampleAnchor).inPlace = some _ := rfl
  refine ⟨_, _, _, rfl, rfl, rfl, ?_⟩
  exact (refusal_rollsBack listed (rfl : perform .sample _ _ = _)).2.mpr id

/-- A flight that is tracked, and removed. -/
def sampleRemoval : List Operation := [.addFlight .sampleAnchor, .remove "QFA1"]

/-- A flight that is tracked, and marked as removed where it is. -/
def sampleMarking : List Operation :=
  [.addFlight .sampleAnchor, .onFlight "QFA1" [.setState .removed]]

/-- A refused insertion forgets a retirement, and a refused removal loses a flight. -/
theorem refusal_leavesTrace_samples :
    ∃ start retired marked, ofAirport sampleSingle = .ok start
      ∧ start.follow .sample sampleRemoval = some retired
      ∧ start.follow .sample sampleMarking = some marked
      ∧ (∃ after, retired.perform .sample (.insertFlight .sampleAnchor (.before "VOZ2"))
          = .ok ⟨.error (.flightNotFound "VOZ2"), after⟩
        ∧ retired.isRetired "QFA1" = true ∧ after.isRetired "QFA1" = false)
      ∧ ∃ after, marked.perform .sample (.remove "QFA1")
          = .ok ⟨.error (.flightRemoved "QFA1"), after⟩
        ∧ marked.isTracked "QFA1" = true ∧ after.isTracked "QFA1" = false
        ∧ after.isRetired "QFA1" = false := by
  refine ⟨_, _, _, rfl, rfl, rfl, ?_, ?_⟩
  · exact ⟨_, rfl, rfl, rfl⟩
  · exact ⟨_, rfl, rfl, rfl, rfl⟩

end ArrivalManager.Sequence
