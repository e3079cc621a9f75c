import ArrivalManager.Proofs.Result
import ArrivalManager.Proofs.Schedule.Resolution
import ArrivalManager.Service

/-! Only a scheduling pass fails for want of a landing time; everything else is refused otherwise. -/

namespace ArrivalManager

/-- A computation that, if it is refused, is not refused for want of a landing time. -/
def Rejects {α : Type} (result : Except Refusal α) : Prop :=
  ∀ refusal, result = .error refusal → refusal.isUnsatisfiable = false

namespace Rejects

variable {α β : Type}

/-- What succeeds is not refused at all. -/
theorem ok (value : α) : Rejects (.ok value) := by
  intro refusal refused
  cases refused

/-- A refusal for another reason is one. -/
theorem error {refusal : Refusal} (rejects : refusal.isUnsatisfiable = false) :
    Rejects (.error refusal : Except Refusal α) := by
  intro other refused
  cases refused
  exact rejects

/-- Two steps reject if each of them does. -/
theorem bind {first : Except Refusal α} {next : α → Except Refusal β} (head : Rejects first)
    (tail : ∀ middle, Rejects (next middle)) : Rejects (first >>= next) := by
  intro refusal refused
  rcases bind_eq_error.mp refused with refused | ⟨middle, _, refused⟩
  · exact head refusal refused
  · exact tail middle refusal refused

end Rejects

/-- A window is only refused for its times. -/
theorem Blockout.between_rejects (start finish : Instant) : Rejects (between start finish) := by
  unfold between
  split
  · exact .ok _
  · exact .error rfl

/-- A plan is only refused for its times. -/
theorem ModeChange.plan_rejects (mode : RunwayMode) (lastLanding firstLanding : Instant) :
    Rejects (plan mode lastLanding firstLanding) := by
  unfold plan
  split
  · exact .ok _
  · exact .error rfl

namespace Flight

/-- A change of the state is only refused for the states. -/
theorem setState_rejects (flight : Flight) (target : FlightState) :
    Rejects (flight.setState target) := by
  unfold setState
  split
  · exact .error rfl
  · dsimp only
    split
    · exact .error rfl
    · exact .ok _

/-- To bring a flight back is only refused for its state. -/
theorem resume_rejects (flight : Flight) (now : Instant) : Rejects (flight.resume now) := by
  unfold resume
  split
  · exact .error rfl
  · exact .ok _
  · exact .error rfl

end Flight

namespace Sequence

variable (sequence : Sequence) (flight : Flight) (callsign : Callsign)

/-- The check of a flight refuses it for its destination or its callsign. -/
theorem checkNew_rejects : Rejects (sequence.checkNew flight) := by
  unfold checkNew
  split
  · exact .error rfl
  · split
    · exact .error rfl
    · split
      · exact .error rfl
      · exact .ok _

/-- To move a flight is only refused if it is not tracked. -/
theorem reposition_rejects (displace : Bool) : Rejects (sequence.reposition callsign displace) := by
  unfold reposition
  split
  · exact .error rfl
  · exact .ok _

/-- To add a flight is refused only if it does not pass the check. -/
theorem addFlight_rejects : Rejects (sequence.addFlight flight) :=
  .bind (checkNew_rejects sequence flight) fun _ => reposition_rejects _ _ _

/-- To hold a flight is refused only if it does not pass the check. -/
theorem upsertPending_rejects : Rejects (sequence.upsertPending flight) := by
  refine .bind (checkNew_rejects sequence flight) fun _ => ?_
  split
  · exact .ok _
  · exact .ok _

/-- To take a flight out for the time being is refused for want of the flight, or for its state. -/
theorem desequence_rejects : Rejects (sequence.desequence callsign) := by
  unfold desequence
  split
  · exact .error rfl
  · exact .bind (Flight.setState_rejects _ _) fun _ => .ok _

/-- To bring a flight back is refused for want of the flight, or for its state. -/
theorem resume_rejects (now : Instant) : Rejects (sequence.resume callsign now) := by
  unfold resume
  split
  · exact .error rfl
  · exact .bind (Flight.resume_rejects _ _) fun _ => reposition_rejects _ _ _

/-- A removal is refused for want of the flight, or because it was removed before. -/
theorem remove_rejects : Rejects (sequence.remove callsign).answer := by
  unfold remove
  split
  · exact .error rfl
  · split
    · rename_i refusal refused
      exact .error (Flight.setState_rejects _ _ refusal refused)
    · exact .ok _

/-- An insertion is refused if the flight does not pass the check, or for want of the other flight. -/
theorem insertAdmitted_rejects {sequence : Sequence} {flight : Flight} {place : InsertPosition}
    {refusal : Refusal}
    (refused : sequence.insertAdmitted flight place = .error (.refused refusal)) :
    refusal.isUnsatisfiable = false := by
  unfold insertAdmitted at refused
  rcases bind_eq_error.mp refused with refused | ⟨_, _, refused⟩
  · exact checkNew_rejects _ _ _ (liftRefusal_eq_refused.mp refused)
  · rcases bind_eq_error.mp refused with refused | ⟨⟨time, runway⟩, _, refused⟩
    · unfold insertedLanding at refused
      cases place with
      | «at» time => cases refused
      | before target | after target =>
        cases found : sequence.flight? target with
        | none =>
          simp only [found, Except.error.injEq, Fault.refused.injEq] at refused
          rw [← refused]
          rfl
        | some leader =>
          -- Next to a flight that is tracked, at most the clock overflows.
          simp only [found] at refused
          rcases bind_eq_error.mp refused with refused | ⟨_, _, refused⟩
          · exact absurd refused liftOverflow_ne_refused
          · cases refused
    · rcases bind_eq_error.mp refused with refused | ⟨_, _, refused⟩
      · exact absurd refused liftOverflow_ne_refused
      · cases refused

/-- A slot is only refused for its times. -/
theorem createSlot_rejects (id : SlotId) (start finish : Instant) (runways : List String) :
    Rejects (sequence.createSlot id start finish runways) :=
  .bind (.bind (Blockout.between_rejects _ _) fun _ => .ok _) fun _ => .ok _

/-- To move a slot is refused for want of the slot, or for its times. -/
theorem modifySlot_rejects (id : SlotId) (start finish : Instant) :
    Rejects (sequence.modifySlot id start finish) := by
  unfold modifySlot
  split
  · exact .error rfl
  · exact .bind (.bind (Blockout.between_rejects _ _) fun _ => .ok _) fun _ => .ok _

/-- To give up a slot is only refused for want of the slot. -/
theorem deleteSlot_rejects (id : SlotId) : Rejects (sequence.deleteSlot id) := by
  unfold deleteSlot
  split
  · exact .error rfl
  · exact .ok _

end Sequence

namespace Service

variable {service : Service} {sequence : Sequence} {callsign : Callsign}
  {position : InsertPosition}

/-- A mode is only refused if the airport does not have it. -/
theorem configuredMode_rejects (sequence : Sequence) (mode : String) :
    Rejects (configuredMode sequence mode) := by
  unfold configuredMode
  split
  · exact .ok _
  · exact .error rfl

/-- A place among the flights is only refused if the other flight is not tracked. -/
theorem insertedEstimate_rejects (sequence : Sequence) (position : InsertPosition) :
    Rejects (insertedEstimate sequence position) := by
  unfold insertedEstimate
  split
  · exact .ok _
  · split
    · exact .ok _
    · exact .error rfl
  · split
    · exact .ok _
    · exact .error rfl

/-- A flight is not inserted if it is unknown, and so is what to say about it. -/
theorem insertedFlight_rejects (service : Service) (sequence : Sequence) (callsign : Callsign)
    (typeCode : Option String) (position : InsertPosition) :
    Rejects (service.insertedFlight sequence callsign typeCode position) := by
  unfold insertedFlight
  split
  · exact .ok _
  · exact .bind (insertedEstimate_rejects _ _) fun _ => .ok _
  · exact .error rfl

end Service

end ArrivalManager
