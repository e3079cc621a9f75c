import ArrivalManager.Proofs.Estimation
import ArrivalManager.Proofs.Schedule.Pass
import ArrivalManager.Service.Command

/-! What executing a command comes to, and which sequence of a registry it affects. -/

namespace ArrivalManager

open Estimation

namespace Registry

variable {registry start : Registry} {sequence : Sequence} {airport : String}

/-- The sequence found for an airport is that of the airport. -/
theorem sequence?_airport (found : registry.sequence? airport = some sequence) :
    sequence.airport.identifier = airport := by
  simpa using List.find?_some found

/-- A sequence that is put in its place is found there. -/
theorem replace_sequence?_self
    (managed : (registry.sequence? sequence.airport.identifier).isSome = true) :
    (registry.replace sequence).sequence? sequence.airport.identifier = some sequence := by
  obtain ⟨former, found⟩ := Option.isSome_iff_exists.mp managed
  -- The replacement has the name of what it replaces, so the same place is found.
  have place : ((fun other : Sequence => decide (other.airport.identifier = sequence.airport.identifier))
      ∘ fun other => if other.airport.identifier = sequence.airport.identifier then sequence else other)
        = fun other => decide (other.airport.identifier = sequence.airport.identifier) := by
    funext other
    simp only [Function.comp_def]
    split <;> simp [*]
  -- Looking in the new list is looking in the old one at the same place.
  unfold sequence? at found ⊢
  simp only [replace, List.find?_map, place, found, Option.map_some, Option.some.injEq]
  exact if_pos (by simpa using List.find?_some found)

/-- What a managed sequence becomes is found in its place, whatever the counts are by then. -/
theorem replace_sequence?_found {counters : Registry} {after : Sequence}
    (found : registry.sequence? airport = some sequence)
    (counted : counters.sequences = registry.sequences) (same : after.airport = sequence.airport) :
    (counters.replace after).sequence? airport = some after := by
  have named := sequence?_airport found
  rw [← named, ← same]
  refine replace_sequence?_self ?_
  unfold sequence? at found ⊢
  rw [counted, same, named, found]
  rfl

/-- To put a sequence in its place leaves those of other airports alone. -/
theorem replace_sequence?_other (differ : airport ≠ sequence.airport.identifier) :
    (registry.replace sequence).sequence? airport = registry.sequence? airport := by
  -- Neither the replacement nor what it replaces has the name that is looked for.
  have place : ((fun other : Sequence => decide (other.airport.identifier = airport))
      ∘ fun other => if other.airport.identifier = sequence.airport.identifier then sequence else other)
        = fun other => decide (other.airport.identifier = airport) := by
    funext other
    simp only [Function.comp_def]
    split
    · -- What is replaced belongs to another airport, before and after.
      rename_i same
      simp [same, Ne.symm differ]
    · rfl
  unfold sequence?
  simp only [replace, List.find?_map, place]
  cases found : registry.sequences.find? fun other => decide (other.airport.identifier = airport) with
  | none => rfl
  | some other =>
    -- A sequence that is found is not the one that is replaced.
    have named : other.airport.identifier = airport := by simpa using List.find?_some found
    simp [named, differ]

/-- An airport that is taken under management has an empty sequence in its first mode. -/
theorem create_sequence? {airport : Airport} (created : registry.create airport = .ok start) :
    ∃ sequence, Sequence.ofAirport airport = .ok sequence
      ∧ start.sequence? airport.identifier = some sequence := by
  obtain ⟨sequence, founded, created⟩ := bind_eq_ok.mp created
  -- The sequence is named after the airport, in whichever mode it begins.
  have named : sequence.airport.identifier = airport.identifier := by
    unfold Sequence.ofAirport at founded
    split at founded <;> cases founded
    rfl
  split at created
  · cases created
  · rename_i unmanaged
    cases pure_eq_ok.mp created
    refine ⟨sequence, founded, ?_⟩
    -- No sequence of that airport was there before, so the new one is the first that is found.
    have missing := unmanaged
    unfold sequence? at missing ⊢
    rw [Bool.not_eq_true, Option.isSome_eq_false_iff, Option.isNone_iff_eq_none,
      List.find?_eq_none] at missing
    dsimp only
    generalize registry.sequences = sequences at missing ⊢
    induction sequences with
    | nil => simp [insertOrdered, named]
    | cons first rest ih =>
      unfold insertOrdered
      split
      · -- Put in front, it is found at once, and further back it is found after the others.
        simp [named]
      · refine (List.find?_cons_of_neg ?_).trans
          (ih fun other member => missing other (List.mem_cons_of_mem _ member))
        exact missing first List.mem_cons_self

end Registry

namespace Service

variable {service : Service} {registry : Registry} {airport : String} {now : Instant}
  {command : Command} {reply : Reply}

/-- What executing a command comes to. -/
inductive Execution (service : Service) (registry : Registry) (airport : String) (now : Instant)
    (command : Command) : Reply → Prop where
  /-- The airport is not under management. -/
  | unmanaged (missing : registry.sequence? airport = none) :
    Execution service registry airport now command ⟨.error (.unknownAirport airport), registry, none⟩
  /-- The change is refused, and nothing is scheduled or published. -/
  | refused {sequence after : Sequence} {refusal : Refusal} (misses : Misses)
    (found : registry.sequence? airport = some sequence)
    (made : Gives (service.change now registry.nextSlot command sequence) ⟨.error refusal, after⟩) :
    Execution service registry airport now command
      ⟨.error refusal, { registry with misses }.replace after, none⟩
  /-- The change is scheduled and published, also if the pass reports a failure. -/
  | scheduled {sequence changed after : Sequence} {slot : Option SlotId}
    {passed : Outcome Sequence Unit} (misses : Misses)
    (found : registry.sequence? airport = some sequence)
    (made : Gives (service.change now registry.nextSlot command sequence) ⟨.ok slot, changed⟩)
    (pass : service.scheduler.schedule changed = .ok passed)
    (kept : service.kept now command passed.after = .ok after) :
    Execution service registry airport now command
      ⟨passed.answer.map fun _ => slot,
        { registry with misses, nextSlot := slotAfter registry.nextSlot (.ok slot) }.replace after,
        some (after.snapshot now)⟩

/-- Every execution that comes to an end is of one of these kinds. -/
theorem execution_of_execute (done : service.execute registry airport now command = .ok reply) :
    service.Execution registry airport now command reply := by
  unfold execute at done
  split at done
  · rename_i missing
    cases done
    exact .unmanaged missing
  · rename_i sequence found
    -- Whether the change is refused decides if there is a pass.
    obtain ⟨⟨answer, after⟩, changed, done⟩ := bind_eq_ok.mp done
    cases answer with
    | error refusal =>
      cases pure_eq_ok.mp done
      exact .refused _ found changed
    | ok slot =>
      obtain ⟨passed, pass, done⟩ := bind_eq_ok.mp done
      obtain ⟨remaining, kept, done⟩ := bind_eq_ok.mp done
      cases pure_eq_ok.mp done
      exact .scheduled _ found changed pass kept

end Service

end ArrivalManager
