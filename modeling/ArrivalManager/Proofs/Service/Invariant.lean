import ArrivalManager.Proofs.Service.Succession

/-! What holds of every sequence of a service, shown for one command at a time. -/

namespace ArrivalManager.Service

open Estimation

variable {service : Service} {registry : Registry} {invariant : Sequence → Prop} {sequence : Sequence}

/--
What holds of an empty sequence, and stays when a command is carried out, holds of every sequence.

Each command may be taken to find a sound sequence.
-/
theorem reachable_invariant
    (founded : ∀ {airport sequence}, Sequence.ofAirport airport = .ok sequence → invariant sequence)
    (carried : ∀ {now fresh command slot} {before changed after : Sequence}
      {passed : Outcome Sequence Unit}, before.Sound → invariant before →
      Gives (service.change now fresh command before) ⟨.ok slot, changed⟩ →
      service.scheduler.schedule changed = .ok passed →
      service.kept now command passed.after = .ok after → invariant after)
    (reachable : service.Reachable registry) (managed : sequence ∈ registry.sequences) :
    invariant sequence := by
  induction reachable generalizing sequence with
  | empty => cases managed
  | created _ done ih =>
    rcases Registry.mem_create done managed with empty | former
    · exact founded empty
    · exact ih former
  | removed _ done ih => exact ih (Registry.mem_remove done managed)
  | @replied registry call reply run replies ih =>
    have reached : service.Reachable reply.registry := .replied run replies
    have found := Registry.sequence?_of_mem (reachable_airports reached) managed
    obtain ⟨before, former, sound, succession⟩ := exists_predecessor run replies found
    have listed := List.mem_of_find?_eq_some former
    cases succession with
    | unchanged _ => exact ih listed
    | carried _ _ made pass kept => exact carried sound (ih listed) made pass kept

end ArrivalManager.Service
