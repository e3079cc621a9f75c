import ArrivalManager.Proofs.Service.Execution

/-! Runs of a service: the registries that commands lead to, one after the other. -/

namespace ArrivalManager

/-- A command to an airport at a time. -/
structure Call where
  airport : String
  now : Instant
  command : Command

namespace Service

/-- The registries to which admitted calls lead from a first one. -/
inductive Reaches (service : Service) (admits : Call → Reply → Prop) (start : Registry) :
    Registry → Prop where
  | start : Reaches service admits start start
  | step {registry : Registry} {call : Call} {reply : Reply}
    (before : Reaches service admits start registry)
    (done : service.execute registry call.airport call.now call.command = .ok reply)
    (admitted : admits call reply) : Reaches service admits start reply.registry

variable {service : Service} {admits : Call → Reply → Prop} {first middle last : Registry}

/-- A run can go on from where another one ended. -/
theorem Reaches.trans (before : service.Reaches admits first middle)
    (after : service.Reaches admits middle last) : service.Reaches admits first last := by
  -- The run grows at its end, so the induction is on the second part.
  induction after with
  | start => exact before
  | step _ done admitted ih => exact .step ih done admitted

/-- The registry after some calls, if all of them are admitted and none overflows. -/
def follow (service : Service) (admits : Call → Reply → Prop)
    [∀ call reply, Decidable (admits call reply)] (registry : Registry) :
    List Call → Option Registry
  | [] => some registry
  | call :: rest =>
    match service.execute registry call.airport call.now call.command with
    | .ok reply => if admits call reply then service.follow admits reply.registry rest else none
    | .error _ => none

/-- What calls lead to when they are followed is reached. -/
theorem reaches_of_follow [∀ call reply, Decidable (admits call reply)] {calls : List Call}
    (followed : service.follow admits first calls = some last) :
    service.Reaches admits first last := by
  induction calls generalizing first with
  | nil =>
    cases followed
    exact .start
  | cons call rest ih =>
    unfold follow at followed
    -- Following goes on only if the call does not overflow and is admitted.
    split at followed
    · rename_i reply done
      split at followed
      · rename_i admitted
        exact Reaches.trans (.step .start done admitted) (ih followed)
      · cases followed
    · cases followed

end Service

end ArrivalManager
