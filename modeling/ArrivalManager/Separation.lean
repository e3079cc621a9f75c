import ArrivalManager.Lookup

/-! The spacing that two landings need in a runway mode. -/

namespace ArrivalManager

/-- No two landings that depend on each other in a mode are spaced more closely than this. -/
def leastSeparation : Duration := .ofSeconds 30

/--
The spacing a trailer keeps behind its leader, or none if the two landings are independent.

On one runway it is the rule for the pair, and no less than the landing rate; on two runways of the
mode it is the stagger that either of them asks for; and with a runway outside the mode it is the
mode's own spacing for that case.
-/
def requiredSeparation (rule : SeparationRule) (mode : RunwayMode) (leader : Aircraft)
    (leaderRunway : String) (trailer : Aircraft) (trailerRunway : String) : Option Duration :=
  match mode.runway leaderRunway, mode.runway trailerRunway with
  | some ahead, some behind =>
    if leaderRunway = trailerRunway then
      let separation := match rule leader trailer mode with
        | some required => max required ahead.landingRate
        | none => ahead.landingRate
      some (max separation leastSeparation)
    else
      -- What the trailer's runway asks for comes before what the leader's asks for.
      ((behind.dependencyOn leaderRunway).or (ahead.dependencyOn trailerRunway)).map
        fun dependency => max dependency.separation leastSeparation
  | _, _ => some mode.offModeSeparation

end ArrivalManager
