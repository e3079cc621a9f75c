import ArrivalManager.Airport

/-! How well the runways of a mode suit a flight. -/

namespace ArrivalManager

/-- A preferred wake category counts two points and a preferred feeder fix one. -/
def Runway.score (runway : Runway) (aircraft : Aircraft) (fix : Option String) : Nat :=
  (if runway.preferredWakes.contains aircraft.wake then 2 else 0)
    + (if fix.any fun name => runway.preferredFixes.contains name then 1 else 0)

/-- Runways with the best score first; those with one score stay in their order. -/
def rankRunways (runways : List Runway) (aircraft : Aircraft) (fix : Option String) :
    List Runway :=
  runways.mergeSort fun left right => right.score aircraft fix ≤ left.score aircraft fix

end ArrivalManager
