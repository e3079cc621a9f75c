import ArrivalManager.Lookup.Table

/-! A sample airport with two parallel runways, its feeder fixes and its arrivals. -/

namespace ArrivalManager

/-- A runway with a landing every three minutes. -/
def sampleRunway (identifier : String) (dependencies : List RunwayDependency)
    (wakes : List WakeCategory) (fixes : List String) : Runway :=
  { identifier, dependencies
    landingRate := .ofMinutes 3
    preferredWakes := wakes
    preferredFixes := fixes }

/-- Landings to the north. -/
def northMode : RunwayMode :=
  { identifier := "34IVA"
    runways := [
      sampleRunway "34L" [] [] ["BOREE", "MARLN"],
      sampleRunway "34R" [⟨"34L", .ofSeconds 30⟩] [.heavy, .superHeavy] ["RIVET"]]
    offModeSeparation := .ofMinutes 5 }

/-- Landings to the south. -/
def southMode : RunwayMode :=
  { identifier := "16IVA"
    runways := [
      sampleRunway "16R" [] [.heavy, .superHeavy] ["RIVET"],
      sampleRunway "16L" [⟨"16R", .ofSeconds 30⟩] [] ["BOREE", "MARLN"]]
    offModeSeparation := .ofMinutes 5 }

/-- The sample airport, which begins with landings to the north. -/
def Airport.sample : Airport :=
  { identifier := "YSSY"
    modes := [northMode, southMode]
    feederFixes := ["RIVET", "BOREE", "MARLN"]
    radarRangeNm := 30.0 }

/-- The feeder fixes of the sample airport. -/
def FixTable.sample : FixTable :=
  .ofRows [
    ("RIVET", ⟨-34.45, 150.55⟩),
    ("BOREE", ⟨-33.05, 150.85⟩),
    ("MARLN", ⟨-33.35, 151.90⟩)]

/-- The arrivals of the sample airport. -/
def ArrivalTable.sample : ArrivalTable :=
  let path (fix : String) (arrival : Option String) (runway : String) (minutes : Int) :
      Trajectory × Duration :=
    (⟨"YSSY", fix, arrival, runway⟩, .ofMinutes minutes)
  { timesToGo := .ofRows [
      path "RIVET" none "34R" 17,
      path "RIVET" none "34L" 19,
      path "RIVET" none "16R" 14,
      path "RIVET" none "16L" 15,
      path "BOREE" none "34L" 16,
      path "BOREE" none "34R" 17,
      path "BOREE" none "16L" 20,
      path "BOREE" none "16R" 21,
      path "MARLN" none "34L" 15,
      path "MARLN" none "34R" 16,
      path "MARLN" none "16L" 18,
      path "MARLN" none "16R" 19,
      path "RIVET" (some "RIVET4") "34R" 16]
    intervals := .ofRows [(⟨"YSSY", "MARLN", "34L"⟩, .ofMinutes 4)] }

end ArrivalManager
