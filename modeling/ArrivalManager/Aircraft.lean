/-! Aircraft as far as their type decides how they are spaced and slowed down. -/

namespace ArrivalManager

/-- How strong a wake an aircraft leaves behind, from the weakest to the strongest. -/
inductive WakeCategory where
  | light
  | medium
  | heavy
  | superHeavy
deriving DecidableEq

namespace WakeCategory

/-- The name of a category. -/
def name : WakeCategory → String
  | .light => "Light"
  | .medium => "Medium"
  | .heavy => "Heavy"
  | .superHeavy => "SuperHeavy"

/-- The category with this name, or with the letter that stands for it in a flight plan. -/
def ofText? (text : String) : Option WakeCategory :=
  if text = "L" ∨ text = "Light" then some .light
  else if text = "M" ∨ text = "Medium" then some .medium
  else if text = "H" ∨ text = "Heavy" then some .heavy
  else if text = "J" ∨ text = "SuperHeavy" then some .superHeavy
  else none

/-- The text reported for a name or letter that stands for no category. -/
def unknownMessage (text : String) : String := "invalid wake category: " ++ text

end WakeCategory

/-- What is known about the aircraft of one type. -/
structure Performance where
  wake : WakeCategory
  jet : Bool
deriving DecidableEq

/-- An aircraft: its type and the performance of that type. -/
structure Aircraft extends Performance where
  /-- The type designator, such as `B738`. -/
  typeCode : String
deriving DecidableEq

end ArrivalManager
