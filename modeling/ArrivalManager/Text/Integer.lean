import ArrivalManager.Text.Digits

/-! Decimal integers of a fixed number of bits, read from text. -/

namespace ArrivalManager

/-- The reasons why a text is no integer of the width asked for. -/
inductive IntegerFault where
  /-- There is no character at all. -/
  | empty
  /-- A character is not a decimal digit, or a sign has no digit after it. -/
  | invalidDigit
  /-- The number is above the range. -/
  | tooLarge
  /-- The number is below the range. -/
  | tooSmall
deriving DecidableEq

/-- The text reported for an integer that cannot be read. -/
def IntegerFault.message : IntegerFault → String
  | .empty => "cannot parse integer from empty string"
  | .invalidDigit => "invalid digit found in string"
  | .tooLarge => "number too large to fit in target type"
  | .tooSmall => "number too small to fit in target type"

/--
The value of the digits after those already read.

The limit is checked digit by digit, so a number that leaves it is reported as such even when a
later character is not a digit.
-/
def readDigits (limit : Nat) (beyond : IntegerFault) (value : Nat) :
    List Char → Except IntegerFault Nat
  | [] => .ok value
  | digit :: rest =>
    if digit.isDigit then
      let next := value * 10 + digitValue digit
      if next ≤ limit then readDigits limit beyond next rest else .error beyond
    else .error .invalidDigit

/-- The value of a run of digits that must not be empty. -/
def readMagnitude (limit : Nat) (beyond : IntegerFault) (digits : List Char) :
    Except IntegerFault Nat :=
  if digits.isEmpty then .error .invalidDigit else readDigits limit beyond 0 digits

/-- A signed integer of so many bits, with an optional sign of either kind. -/
def readSigned (bits : Nat) : List Char → Except IntegerFault Int
  | [] => .error .empty
  | '-' :: digits =>
    (readMagnitude (1 <<< (bits - 1)) .tooSmall digits).map fun value => -(value : Int)
  | '+' :: digits =>
    (readMagnitude (1 <<< (bits - 1) - 1) .tooLarge digits).map fun value => (value : Int)
  | digits => (readDigits (1 <<< (bits - 1) - 1) .tooLarge 0 digits).map fun value => (value : Int)

/-- An integer of so many bits that is not negative, with an optional plus sign. -/
def readUnsigned (bits : Nat) : List Char → Except IntegerFault Nat
  | [] => .error .empty
  | '+' :: digits => readMagnitude (1 <<< bits - 1) .tooLarge digits
  | digits => readDigits (1 <<< bits - 1) .tooLarge 0 digits

end ArrivalManager
