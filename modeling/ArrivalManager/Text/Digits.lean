/-! Runs of decimal digits: their value, and numbers written with a least number of them. -/

namespace ArrivalManager

/-- The value of one decimal digit. -/
def digitValue (digit : Char) : Nat := digit.toNat - '0'.toNat

/-- The value of a run of decimal digits. -/
def digitsValue (digits : List Char) : Nat :=
  digits.foldl (fun value digit => value * 10 + digitValue digit) 0

/-- A number in decimal digits, filled up with zeros on the left. -/
def paddedDigits (width number : Nat) : String :=
  let digits := toString number
  String.ofList (List.replicate (width - digits.length) '0') ++ digits

end ArrivalManager
