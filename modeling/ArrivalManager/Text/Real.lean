import ArrivalManager.Text.Digits

/-! Real numbers of 64 bits, read from decimal text. -/

namespace ArrivalManager

/-- The reasons why a text is no real number. -/
inductive RealFault where
  /-- There is no character at all. -/
  | empty
  /-- The text is neither a decimal number nor the name of a special value. -/
  | invalid
deriving DecidableEq

/-- The text reported for a real number that cannot be read. -/
def RealFault.message : RealFault → String
  | .empty => "cannot parse float from empty string"
  | .invalid => "invalid float literal"

/-- The value above every finite one. -/
def infinity : Float := 1.0 / 0.0

/-- The value that is no number. -/
def notANumber : Float := 0.0 / 0.0

/--
The real number nearest to `digits` times the given power of ten.

Powers that lead far outside the finite range are answered at once, so that no huge power is built.
-/
def nearestReal (digits : List Char) (power : Int) : Float :=
  let significant := digits.dropWhile (· = '0')
  let value := digitsValue significant
  -- The number is less than ten to this power, and at least a tenth of that.
  let magnitude := significant.length + power
  if value = 0 ∨ magnitude < -400 then 0.0
  else if 400 < magnitude then infinity
  else Float.ofScientific value (decide (power < 0)) power.natAbs

/-- The exponent at the end of a number: absent, or a letter, an optional sign and digits. -/
def readExponent? : List Char → Option Int
  | [] => some 0
  | letter :: rest =>
    let (negative, digits) := match rest with
      | '-' :: digits => (true, digits)
      | '+' :: digits => (false, digits)
      | digits => (false, digits)
    if (letter = 'e' ∨ letter = 'E') ∧ digits ≠ [] ∧ digits.all Char.isDigit then
      let value := digitsValue digits
      some (if negative then -(value : Int) else value)
    else none

/-- A number without sign: digits with a point among or beside them, then the exponent. -/
def readUnsignedReal? (text : List Char) : Option Float :=
  let whole := text.takeWhile Char.isDigit
  let (fraction, rest) := match text.dropWhile Char.isDigit with
    | '.' :: rest => (rest.takeWhile Char.isDigit, rest.dropWhile Char.isDigit)
    | rest => ([], rest)
  if whole.isEmpty && fraction.isEmpty then none
  else
    (readExponent? rest).map fun exponent =>
      nearestReal (whole ++ fraction) (exponent - fraction.length)

/-- The special values, whose names may be written in any case. -/
def namedReal? (text : List Char) : Option Float :=
  let name := String.ofList (text.map Char.toLower)
  if name = "inf" ∨ name = "infinity" then some infinity
  else if name = "nan" then some notANumber
  else none

/-- A real number with an optional sign. -/
def readReal (text : List Char) : Except RealFault Float :=
  let (negative, magnitude) := match text with
    | '-' :: rest => (true, rest)
    | '+' :: rest => (false, rest)
    | rest => (false, rest)
  if text.isEmpty then .error .empty
  else
    match (readUnsignedReal? magnitude).orElse fun _ => namedReal? magnitude with
    | some value => .ok (if negative then -value else value)
    | none => .error .invalid

end ArrivalManager
