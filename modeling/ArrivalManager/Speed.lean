import ArrivalManager.Text.Integer
import ArrivalManager.Time

/-! The pace at which recorded traffic is replayed. -/

namespace ArrivalManager

/-- How fast simulated time runs against real time. -/
inductive Speed where
  | realTime
  /-- So many times as fast. -/
  | fastForward (factor : Nat)
  /-- So many times as slow. -/
  | slowMotion (factor : Nat)
deriving DecidableEq

namespace Speed

/-- A speed in the form in which it is read. -/
def display : Speed → String
  | .realTime => "realtime"
  | .fastForward factor => "x" ++ toString factor
  | .slowMotion factor => "/" ++ toString factor

/-- A factor of 32 bits that is not zero. -/
def readFactor? (text : List Char) : Option Nat :=
  match readUnsigned 32 text with
  | .ok factor => if 0 < factor then some factor else none
  | .error _ => none

/-- The speed that a text stands for: `realtime`, or a factor after an `x` or a slash. -/
def ofText? (text : String) : Option Speed :=
  if text = "realtime" then some .realTime
  else
    match text.toList with
    | 'x' :: factor => (readFactor? factor).map .fastForward
    | '/' :: factor => (readFactor? factor).map .slowMotion
    | _ => none

/-- The text reported for a text that stands for no speed. -/
def invalidMessage (text : String) : String :=
  "invalid speed '" ++ text ++ "', expected 'realtime', 'xN' or '/N'"

/-- The whole seconds that an interval may have at most. -/
def mostSeconds : Nat := 0xFFFFFFFFFFFFFFFF

/--
The real time that an interval of simulated time takes, both in nanoseconds.

A factor of zero counts as one. Fractions of a nanosecond are dropped.
-/
def adjust (speed : Speed) (nanos : Nat) : Except Overflow Nat :=
  match speed with
  | .realTime => .ok nanos
  | .fastForward factor => .ok (nanos / max factor 1)
  | .slowMotion factor =>
    let slowed := nanos * max factor 1
    if slowed / 1000000000 ≤ mostSeconds then .ok slowed else .error .product

end Speed

end ArrivalManager
