/-! Instants on a nanosecond clock, the signed durations between them, and the limits of both. -/

namespace ArrivalManager

/-- The ways a computation on the clock can leave the range that is represented. -/
inductive Overflow where
  /-- A duration added to an instant leads past the last or before the first instant. -/
  | sum
  /-- A duration taken from an instant leads past the last or before the first instant. -/
  | difference
  /-- Two durations add up to more than the longest one. -/
  | durationSum
  /-- A number of minutes is longer than the longest duration. -/
  | minutes
  /-- A number of seconds is longer than the longest duration. -/
  | seconds
  /-- A number of milliseconds is longer than the longest duration. -/
  | milliseconds
  /-- A slowed-down interval has more whole seconds than a word of 64 bits holds. -/
  | product
  /-- A sum of whole seconds is more than a signed word of 64 bits holds. -/
  | secondCount
deriving DecidableEq

/-- The text reported when a computation leaves the clock. -/
def Overflow.message : Overflow → String
  | .sum => "`DateTime + TimeDelta` overflowed"
  | .difference => "`DateTime - TimeDelta` overflowed"
  | .durationSum => "`TimeDelta + TimeDelta` overflowed"
  | .minutes => "TimeDelta::minutes out of bounds"
  | .seconds => "TimeDelta::seconds out of bounds"
  | .milliseconds => "TimeDelta::milliseconds out of bounds"
  | .product => "overflow when multiplying duration by scalar"
  | .secondCount => "attempt to add with overflow"

/-- Nanoseconds in a second. -/
abbrev nanosPerSecond : Int := 1000000000

/-- A signed span of time. -/
structure Duration where
  /-- Its length in nanoseconds. -/
  nanos : Int
deriving DecidableEq, Inhabited

namespace Duration

/-- The empty span. -/
def zero : Duration := ⟨0⟩

/-- A span of whole seconds. -/
def ofSeconds (count : Int) : Duration := ⟨count * nanosPerSecond⟩

/-- A span of whole minutes. -/
def ofMinutes (count : Int) : Duration := ofSeconds (count * 60)

/-- A span of whole milliseconds. -/
def ofMilliseconds (count : Int) : Duration := ⟨count * 1000000⟩

/-- The longest span: as many milliseconds as a signed word of 64 bits holds. -/
def longestNanos : Int := 9223372036854775807 * 1000000

/-- Spans as long as the longest one, in either direction, are represented; longer ones are not. -/
def InRange (span : Duration) : Prop := -longestNanos ≤ span.nanos ∧ span.nanos ≤ longestNanos

instance (span : Duration) : Decidable span.InRange :=
  inferInstanceAs (Decidable (_ ∧ _))

/-- A span that is kept when it is represented, and reported as the given overflow otherwise. -/
def checked (span : Duration) (fault : Overflow) : Except Overflow Duration :=
  if span.InRange then .ok span else .error fault

instance : LE Duration := ⟨fun left right => left.nanos ≤ right.nanos⟩
instance : LT Duration := ⟨fun left right => left.nanos < right.nanos⟩
instance (left right : Duration) : Decidable (left ≤ right) :=
  inferInstanceAs (Decidable (left.nanos ≤ right.nanos))
instance (left right : Duration) : Decidable (left < right) :=
  inferInstanceAs (Decidable (left.nanos < right.nanos))
instance : Max Duration := maxOfLe
instance : Add Duration := ⟨fun left right => ⟨left.nanos + right.nanos⟩⟩

/-- Two spans one after the other, which may be too long together. -/
def plus (left right : Duration) : Except Overflow Duration :=
  (left + right).checked .durationSum

/-- The whole seconds of a span, rounded down. -/
def wholeSeconds (span : Duration) : Int := span.nanos / nanosPerSecond

/-- What a span holds beyond its whole seconds: never negative, and less than a second. -/
def subsecondNanos (span : Duration) : Int := span.nanos % nanosPerSecond

/--
A share of a span, one part in `parts`.

The whole seconds, the seconds left over and the fraction of a second are divided apart, each
rounded toward zero, so that a negative span is not simply rounded in one direction.
-/
def divide (span : Duration) (parts : Nat) : Duration :=
  let seconds := span.wholeSeconds.tdiv parts
  let carried := span.wholeSeconds.tmod parts
  ⟨seconds * nanosPerSecond
    + (span.subsecondNanos.tdiv parts + (carried * nanosPerSecond).tdiv parts)⟩

end Duration

/-- The first instant of the clock, at the start of the year -262143. -/
def firstNanos : Int := -8334601228800 * nanosPerSecond

/-- The last instant of the clock, at the end of the year 262142. -/
def lastNanos : Int := 8210266876800 * nanosPerSecond - 1

/-- A point in time, known to the nanosecond. -/
structure Instant where
  /-- Nanoseconds since 1970-01-01 00:00:00 UTC, negative before that. -/
  nanos : Int
  /-- The clock does not reach further back. -/
  first_le : firstNanos ≤ nanos
  /-- The clock does not reach further ahead. -/
  le_last : nanos ≤ lastNanos
deriving DecidableEq

namespace Instant

/-- The start of 1970. -/
def epoch : Instant := ⟨0, by decide, by decide⟩

instance : Inhabited Instant := ⟨epoch⟩

/-- The instant with this many nanoseconds, if the clock reaches it. -/
def ofNanos? (nanos : Int) : Option Instant :=
  if reached : firstNanos ≤ nanos ∧ nanos ≤ lastNanos then some ⟨nanos, reached.1, reached.2⟩
  else none

instance : LE Instant := ⟨fun left right => left.nanos ≤ right.nanos⟩
instance : LT Instant := ⟨fun left right => left.nanos < right.nanos⟩
instance (left right : Instant) : Decidable (left ≤ right) :=
  inferInstanceAs (Decidable (left.nanos ≤ right.nanos))
instance (left right : Instant) : Decidable (left < right) :=
  inferInstanceAs (Decidable (left.nanos < right.nanos))
instance : Ord Instant := ⟨fun left right => compare left.nanos right.nanos⟩
instance : Max Instant := maxOfLe

/-- The signed span from one instant to another; the clock is short enough for it to exist. -/
def since (later earlier : Instant) : Duration := ⟨later.nanos - earlier.nanos⟩

/-- The instant a span later. -/
def plus (start : Instant) (span : Duration) : Except Overflow Instant :=
  match ofNanos? (start.nanos + span.nanos) with
  | some reached => .ok reached
  | none => .error .sum

/-- The instant a span earlier. -/
def minus (start : Instant) (span : Duration) : Except Overflow Instant :=
  match ofNanos? (start.nanos - span.nanos) with
  | some reached => .ok reached
  | none => .error .difference

/-- The first instant moved half the way to the second. -/
def halfway (start target : Instant) : Except Overflow Instant :=
  start.plus ((target.since start).divide 2)

end Instant

end ArrivalManager
