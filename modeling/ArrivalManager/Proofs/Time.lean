import ArrivalManager.Time
import Mathlib.Order.MinMax
import Mathlib.Order.Bounds.Defs

/-! Instants and durations are linearly ordered, and moving on in time can skip what is not allowed. -/

namespace ArrivalManager

namespace Duration

/-- Durations are compared by their lengths. -/
theorem le_iff_nanos {left right : Duration} : left ≤ right ↔ left.nanos ≤ right.nanos := Iff.rfl

/-- The strict order compares lengths as well. -/
theorem lt_iff_nanos {left right : Duration} : left < right ↔ left.nanos < right.nanos := Iff.rfl

instance : LinearOrder Duration where
  le_refl span := Int.le_refl span.nanos
  le_trans _ _ _ first second := Int.le_trans first second
  lt_iff_le_not_ge _ _ := Int.lt_iff_le_and_not_ge
  le_antisymm left right below above := by
    -- A span is nothing but its length.
    cases left
    cases right
    exact congrArg Duration.mk (Int.le_antisymm below above)
  le_total left right := Int.le_total left.nanos right.nanos
  toDecidableLE := inferInstance
  toDecidableEq := inferInstance
  toDecidableLT := inferInstance

end Duration

namespace Instant

/-- Instants are compared by their distance from the epoch. -/
theorem le_iff_nanos {left right : Instant} : left ≤ right ↔ left.nanos ≤ right.nanos := Iff.rfl

/-- The strict order compares distances from the epoch as well. -/
theorem lt_iff_nanos {left right : Instant} : left < right ↔ left.nanos < right.nanos := Iff.rfl

/-- An instant is known by its distance from the epoch. -/
theorem ext_nanos {left right : Instant} (same : left.nanos = right.nanos) : left = right := by
  cases left
  cases right
  simpa using same

instance : LinearOrder Instant where
  le_refl time := Int.le_refl time.nanos
  le_trans _ _ _ first second := Int.le_trans first second
  lt_iff_le_not_ge _ _ := Int.lt_iff_le_and_not_ge
  le_antisymm _ _ below above := ext_nanos (Int.le_antisymm below above)
  le_total left right := Int.le_total left.nanos right.nanos
  toDecidableLE := inferInstance
  toDecidableEq := inferInstance
  toDecidableLT := inferInstance
  compare_eq_compareOfLessAndEq left right := by
    -- Both comparisons decide on the distances from the epoch.
    show compareOfLessAndEq left.nanos right.nanos = _
    have same : left.nanos = right.nanos ↔ left = right := ⟨ext_nanos, congrArg nanos⟩
    simp only [compareOfLessAndEq, same, lt_iff_nanos]

/-- The span between two instants is the difference of their distances from the epoch. -/
@[simp] theorem since_nanos (later earlier : Instant) :
    (later.since earlier).nanos = later.nanos - earlier.nanos := rfl

/-- The span between two instants of the clock is represented. -/
theorem since_inRange (later earlier : Instant) : (later.since earlier).InRange := by
  have bounds := And.intro later.first_le later.le_last
  have others := And.intro earlier.first_le earlier.le_last
  unfold firstNanos lastNanos nanosPerSecond at *
  unfold Duration.InRange Duration.longestNanos since
  dsimp only
  omega

/-- The instant that is known by some nanoseconds is the one on the clock that has them. -/
theorem ofNanos?_eq_some {nanos : Int} {reached : Instant} :
    ofNanos? nanos = some reached ↔ reached.nanos = nanos := by
  unfold ofNanos?
  split
  · simp only [Option.some.injEq]
    exact ⟨fun same => (congrArg Instant.nanos same).symm, fun same => ext_nanos same.symm⟩
  · rename_i outside
    simp only [reduceCtorEq, false_iff]
    intro same
    -- The instant reached is on the clock, so its nanoseconds are not outside.
    exact outside (same ▸ ⟨reached.first_le, reached.le_last⟩)

/-- A sum of an instant and a span, where it is on the clock, is exact. -/
theorem plus_eq_ok {start reached : Instant} {span : Duration} :
    start.plus span = .ok reached ↔ reached.nanos = start.nanos + span.nanos := by
  rw [← ofNanos?_eq_some]
  unfold plus
  cases ofNanos? (start.nanos + span.nanos) <;> simp

/-- A difference of an instant and a span, where it is on the clock, is exact. -/
theorem minus_eq_ok {start reached : Instant} {span : Duration} :
    start.minus span = .ok reached ↔ reached.nanos = start.nanos - span.nanos := by
  rw [← ofNanos?_eq_some]
  unfold minus
  cases ofNanos? (start.nanos - span.nanos) <;> simp

/-- The span that leads from one instant on to another one lies between them. -/
theorem since_of_plus {start reached : Instant} {span : Duration}
    (on : start.plus span = .ok reached) : reached.since start = span := by
  have exact := plus_eq_ok.mp on
  exact congrArg Duration.mk (by omega)

/-- The span that leads from one instant back to another one lies between them. -/
theorem since_of_minus {start reached : Instant} {span : Duration}
    (back : start.minus span = .ok reached) : start.since reached = span := by
  have exact := minus_eq_ok.mp back
  exact congrArg Duration.mk (by omega)

/-- An instant is before the end of a span back from another one if more than the span lies between. -/
theorem lt_of_minus {start cutoff time : Instant} {span : Duration}
    (back : start.minus span = .ok cutoff) : time < cutoff ↔ span < start.since time := by
  have exact := minus_eq_ok.mp back
  simp only [lt_iff_nanos, Duration.lt_iff_nanos, since_nanos]
  omega

/-- This many seconds after the epoch; so small a number of them does not leave the clock. -/
def sampleSeconds (count : UInt16) : Instant :=
  { nanos := count.toNat * nanosPerSecond
    first_le := by
      unfold firstNanos nanosPerSecond
      omega
    le_last := by
      have small := count.toNat_lt
      unfold lastNanos nanosPerSecond
      omega }

end Instant

/-- Moving on from one time to another passes over no time that is allowed. -/
def Skips (allowed : Instant → Prop) (start reached : Instant) : Prop :=
  start ≤ reached ∧ ∀ time, start ≤ time → time < reached → ¬ allowed time

namespace Skips

variable {allowed : Instant → Prop} {start middle reached : Instant}

/-- Staying passes over nothing. -/
theorem refl (allowed : Instant → Prop) (start : Instant) : Skips allowed start start :=
  ⟨le_refl start, fun _ after before => absurd before (not_lt.mpr after)⟩

/-- Two moves after each other pass over what either of them passes over. -/
theorem trans (first : Skips allowed start middle) (second : Skips allowed middle reached) :
    Skips allowed start reached := by
  refine ⟨first.1.trans second.1, fun time after before => ?_⟩
  -- A time in between belongs to the first move or to the second one.
  rcases lt_or_ge time middle with early | late
  · exact first.2 time after early
  · exact second.2 time late before

/-- The later one of two moves from one time passes over no more than both. -/
theorem farther (first : Skips allowed start middle) (second : Skips allowed start reached) :
    Skips allowed start (max middle reached) := by
  -- The maximum is one of the two times.
  rcases le_total middle reached with early | late
  · rwa [max_eq_right early]
  · rwa [max_eq_left late]

/-- What is passed over when less is allowed is still passed over. -/
theorem mono {narrower : Instant → Prop} (implied : ∀ time, narrower time → allowed time)
    (skips : Skips allowed start reached) : Skips narrower start reached :=
  ⟨skips.1, fun time after before holds => skips.2 time after before (implied time holds)⟩

/-- A move that ends at an allowed time ends at the first one. -/
theorem isLeast (skips : Skips allowed start reached) (ends : allowed reached) :
    IsLeast {time | start ≤ time ∧ allowed time} reached := by
  refine ⟨⟨skips.1, ends⟩, fun time member => ?_⟩
  -- An allowed time before the end would have been passed over.
  by_contra earlier
  exact skips.2 time member.1 (not_le.mp earlier) member.2

end Skips

end ArrivalManager
