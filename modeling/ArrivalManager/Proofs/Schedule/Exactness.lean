import ArrivalManager.Proofs.Schedule.Attempts
import ArrivalManager.Proofs.Schedule.Determinism
import Mathlib.Order.Bounds.Basic

/-! The search for a landing time is exact: it computes the first free time, however it goes about it. -/

namespace ArrivalManager

namespace Approach

variable {approach : Approach} {landings arranged : List Landing} {blockouts windows : List Blockout}
  {earliest time other : Instant}

/-- The times that a landing must not precede: the earliest one, and those of fixed landings. -/
def bounds (approach : Approach) (landings : List Landing) (earliest : Instant) : Set Instant :=
  {time | time = earliest ∨ ∃ other ∈ landings, other.positionIsFixed = true
    ∧ other.runway = approach.runway ∧ other.time = time}

/-- The search starts at the latest of the times that a landing must not precede. -/
theorem startingTime_isGreatest (approach : Approach) (landings : List Landing) (earliest : Instant) :
    IsGreatest (approach.bounds landings earliest) (approach.startingTime landings earliest) := by
  obtain ⟨attained, above, behind⟩ := approach.startingTime_greatest landings earliest
  refine ⟨attained, ?_⟩
  rintro time (rfl | ⟨other, member, fixed, same, rfl⟩)
  · exact above
  · exact behind other member fixed same

/-- The search starts at the same time in whatever order the landings are listed. -/
theorem startingTime_perm (moved : arranged.Perm landings) :
    approach.startingTime arranged earliest = approach.startingTime landings earliest := by
  have same : approach.bounds arranged earliest = approach.bounds landings earliest := by
    simp only [bounds, moved.mem_iff]
  -- A set has no more than one greatest element.
  exact (approach.startingTime_isGreatest arranged earliest).unique
    (same ▸ approach.startingTime_isGreatest landings earliest)

/-- A time is free in whatever order landings and windows are listed. -/
theorem free_perm (moved : arranged.Perm landings) (shuffled : windows.Perm blockouts) :
    approach.Free arranged windows time ↔ approach.Free landings blockouts time := by
  constructor
  · rintro ⟨clear, unblocked⟩
    exact ⟨fun other member => clear other (moved.mem_iff.mpr member),
      fun blockout member => unblocked blockout (shuffled.mem_iff.mpr member)⟩
  · rintro ⟨clear, unblocked⟩
    exact ⟨fun other member => clear other (moved.mem_iff.mp member),
      fun blockout member => unblocked blockout (shuffled.mem_iff.mp member)⟩

/-- The landing time found is the first free one from the start of the search on. -/
theorem landingTime_isLeast_free
    (found : approach.landingTime landings blockouts earliest = .ok (some time)) :
    IsLeast {moment | approach.startingTime landings earliest ≤ moment
      ∧ approach.Free landings blockouts moment} time := by
  obtain ⟨skips, free⟩ := settle_skips found
  exact skips.isLeast free

/-- Two searches that find a time find the same one, if they only differ in the order of what they see. -/
theorem landingTime_perm (moved : arranged.Perm landings) (shuffled : windows.Perm blockouts)
    (found : approach.landingTime landings blockouts earliest = .ok (some time))
    (again : approach.landingTime arranged windows earliest = .ok (some other)) : other = time := by
  have first := landingTime_isLeast_free again
  -- Both times are the first ones of one set.
  simp only [startingTime_perm moved, free_perm moved shuffled] at first
  exact first.unique (landingTime_isLeast_free found)

end Approach

namespace Scheduler

variable {scheduler : Scheduler} {sequence : Sequence} {flight : Flight} {mode : RunwayMode}
  {earliest time : Instant} {landings : List Landing} {runway : String}

/-- The same landings are settled and the same windows closed, in an order of their own. -/
structure Rearranges (runway : String) (other sequence : Sequence) (arranged landings : List Landing) :
    Prop where
  airport : other.airport.identifier = sequence.airport.identifier
  windows : (other.blockoutsFor runway).Perm (sequence.blockoutsFor runway)
  landings : arranged.Perm landings

/-- A landing time on a runway is exactly the one that is asked for. -/
structure Exact (scheduler : Scheduler) (sequence : Sequence) (flight : Flight) (mode : RunwayMode)
    (earliest : Instant) (landings : List Landing) (runway : String) (approach : Approach)
    (start time : Instant) : Prop where
  /-- The search starts at the earliest time, or at the latest landing that is fixed on the runway. -/
  starts : IsGreatest (approach.bounds landings earliest) start
  /-- It ends at the first time that lies in no window and keeps its distance to every landing. -/
  least : IsLeast {moment | start ≤ moment
    ∧ approach.Free landings (sequence.blockoutsFor runway) moment} time
  /-- No round moves back, and none passes over a free time. -/
  rounds {proposed next : Instant}
    (moved : approach.advance landings (sequence.blockoutsFor runway) proposed = .ok next) :
    Skips (approach.Free landings (sequence.blockoutsFor runway)) proposed next
  /-- In another order the search finds no other time. -/
  unordered {other : Sequence} {arranged : List Landing} {result : Instant}
    (rearranges : Rearranges runway other sequence arranged landings)
    (found : scheduler.landingTimeOn other flight mode earliest arranged runway = .ok result) :
    result = time
  /-- It does find one, if the attempts suffice for all that is in the way and the clock is not left. -/
  settles {other : Sequence} {arranged : List Landing}
    (rearranges : Rearranges runway other sequence arranged landings)
    (few : landings.length + (sequence.blockoutsFor runway).length < Approach.maxAttempts) :
    scheduler.landingTimeOn other flight mode earliest arranged runway = .ok time
      ∨ ∃ overflow,
        scheduler.landingTimeOn other flight mode earliest arranged runway = .error (.overflowed overflow)

/--
A landing time that is found on one runway is the first one that is free from the start on.

It is determined by what is settled and closed, and not by the order in which that is listed; only the
number of rounds until it is found may depend on the order.
-/
theorem landingTimeOn_exact
    (found : scheduler.landingTimeOn sequence flight mode earliest landings runway = .ok time) :
    let approach := scheduler.approach sequence.airport.identifier flight mode runway
    scheduler.Exact sequence flight mode earliest landings runway approach
      (approach.startingTime landings earliest) time := by
  intro approach
  have searched := landingTimeOn_eq_ok.mp found
  have unordered {other : Sequence} {arranged : List Landing} {result : Instant}
      (rearranges : Rearranges runway other sequence arranged landings)
      (again : scheduler.landingTimeOn other flight mode earliest arranged runway = .ok result) :
      result = time := by
    rw [landingTimeOn_eq_ok, rearranges.airport] at again
    exact Approach.landingTime_perm rearranges.landings rearranges.windows searched again
  constructor
  case starts => exact approach.startingTime_isGreatest landings earliest
  case least => exact Approach.landingTime_isLeast_free searched
  case rounds => exact Approach.advance_skips
  case unordered => exact unordered
  case settles =>
    intro other arranged rearranges few
    cases again : scheduler.landingTimeOn other flight mode earliest arranged runway with
    | ok result => exact .inl (congrArg Except.ok (unordered rearranges again))
    | error fault =>
      rw [← rearranges.landings.length_eq, ← rearranges.windows.length_eq] at few
      -- The search can only overflow, as it does not use up its attempts.
      rcases landingTimeOn_eq_error again with ⟨givenUp, _⟩ | ⟨overflow, _, rfl⟩
      · exact absurd givenUp (Approach.landingTime_ne_none few)
      · exact .inr ⟨overflow, rfl⟩

end Scheduler

/-- A flight that is about to land, and one that lands after the windows of a pair. -/
def Landing.samples : List Landing :=
  [{ Flight.sampleAnchor.landingOn "34L" with time := .sampleSeconds 30, positionIsFixed := true },
    { Flight.sampleAnchor.landingOn "34L" with callsign := "QFA3", time := .sampleSeconds 400 }]

/-- Between two landings and two windows the flight lands at one time, in whatever order they are. -/
theorem Scheduler.landingTimeOn_exact_sampleAlike :
    ∃ time, Scheduler.sample.landingTimeOn Sequence.sampleAlike.1 .sampleArrival singleMode .epoch
        Landing.samples "34L" = .ok time
      ∧ Scheduler.sample.landingTimeOn Sequence.sampleAlike.2 .sampleArrival singleMode .epoch
        Landing.samples.reverse "34L" = .ok time
      ∧ Scheduler.sample.Exact Sequence.sampleAlike.1 .sampleArrival singleMode .epoch Landing.samples
        "34L" (Scheduler.sample.approach "YSSY" .sampleArrival singleMode "34L") (.sampleSeconds 30)
        time := by
  obtain ⟨time, found⟩ : ∃ time, Scheduler.sample.landingTimeOn Sequence.sampleAlike.1 .sampleArrival
      singleMode .epoch Landing.samples "34L" = .ok time := by
    exact (Option.isSome_iff_exists.mp (by decide +kernel)).imp fun _ => toOption_eq_some.mp
  obtain ⟨other, again⟩ : ∃ other, Scheduler.sample.landingTimeOn Sequence.sampleAlike.2 .sampleArrival
      singleMode .epoch Landing.samples.reverse "34L" = .ok other := by
    exact (Option.isSome_iff_exists.mp (by decide +kernel)).imp fun _ => toOption_eq_some.mp
  have exact := Scheduler.landingTimeOn_exact found
  have rearranges : Scheduler.Rearranges "34L" Sequence.sampleAlike.2 Sequence.sampleAlike.1
      Landing.samples.reverse Landing.samples := ⟨rfl, .swap _ _ _, Landing.samples.reverse_perm⟩
  obtain rfl := exact.unordered rearranges again
  exact ⟨other, found, again, exact⟩

end ArrivalManager
