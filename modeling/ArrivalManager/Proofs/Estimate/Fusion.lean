import ArrivalManager.Estimate
import ArrivalManager.Proofs.Estimation
import ArrivalManager.Proofs.Time

/-! The estimate that is made of two sources is exactly in the middle of them. -/

namespace ArrivalManager

open Estimation

/-- Half of a span is half of its length, rounded down, though its seconds are divided apart. -/
theorem Duration.divide_two (span : Duration) : (span.divide 2).nanos = span.nanos / 2 := by
  have parts := Int.mul_ediv_add_emod span.nanos nanosPerSecond
  have fraction : span.subsecondNanos.tdiv 2 = span.subsecondNanos / 2 :=
    Int.tdiv_eq_ediv_of_nonneg (Int.emod_nonneg _ (by decide))
  -- A second that is left over has an even number of nanoseconds, so only the fraction is rounded.
  have carried : (span.wholeSeconds.tmod 2 * nanosPerSecond).tdiv 2
      = span.wholeSeconds.tmod 2 * 500000000 := by
    rw [show nanosPerSecond = 500000000 * 2 from rfl, ← Int.mul_assoc]
    exact Int.mul_tdiv_cancel _ (by decide)
  have seconds := Int.mul_tdiv_add_tmod span.wholeSeconds 2
  unfold divide
  dsimp only [Int.cast_ofNat_Int]
  rw [fraction, carried]
  unfold wholeSeconds subsecondNanos nanosPerSecond at *
  omega

/-- A nanosecond more than three seconds back, half of the span is rounded down as well. -/
example : (Duration.divide ⟨-3000000001⟩ 2).nanos = -1500000001 := by decide

namespace Instant

variable {start target fused : Instant}

/-- An instant is moved half the way exactly to the rounded middle, which is always on the clock. -/
theorem halfway_eq_ok :
    start.halfway target = .ok fused ↔ fused.nanos = (start.nanos + target.nanos) / 2 := by
  unfold halfway
  rw [plus_eq_ok, Duration.divide_two, since_nanos]
  omega

/-- Between two instants there is one in the middle. -/
theorem exists_halfway (start target : Instant) : ∃ fused, start.halfway target = .ok fused := by
  have bounds := And.intro start.first_le start.le_last
  have others := And.intro target.first_le target.le_last
  exact ⟨⟨(start.nanos + target.nanos) / 2, by omega, by omega⟩, halfway_eq_ok.mpr rfl⟩

/-- The middle lies between the two instants. -/
theorem halfway_between (middle : start.halfway target = .ok fused) :
    min start target ≤ fused ∧ fused ≤ max start target := by
  have floor := halfway_eq_ok.mp middle
  -- Half of a sum is no less than the smaller part and no more than the larger one.
  rcases le_total start target with order | order
  · rw [min_eq_left order, max_eq_right order]
    simp only [le_iff_nanos] at *
    omega
  · rw [min_eq_right order, max_eq_left order]
    simp only [le_iff_nanos] at *
    omega

/-- The middle is the same one from either side. -/
theorem halfway_comm (middle : start.halfway target = .ok fused) : target.halfway start = .ok fused := by
  rw [halfway_eq_ok, Int.add_comm]
  exact halfway_eq_ok.mp middle

/-- The middle does not move back when one of the instants moves on. -/
theorem halfway_mono {later other : Instant} (middle : start.halfway target = .ok fused)
    (moved : start ≤ later) (again : later.halfway target = .ok other) : fused ≤ other := by
  have first := halfway_eq_ok.mp middle
  have second := halfway_eq_ok.mp again
  rw [le_iff_nanos] at *
  omega

end Instant

namespace Estimator

/-- A fused estimate is in the middle of an estimate by radar and one of the system. -/
structure Fuses (radar system fused : Instant) : Prop where
  /-- It is the estimate at the fix, wherever radar is relied on and gives its estimate. -/
  estimated {estimator : Estimator} {range distance : Float} {fix : String} {position : Position}
    {now : Instant} (known : (estimator.distanceToFix fix position).result = some distance)
    (relied : (distance > range || position.groundSpeedKt <= 0.0) = false)
    (expected : flyingTime distance position.groundSpeedKt >>= now.plus = .ok radar) :
    Gives (estimator.fixEstimate range fix system (some position) now) fused
  /-- It is the mean of the two, rounded down to the nanosecond. -/
  floor : fused.nanos = (radar.nanos + system.nanos) / 2
  /-- It lies between the two. -/
  between : min radar system ≤ fused ∧ fused ≤ max radar system
  /-- It makes no difference which one of the two is the estimate by radar. -/
  symmetric : system.halfway radar = .ok fused
  /-- It does not move back when the estimate by radar moves on. -/
  monoRadar {later other : Instant} (moved : radar ≤ later)
    (again : later.halfway system = .ok other) : fused ≤ other
  /-- It does not move back when the estimate of the system moves on. -/
  monoSystem {later other : Instant} (moved : system ≤ later)
    (again : radar.halfway later = .ok other) : fused ≤ other

/-- Where radar is relied on, the estimate at the fix is halfway between the two sources. -/
theorem fixEstimate_gives {estimator : Estimator} {range distance : Float} {fix : String}
    {position : Position} {now radar system fused : Instant}
    (known : (estimator.distanceToFix fix position).result = some distance)
    (relied : (distance > range || position.groundSpeedKt <= 0.0) = false)
    (expected : flyingTime distance position.groundSpeedKt >>= now.plus = .ok radar)
    (middle : radar.halfway system = .ok fused) :
    Gives (estimator.fixEstimate range fix system (some position) now) fused := by
  unfold fixEstimate
  refine bind_gives.mpr ⟨some distance, lookup_gives.mpr known, ?_⟩
  dsimp only
  -- The flight is within range and in motion, so both estimates count.
  rw [relied]
  obtain ⟨flying, lasts, reached⟩ := bind_eq_ok.mp expected
  exact bind_gives.mpr ⟨flying, lift_gives.mpr lasts,
    bind_gives.mpr ⟨radar, lift_gives.mpr reached, lift_gives.mpr middle⟩⟩

/--
Any two estimates on the clock are fused, and their difference is one that is represented.

The fused estimate is their exact middle, although seconds and nanoseconds are halved apart.
-/
theorem fixEstimate_fuses (radar system : Instant) :
    (system.since radar).InRange ∧ ∃ fused, radar.halfway system = .ok fused
      ∧ Fuses radar system fused := by
  obtain ⟨fused, middle⟩ := radar.exists_halfway system
  refine ⟨system.since_inRange radar, fused, middle, ?_⟩
  exact {
    estimated := fun known relied expected => fixEstimate_gives known relied expected middle
    floor := Instant.halfway_eq_ok.mp middle
    between := Instant.halfway_between middle
    symmetric := Instant.halfway_comm middle
    monoRadar := fun moved again => Instant.halfway_mono middle moved again
    monoSystem := fun moved again =>
      Instant.halfway_mono (Instant.halfway_comm middle) moved (Instant.halfway_comm again) }

end Estimator

end ArrivalManager
