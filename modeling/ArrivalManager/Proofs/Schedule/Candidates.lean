import ArrivalManager.Proofs.Schedule.Spacing

/-! The choice among the candidates of a flight: one that gives up decides it for all of them. -/

namespace ArrivalManager

namespace Scheduler

variable (scheduler : Scheduler) (sequence : Sequence) (flight : Flight) (mode : RunwayMode)
  (earliest : Instant) (landings : List Landing)

/-- The search on a runway ends with a landing time. -/
def Lands (runway : String) : Prop :=
  ∃ time, scheduler.landingTimeOn sequence flight mode earliest landings runway = .ok time

/-- The choice of a runway is the earliest one of the landings that are found on the candidates. -/
def ChoosesEarliest : Prop :=
  ∃ time runway, scheduler.bestRunway sequence flight mode earliest landings = .ok (time, runway)
    ∧ runway ∈ candidates flight mode
    ∧ scheduler.landingTimeOn sequence flight mode earliest landings runway = .ok time
    ∧ ∀ other ∈ candidates flight mode, ∀ later,
      scheduler.landingTimeOn sequence flight mode earliest landings other = .ok later → time ≤ later

/-- The choice of a runway ends with the fault of the first candidate that has no landing, if one has none. -/
def EndsWithFirstFault : Prop :=
  ∀ before runway after fault, candidates flight mode = before ++ runway :: after →
    (∀ other ∈ before, scheduler.Lands sequence flight mode earliest landings other) →
    scheduler.landingTimeOn sequence flight mode earliest landings runway = .error fault →
    scheduler.bestRunway sequence flight mode earliest landings = .error fault

variable {scheduler sequence flight mode earliest landings}
variable {runways before after : List String} {runway : String} {time : Instant} {fault : Fault}
  {best : Option (Instant × String)}

/-- A scan over runways ends with the fault of the first one on which the search fails. -/
theorem earliestOn_eq_error_of_first
    (lands : ∀ runway ∈ before, scheduler.Lands sequence flight mode earliest landings runway)
    (failed : scheduler.landingTimeOn sequence flight mode earliest landings runway = .error fault) :
    scheduler.earliestOn sequence flight mode earliest landings (before ++ runway :: after) best
      = .error fault := by
  induction before generalizing best with
  | nil =>
    show scheduler.earliestOn _ _ _ _ _ (runway :: after) _ = _
    unfold earliestOn
    exact bind_eq_error.mpr (.inl failed)
  | cons first rest ih =>
    obtain ⟨time, landed⟩ := lands first List.mem_cons_self
    show scheduler.earliestOn _ _ _ _ _ (first :: (rest ++ runway :: after)) _ = _
    unfold earliestOn
    -- Whatever the landings in front are, none of them ends the scan.
    refine bind_eq_error.mpr (.inr ⟨time, landed, ?_⟩)
    exact ih fun other member => lands other (List.mem_cons_of_mem _ member)

/-- The choice of a runway ends with the fault of the first candidate on which the search fails. -/
theorem bestRunway_eq_error_of_first (split : candidates flight mode = before ++ runway :: after)
    (lands : ∀ runway ∈ before, scheduler.Lands sequence flight mode earliest landings runway)
    (failed : scheduler.landingTimeOn sequence flight mode earliest landings runway = .error fault) :
    scheduler.bestRunway sequence flight mode earliest landings = .error fault := by
  unfold bestRunway
  rw [split]
  exact bind_eq_error.mpr (.inl (earliestOn_eq_error_of_first lands failed))

/-- A choice that is made was made among candidates that all have a landing, and none has an earlier one. -/
theorem bestRunway_eq_ok
    (found : scheduler.bestRunway sequence flight mode earliest landings = .ok (time, runway)) :
    runway ∈ candidates flight mode
      ∧ scheduler.landingTimeOn sequence flight mode earliest landings runway = .ok time
      ∧ ∀ candidate ∈ candidates flight mode, ∃ other,
        scheduler.landingTimeOn sequence flight mode earliest landings candidate = .ok other
          ∧ time ≤ other := by
  unfold bestRunway at found
  obtain ⟨best, scanned, found⟩ := bind_eq_ok.mp found
  cases best with
  | none => cases found
  | some best =>
    obtain rfl := pure_eq_ok.mp found
    obtain ⟨bound, chosen⟩ := earliestOn_split scanned
    -- The scan starts without any best landing, so its result is one of those it came across.
    obtain ⟨_, before, after, shape, landed, _⟩ := chosen.resolve_left nofun
    refine ⟨?_, landed, bound⟩
    rw [shape]
    exact List.mem_append_right _ List.mem_cons_self

/--
The earliest landing among the candidates is chosen exactly if every one of them has a landing.

A single candidate on which the search gives up leaves the flight without any landing, whatever was
found on the others.
-/
theorem bestRunway_earliest_iff :
    (scheduler.ChoosesEarliest sequence flight mode earliest landings
      ↔ candidates flight mode ≠ []
        ∧ ∀ runway ∈ candidates flight mode,
          scheduler.Lands sequence flight mode earliest landings runway)
      ∧ scheduler.EndsWithFirstFault sequence flight mode earliest landings := by
  refine ⟨⟨?_, ?_⟩, fun _ _ _ _ split lands failed => ?_⟩
  · rintro ⟨time, runway, found, member, _, _⟩
    refine ⟨List.ne_nil_of_mem member, fun candidate listed => ?_⟩
    obtain ⟨other, landed, _⟩ := (bestRunway_eq_ok found).2.2 candidate listed
    exact ⟨other, landed⟩
  · rintro ⟨present, lands⟩
    -- The choice can neither fail on a candidate nor for want of one.
    cases found : scheduler.bestRunway sequence flight mode earliest landings with
    | error fault =>
      rcases bestRunway_eq_error found with ⟨empty, _⟩ | ⟨runway, member, failed⟩
      · exact absurd empty present
      · obtain ⟨time, landed⟩ := lands runway member
        exact absurd (landed.symm.trans failed) nofun
    | ok best =>
      obtain ⟨time, runway⟩ := best
      obtain ⟨member, landed, bound⟩ := bestRunway_eq_ok found
      refine ⟨time, runway, found, member, landed, fun other listed later there => ?_⟩
      obtain ⟨known, here, notLater⟩ := bound other listed
      obtain rfl : known = later := Except.ok.inj (here.symm.trans there)
      exact notLater
  · exact bestRunway_eq_error_of_first split lands failed

end Scheduler

/-- The instant that lies some minutes after the epoch. -/
def Instant.sampleMinute (count : Fin 101) : Instant where
  nanos := 60000000000 * count
  first_le := by
    simp only [firstNanos, nanosPerSecond]
    omega
  le_last := by
    simp only [lastNanos, nanosPerSecond]
    omega

/-- One of the first hundred minutes, in which nothing lands on the left runway. -/
def Slot.sampleMinute (place : Fin 100) : Slot where
  id := ⟨place⟩
  period :=
    { start := .sampleMinute place.castSucc
      finish := .sampleMinute place.succ
      start_lt_finish := by
        simp only [Instant.lt_iff_nanos, Instant.sampleMinute, Fin.val_castSucc, Fin.val_succ]
        omega }
  runways := ["34L"]

/-- A flight that may land on either of two runways, the left one of which is closed for long. -/
def Sequence.sampleClosed : Sequence :=
  { Sequence.samplePair with
    flights := [.sampleArrival]
    slots := (List.finRange 100).map .sampleMinute
    mode := northMode }

/-- The left runway comes first among the candidates of the flight, as neither is preferred. -/
theorem Scheduler.candidates_sampleClosed :
    candidates .sampleArrival northMode = ["34L", "34R"] := by
  show (rankRunways northMode.runways _ _).map _ = _
  rw [rankRunways, List.mergeSort_of_pairwise (by decide)]
  rfl

/-- The right runway is free at once, but the flight is refused as the left one is closed for long. -/
theorem Scheduler.bestRunway_earliest_sampleClosed :
    "34R" ∈ candidates .sampleArrival northMode
      ∧ sample.landingTimeOn .sampleClosed .sampleArrival northMode .epoch [] "34R" = .ok .epoch
      ∧ sample.bestRunway .sampleClosed .sampleArrival northMode .epoch []
        = .error (.refused (.unsatisfiableSchedule "VOZ2" (.one "34L") 100))
      ∧ ¬ sample.ChoosesEarliest .sampleClosed .sampleArrival northMode .epoch [] := by
  have exhausted : sample.landingTimeOn .sampleClosed .sampleArrival northMode .epoch [] "34L"
      = .error (.refused (.unsatisfiableSchedule "VOZ2" (.one "34L") 100)) := by
    decide +kernel
  have split : candidates .sampleArrival northMode = [] ++ "34L" :: ["34R"] :=
    candidates_sampleClosed
  have refused : sample.bestRunway .sampleClosed .sampleArrival northMode .epoch []
      = .error (.refused (.unsatisfiableSchedule "VOZ2" (.one "34L") 100)) :=
    bestRunway_eq_error_of_first split nofun exhausted
  refine ⟨?_, by decide +kernel, refused, ?_⟩
  · rw [candidates_sampleClosed]
    decide
  · rintro ⟨time, runway, found, _⟩
    exact absurd (found.symm.trans refused) nofun

end ArrivalManager
