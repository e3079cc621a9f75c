import ArrivalManager.Proofs.Schedule.Spacing

/-! Spacing is needed in both orders of two landings, and so the search for a landing time only moves on. -/

namespace ArrivalManager

namespace Approach

/-- The ways in which the search pushes a flight from a proposed time to a later one. -/
structure Pushes (approach : Approach) (landings : List Landing) (blockouts : List Blockout)
    (proposed : Instant) : Prop where
  /-- Behind the leaders, if one of them is too close. -/
  leaders {leader : Landing} {spacing : Duration} {next : Instant} (member : leader ∈ landings)
    (leads : leader.time ≤ proposed) (needed : approach.spacingBehind leader = some spacing)
    (close : proposed.since leader.time < spacing)
    (moved : approach.clearBehindAll proposed landings = .ok next) : proposed < next
  /-- A trailer that is infringed asks for a spacing behind it too, and for a positive one. -/
  reverse {trailer : Landing} (infringed : approach.infringes proposed trailer = true) :
    ∃ spacing, approach.spacingBehind trailer = some spacing ∧ Duration.zero < spacing
  /-- Behind a trailer by its own spacing and nothing in its place, if one of them is infringed. -/
  trailers {trailer : Landing} (member : trailer ∈ landings)
    (infringed : approach.infringes proposed trailer = true) :
    ∃ first ∈ landings, approach.infringes proposed first = true
      ∧ ∃ spacing, approach.spacingBehind first = some spacing
        ∧ approach.giveWay landings proposed = first.time.plus spacing
        ∧ ∀ next, approach.giveWay landings proposed = .ok next → proposed < next
  /-- Out of a window, if it lies in one. -/
  windows {blockout : Blockout} (member : blockout ∈ blockouts)
    (inside : blockout.contains proposed = true) : proposed < leaveBlockout blockouts proposed

/-- Times that are proposed one after the other, each by a round of the search from the one before. -/
def Proposes (approach : Approach) (landings : List Landing) (blockouts : List Blockout)
    (times : List Instant) : Prop :=
  times.IsChain fun proposed next =>
    next ≠ proposed ∧ approach.advance landings blockouts proposed = .ok next

variable {approach : Approach} {landings : List Landing} {blockouts : List Blockout}
  {leader trailer : Landing} {spacing : Duration} {proposed next : Instant}

/-- A leader that is too close pushes the flight to a later time. -/
theorem lt_of_clearBehindAll (member : leader ∈ landings) (leads : leader.time ≤ proposed)
    (needed : approach.spacingBehind leader = some spacing)
    (close : proposed.since leader.time < spacing)
    (moved : approach.clearBehindAll proposed landings = .ok next) : proposed < next := by
  -- Going behind the leaders never moves back, and a flight that stays keeps all its distances.
  refine lt_of_le_of_ne (clearBehindAll_skips moved).1 fun stayed => ?_
  subst stayed
  have far := clearBehind_stays (clearBehindAll_stays moved member) leads needed
  exact absurd close (not_lt.mpr far)

/-- A trailer that is infringed pushes the flight to a later time. -/
theorem lt_of_giveWay (member : trailer ∈ landings)
    (infringed : approach.infringes proposed trailer = true)
    (moved : approach.giveWay landings proposed = .ok next) : proposed < next := by
  refine lt_of_le_of_ne (giveWay_skips moved).1 fun stayed => ?_
  subst stayed
  simp [giveWay_stays moved member] at infringed

/-- Giving way leads behind an infringed trailer, by the spacing that the flight keeps behind it. -/
theorem giveWay_eq_plus (member : trailer ∈ landings)
    (infringed : approach.infringes proposed trailer = true) :
    ∃ first ∈ landings, approach.infringes proposed first = true
      ∧ ∃ spacing, approach.spacingBehind first = some spacing
        ∧ approach.giveWay landings proposed = first.time.plus spacing := by
  -- There is an infringed trailer, so there is an earliest one.
  have kept : trailer ∈ landings.filter (approach.infringes proposed) :=
    List.mem_filter.mpr ⟨member, infringed⟩
  have some : earliestLanding? (landings.filter (approach.infringes proposed)) ≠ none :=
    fun missed => List.ne_nil_of_mem kept (earliestLanding?_eq_none.mp missed)
  obtain ⟨first, found⟩ := Option.ne_none_iff_exists'.mp some
  obtain ⟨listed, close⟩ := List.mem_filter.mp (earliestLanding?_mem found)
  -- A spacing that is infringed ahead of it comes with one behind it.
  obtain ⟨spacing, reversed, _⟩ := spacingBehind_of_infringes close
  refine ⟨first, listed, close, spacing, reversed, ?_⟩
  simp only [giveWay, found, reversed, Option.getD_some]

/-- A window that holds the proposed time pushes the flight to a later one. -/
theorem lt_leaveBlockout {blockout : Blockout} (member : blockout ∈ blockouts)
    (inside : blockout.contains proposed = true) : proposed < leaveBlockout blockouts proposed := by
  refine lt_of_le_of_ne (leaveBlockout_skips blockouts proposed).1 fun stayed => ?_
  simp [leaveBlockout_stays stayed.symm blockout member] at inside

/-- At every proposed time, all that is in the way pushes the flight on. -/
theorem pushes (approach : Approach) (landings : List Landing) (blockouts : List Blockout)
    (proposed : Instant) : approach.Pushes landings blockouts proposed := by
  constructor
  case leaders =>
    exact fun member leads needed close moved => lt_of_clearBehindAll member leads needed close moved
  case reverse => exact fun infringed => spacingBehind_of_infringes infringed
  case trailers =>
    intro trailer member infringed
    obtain ⟨first, listed, close, spacing, reversed, moves⟩ := giveWay_eq_plus member infringed
    exact ⟨first, listed, close, spacing, reversed, moves, fun _ => lt_of_giveWay member infringed⟩
  case windows => exact fun member inside => lt_leaveBlockout member inside

/-- A round of the search that changes the proposed time changes it to a later one. -/
theorem lt_of_advance (moved : approach.advance landings blockouts proposed = .ok next)
    (changed : next ≠ proposed) : proposed < next :=
  lt_of_le_of_ne (advance_skips moved).1 changed.symm

/-- The times that a search proposes become later and later. -/
theorem Proposes.pairwise {times : List Instant}
    (proposes : approach.Proposes landings blockouts times) : times.Pairwise (· < ·) := by
  have rises : times.IsChain (· < ·) := proposes.imp fun _ _ step => lt_of_advance step.2 step.1
  exact rises.pairwise

/-- The times that a search proposes after the first one, up to where it ends or is given up. -/
theorem settle_proposes {rounds : Nat} {found : Option Instant}
    (searched : approach.settle landings blockouts rounds proposed = .ok found) :
    ∃ times, approach.Proposes landings blockouts (proposed :: times) ∧
      ((found = none ∧ times.length = rounds)
        ∨ ∃ time, found = some time ∧ (proposed :: times).getLast? = some time
          ∧ approach.advance landings blockouts time = .ok time ∧ times.length < rounds) := by
  -- The induction follows the rounds; each one that goes on adds the time that it proposes.
  induction rounds generalizing proposed with
  | zero =>
    cases searched
    exact ⟨[], .singleton _, .inl ⟨rfl, rfl⟩⟩
  | succ rounds ih =>
    simp only [settle] at searched
    obtain ⟨next, moved, searched⟩ := bind_eq_ok.mp searched
    split at searched
    · -- The round changes nothing, and the search ends where it stands.
      rename_i stayed
      subst stayed
      cases pure_eq_ok.mp searched
      exact ⟨[], .singleton _, .inr ⟨next, rfl, rfl, moved, Nat.succ_pos rounds⟩⟩
    · rename_i changed
      obtain ⟨times, proposes, ends⟩ := ih searched
      refine ⟨next :: times, List.isChain_cons_cons.mpr ⟨⟨changed, moved⟩, proposes⟩, ?_⟩
      rcases ends with ⟨rfl, all⟩ | ⟨time, rfl, last, stays, few⟩
      · exact .inl ⟨rfl, by simp [all]⟩
      · refine .inr ⟨time, rfl, ?_, stays, by simpa using few⟩
        rw [List.getLast?_cons_cons, last]

/--
Spacing applies in both directions, and therefore every push of the search moves on.

Whatever rule, mode, aircraft and runways there are, two landings are independent in both orders or
in neither; on runways of the mode a spacing is no shorter than the least one, and on a common one no
shorter than the landing rate and the rule. So an infringed trailer always has a spacing behind it,
and all the times that a search proposes are later than those before.
-/
theorem search_ascends :
    (∀ rule mode leader leaderRunway trailer trailerRunway,
      Mutual rule mode leader leaderRunway trailer trailerRunway)
    ∧ ∀ (approach : Approach) (landings : List Landing) (blockouts : List Blockout),
      (∀ proposed, approach.Pushes landings blockouts proposed)
      ∧ ∀ rounds proposed found, approach.settle landings blockouts rounds proposed = .ok found →
        ∃ times, approach.Proposes landings blockouts (proposed :: times)
          ∧ (proposed :: times).Pairwise (· < ·)
          ∧ ((found = none ∧ times.length = rounds)
            ∨ ∃ time, found = some time ∧ (proposed :: times).getLast? = some time
              ∧ approach.advance landings blockouts time = .ok time ∧ times.length < rounds) := by
  refine ⟨fun _ _ _ _ _ _ => requiredSeparation_mutual, fun approach landings blockouts =>
    ⟨approach.pushes landings blockouts, fun rounds proposed found searched => ?_⟩⟩
  obtain ⟨times, proposes, ends⟩ := settle_proposes searched
  exact ⟨times, proposes, proposes.pairwise, ends⟩

/-- Landings to the north on two runways, of which one keeps a stagger against the other. -/
def sampleStaggered : RunwayMode :=
  { singleMode with
    runways := [
      { sampleRunway "34L" [] [] [] with dependencies := [⟨"34R", .ofSeconds 10⟩] },
      sampleRunway "34R" [] [] []] }

/-- A flight that is to land on the runway that keeps no stagger itself. -/
def sampleStaggering : Approach :=
  { rule := WakeTable.standard.rule
    mode := sampleStaggered
    aircraft := Flight.sampleArrival.aircraft
    runway := "34R"
    fix := none
    interval := none }

/-- A landing on the runway that keeps the stagger. -/
def sampleTrailer : Landing := { Flight.sampleAnchor.landingOn "34L" with time := .sampleSeconds 60 }

/-- A flight ten seconds ahead of a landing on the other runway goes half a minute behind it. -/
theorem search_ascends_sampleStaggering :
    sampleStaggering.infringes (.sampleSeconds 50) sampleTrailer = true
      ∧ (∃ spacing, sampleStaggering.spacingBehind sampleTrailer = some spacing
        ∧ Duration.zero < spacing)
      ∧ ∃ times, sampleStaggering.Proposes [sampleTrailer] [] (.sampleSeconds 50 :: times)
        ∧ (.sampleSeconds 50 :: times).getLast? = some (.sampleSeconds 90)
        ∧ (Instant.sampleSeconds 50 :: times).Pairwise (· < ·) := by
  have infringed : sampleStaggering.infringes (.sampleSeconds 50) sampleTrailer = true := by
    decide +kernel
  have searched : sampleStaggering.settle [sampleTrailer] [] 100 (.sampleSeconds 50)
      = .ok (some (.sampleSeconds 90)) := by decide +kernel
  obtain ⟨pushes, rises⟩ := search_ascends.2 sampleStaggering [sampleTrailer] []
  obtain ⟨times, proposes, later, ends⟩ := rises _ _ _ searched
  -- The search ends with the only time that it proposes behind the first one.
  rcases ends with ⟨missed, _⟩ | ⟨time, found, last, _⟩
  · cases missed
  · obtain rfl := Option.some.inj found
    exact ⟨infringed, (pushes _).reverse infringed, times, proposes, last, later⟩

end Approach

end ArrivalManager
