import ArrivalManager.Proofs.Result
import ArrivalManager.Proofs.Separation
import ArrivalManager.Schedule.Conflict

/-! The search for a landing time ends at the first time that keeps clear of everything else. -/

namespace ArrivalManager

namespace Approach

variable {approach : Approach} {landings : List Landing} {blockouts : List Blockout}
  {other : Landing} {spacing : Duration} {proposed next : Instant}

/-- A landing at a time keeps its spacing to another one, behind it or ahead of it. -/
structure ClearOf (approach : Approach) (other : Landing) (time : Instant) : Prop where
  behind : other.time ≤ time → ∀ spacing, approach.spacingBehind other = some spacing →
    spacing ≤ time.since other.time
  ahead : time ≤ other.time → ∀ spacing, approach.spacingAhead other = some spacing →
    spacing ≤ other.time.since time

/-- A landing at a time infringes no spacing and lies in no window. -/
structure Free (approach : Approach) (landings : List Landing) (blockouts : List Blockout)
    (time : Instant) : Prop where
  clear : ∀ other ∈ landings, approach.ClearOf other time
  unblocked : ∀ blockout ∈ blockouts, blockout.contains time = false

/-- A landing at a time is free, and overtakes no flight that is fixed on the same runway. -/
structure Permits (approach : Approach) (landings : List Landing) (blockouts : List Blockout)
    (time : Instant) : Prop extends approach.Free landings blockouts time where
  behindFixed : ∀ other ∈ landings, other.positionIsFixed = true →
    other.runway = approach.runway → other.time ≤ time

/-- The ways in which a landing at a time infringes something. -/
inductive Obstructed (approach : Approach) (landings : List Landing) (blockouts : List Blockout)
    (time : Instant) : Prop where
  /-- It is too close behind another landing. -/
  | behind {other : Landing} {spacing : Duration} (member : other ∈ landings)
    (leads : other.time ≤ time) (needed : approach.spacingBehind other = some spacing)
    (close : time.since other.time < spacing)
  /-- It is too close ahead of another landing. -/
  | ahead {other : Landing} {spacing : Duration} (member : other ∈ landings)
    (trails : time ≤ other.time) (needed : approach.spacingAhead other = some spacing)
    (close : other.time.since time < spacing)
  /-- It lies in a window. -/
  | blocked {blockout : Blockout} (member : blockout ∈ blockouts)
    (inside : blockout.contains time = true)
  /-- It overtakes a flight that is fixed on the same runway. -/
  | overtaking {other : Landing} (member : other ∈ landings) (fixed : other.positionIsFixed = true)
    (same : other.runway = approach.runway) (overtakes : time < other.time)

/-- What is not permitted is obstructed by something. -/
theorem not_permits_iff {approach : Approach} {landings : List Landing} {blockouts : List Blockout}
    {time : Instant} :
    ¬ approach.Permits landings blockouts time ↔ approach.Obstructed landings blockouts time := by
  constructor
  · intro denied
    by_contra unobstructed
    -- Each of the conditions fails only by one of the obstructions.
    refine denied ⟨⟨fun other member => ⟨fun leads spacing needed => ?_,
      fun trails spacing needed => ?_⟩, fun blockout member => ?_⟩, fun other member fixed same => ?_⟩
    · by_contra close
      exact unobstructed (.behind member leads needed (not_le.mp close))
    · by_contra close
      exact unobstructed (.ahead member trails needed (not_le.mp close))
    · by_contra inside
      exact unobstructed (.blocked member (by simpa using inside))
    · by_contra overtakes
      exact unobstructed (.overtaking member fixed same (not_le.mp overtakes))
  · rintro obstructed permits
    cases obstructed with
    | behind member leads needed close =>
      exact absurd ((permits.clear _ member).behind leads _ needed) (not_le.mpr close)
    | ahead member trails needed close =>
      exact absurd ((permits.clear _ member).ahead trails _ needed) (not_le.mpr close)
    | blocked member inside => simp [permits.unblocked _ member] at inside
    | overtaking member fixed same overtakes =>
      exact absurd (permits.behindFixed _ member fixed same) (not_le.mpr overtakes)

/-- An arrival interval never shortens a spacing. -/
theorem le_raised (approach : Approach) (other : Landing) (separation : Duration) :
    separation ≤ approach.raised other separation := by
  unfold raised
  -- A spacing is raised only if there is an interval, and only to the longer of the two.
  split
  · split
    · exact le_max_left _ _
    · exact le_refl _
  · exact le_refl _

/-- Where a trailer needs a distance, the flight needs one behind that trailer too. -/
theorem spacingBehind_of_spacingAhead (needed : approach.spacingAhead other = some spacing)
    (positive : Duration.zero < spacing) :
    ∃ reverse, approach.spacingBehind other = some reverse ∧ Duration.zero < reverse := by
  unfold spacingAhead at needed
  obtain ⟨separation, required, rfl⟩ := Option.map_eq_some_iff.mp needed
  obtain ⟨reverse, reversed, related⟩ := requiredSeparation_swap required
  refine ⟨approach.raised other reverse, by rw [spacingBehind, reversed]; rfl, ?_⟩
  rcases related with rfl | ⟨_, least⟩
  · -- The interval raises one spacing as it raises the other.
    exact positive
  · exact leastSeparation_pos.trans_le (least.trans (approach.le_raised other reverse))

/-- Going behind a leader leads to its spacing, unless the leader was not too close. -/
theorem clearBehind_cases (moved : approach.clearBehind other proposed = .ok next) :
    (next = proposed ∧ ∀ spacing, approach.spacingBehind other = some spacing →
        other.time ≤ proposed → spacing ≤ proposed.since other.time) ∨
      ∃ spacing, approach.spacingBehind other = some spacing ∧ other.time ≤ proposed
        ∧ proposed.since other.time < spacing ∧ other.time.plus spacing = .ok next := by
  unfold clearBehind at moved
  split at moved
  · rename_i spacing needed
    -- Only a leader that needs a distance moves the flight.
    split at moved
    · rename_i leads
      obtain ⟨reached, summed, chosen⟩ := bind_eq_ok.mp moved
      obtain rfl := pure_eq_ok.mp chosen
      have sum := Instant.plus_eq_ok.mp summed
      rcases le_or_gt reached proposed with behind | beyond
      · refine .inl ⟨max_eq_left behind, fun asked found _ => ?_⟩
        obtain rfl : spacing = asked := Option.some.inj (needed.symm.trans found)
        -- The sum is no later than the time at which the flight stays, so the distance is kept.
        simp only [Duration.le_iff_nanos, Instant.le_iff_nanos, Instant.since_nanos] at behind ⊢
        omega
      · refine .inr ⟨spacing, needed, leads, ?_, by rw [max_eq_right beyond.le, summed]⟩
        simp only [Duration.lt_iff_nanos, Instant.lt_iff_nanos, Instant.since_nanos] at beyond ⊢
        omega
    · rename_i follows
      cases moved
      exact .inl ⟨rfl, fun _ _ leads => absurd leads follows⟩
  · rename_i independent
    cases moved
    exact .inl ⟨rfl, by simp [independent]⟩

/-- Going behind a leader skips only times at which it would be too close. -/
theorem clearBehind_skips (moved : approach.clearBehind other proposed = .ok next) :
    Skips (approach.ClearOf other) proposed next := by
  rcases clearBehind_cases moved with ⟨rfl, _⟩ | ⟨spacing, needed, leads, close, sum⟩
  · exact .refl _ _
  · have sum := Instant.plus_eq_ok.mp sum
    simp only [Duration.lt_iff_nanos, Instant.since_nanos] at close
    refine ⟨by rw [Instant.le_iff_nanos]; omega, fun time after before clear => ?_⟩
    -- A time short of the sum is too close behind the leader.
    have distance := clear.behind (leads.trans after) spacing needed
    simp only [Duration.le_iff_nanos, Instant.lt_iff_nanos, Instant.since_nanos] at distance before
    omega

/-- A flight that does not move keeps its distance behind the leader. -/
theorem clearBehind_stays (stayed : approach.clearBehind other proposed = .ok proposed)
    (leads : other.time ≤ proposed) (needed : approach.spacingBehind other = some spacing) :
    spacing ≤ proposed.since other.time := by
  rcases clearBehind_cases stayed with ⟨_, far⟩ | ⟨asked, _, _, close, sum⟩
  · exact far spacing needed leads
  · -- Behind a leader that was too close lies a later time.
    have sum := Instant.plus_eq_ok.mp sum
    simp only [Duration.lt_iff_nanos, Instant.since_nanos] at close
    omega

/-- Going behind all leaders skips only times at which one of them would be too close. -/
theorem clearBehindAll_skips (moved : approach.clearBehindAll proposed landings = .ok next) :
    Skips (fun time => ∀ other ∈ landings, approach.ClearOf other time) proposed next := by
  induction landings generalizing next with
  | nil =>
    cases moved
    exact .refl _ _
  | cons leader rest ih =>
    -- The latest of the times behind the first leader and behind the others is taken.
    simp only [clearBehindAll] at moved
    obtain ⟨behindFirst, first, moved⟩ := bind_eq_ok.mp moved
    obtain ⟨behindRest, others, chosen⟩ := bind_eq_ok.mp moved
    obtain rfl := pure_eq_ok.mp chosen
    exact ((clearBehind_skips first).mono fun time clear => clear leader List.mem_cons_self).farther
      ((ih others).mono fun time clear other member => clear other (List.mem_cons_of_mem _ member))

/-- A flight that does not move keeps its distance behind every leader. -/
theorem clearBehindAll_stays (stayed : approach.clearBehindAll proposed landings = .ok proposed)
    (member : other ∈ landings) : approach.clearBehind other proposed = .ok proposed := by
  induction landings with
  | nil => simp at member
  | cons leader rest ih =>
    simp only [clearBehindAll] at stayed
    obtain ⟨behindFirst, first, stayed⟩ := bind_eq_ok.mp stayed
    obtain ⟨behindRest, others, chosen⟩ := bind_eq_ok.mp stayed
    -- Neither part moves back, so with their maximum both of them stay.
    have bounds := max_le_iff.mp (le_of_eq (pure_eq_ok.mp chosen))
    have firstStays : behindFirst = proposed := le_antisymm bounds.1 (clearBehind_skips first).1
    have restStays : behindRest = proposed := le_antisymm bounds.2 (clearBehindAll_skips others).1
    subst firstStays restStays
    -- The leader is the first one, or one of the others, which stay by induction.
    rcases List.mem_cons.mp member with rfl | member
    · exact first
    · exact ih others member

end Approach

/-- The earliest landing is one of the landings. -/
theorem earliestLanding?_mem {landings : List Landing} {found : Landing}
    (earliest : earliestLanding? landings = some found) : found ∈ landings := by
  induction landings generalizing found with
  | nil => simp [earliestLanding?] at earliest
  | cons first rest ih =>
    simp only [earliestLanding?] at earliest
    -- The earliest of the others is preferred only if it lands before the first one.
    split at earliest
    · rename_i other among
      split at earliest
      · cases earliest
        exact List.mem_cons_of_mem _ (ih among)
      · cases earliest
        exact List.mem_cons_self
    · cases earliest
      exact List.mem_cons_self

/-- Only without landings there is no earliest one. -/
theorem earliestLanding?_eq_none {landings : List Landing} :
    earliestLanding? landings = none ↔ landings = [] := by
  cases landings with
  | nil => simp [earliestLanding?]
  | cons first rest =>
    simp only [earliestLanding?, reduceCtorEq, iff_false]
    -- With a landing at hand there is an earliest one, whatever the others are.
    split
    · split <;> simp
    · simp

namespace Approach

variable {approach : Approach} {landings : List Landing} {blockouts : List Blockout}
  {other : Landing} {proposed next : Instant}

/-- A flight comes too close to a trailer if it lies less than the trailer's distance ahead of it. -/
theorem infringes_iff : approach.infringes proposed other = true ↔
    proposed ≤ other.time ∧ ∃ spacing, approach.spacingAhead other = some spacing
      ∧ other.time.since proposed < spacing := by
  simp [infringes, Option.any_eq_true]

/-- Behind a trailer that it comes too close to, a flight needs a distance as well. -/
theorem spacingBehind_of_infringes (close : approach.infringes proposed other = true) :
    ∃ reverse, approach.spacingBehind other = some reverse ∧ Duration.zero < reverse := by
  obtain ⟨follows, spacing, needed, close⟩ := infringes_iff.mp close
  -- The distance that is infringed is positive, and so there is one the other way round.
  refine spacingBehind_of_spacingAhead needed ?_
  simp only [Duration.lt_iff_nanos, Instant.since_nanos, Instant.le_iff_nanos,
    Duration.zero] at close follows ⊢
  omega

/-- Giving way leads behind a trailer that was too close, unless there is none. -/
theorem giveWay_cases (moved : approach.giveWay landings proposed = .ok next) :
    (next = proposed ∧ ∀ other ∈ landings, approach.infringes proposed other = false) ∨
      ∃ trailer ∈ landings, approach.infringes proposed trailer = true
        ∧ ∃ reverse, approach.spacingBehind trailer = some reverse ∧ Duration.zero < reverse
          ∧ trailer.time.plus reverse = .ok next := by
  unfold giveWay at moved
  split at moved
  · rename_i trailer found
    have kept := List.mem_filter.mp (earliestLanding?_mem found)
    obtain ⟨reverse, reversed, longer⟩ := spacingBehind_of_infringes kept.2
    rw [reversed, Option.getD_some] at moved
    exact .inr ⟨trailer, kept.1, kept.2, reverse, reversed, longer, moved⟩
  · rename_i missed
    cases moved
    have none := List.filter_eq_nil_iff.mp (earliestLanding?_eq_none.mp missed)
    exact .inl ⟨rfl, fun other member => by simpa using none other member⟩

/-- Giving way skips only times at which the trailer would be too close. -/
theorem giveWay_skips (moved : approach.giveWay landings proposed = .ok next) :
    Skips (fun time => ∀ other ∈ landings, approach.ClearOf other time) proposed next := by
  -- Without an infringed trailer the flight does not move at all.
  rcases giveWay_cases moved with ⟨rfl, _⟩ | ⟨trailer, member, close, reverse, reversed, longer, sum⟩
  · exact .refl _ _
  · obtain ⟨follows, spacing, needed, close⟩ := infringes_iff.mp close
    have sum := Instant.plus_eq_ok.mp sum
    simp only [Duration.lt_iff_nanos, Instant.since_nanos, Instant.le_iff_nanos,
      Duration.zero] at close follows longer
    -- The trailer lies no earlier than the flight, and the time behind it is later still.
    refine ⟨by rw [Instant.le_iff_nanos]; omega, fun time after before clear => ?_⟩
    have clear := clear trailer member
    rw [Instant.le_iff_nanos] at after
    rw [Instant.lt_iff_nanos] at before
    -- Up to the trailer the flight is too close ahead of it, and from there too close behind it.
    rcases le_total time trailer.time with early | late
    · have distance := clear.ahead early spacing needed
      simp only [Duration.le_iff_nanos, Instant.since_nanos] at distance
      omega
    · have distance := clear.behind late reverse reversed
      simp only [Duration.le_iff_nanos, Instant.since_nanos] at distance
      omega

/-- A flight that does not give way is not too close to any trailer. -/
theorem giveWay_stays (stayed : approach.giveWay landings proposed = .ok proposed)
    (member : other ∈ landings) : approach.infringes proposed other = false := by
  rcases giveWay_cases stayed with ⟨_, none⟩ | ⟨trailer, _, close, reverse, _, longer, sum⟩
  · exact none other member
  · -- Behind a trailer that was too close lies a later time.
    have follows := (infringes_iff.mp close).1
    have sum := Instant.plus_eq_ok.mp sum
    simp only [Instant.le_iff_nanos, Duration.lt_iff_nanos, Duration.zero] at follows longer
    omega

end Approach

/-- Leaving a window leads to its end, unless the proposed time lies in none. -/
theorem leaveBlockout_cases (blockouts : List Blockout) (proposed : Instant) :
    (leaveBlockout blockouts proposed = proposed
        ∧ ∀ blockout ∈ blockouts, blockout.contains proposed = false) ∨
      ∃ blockout ∈ blockouts, blockout.start ≤ proposed ∧ proposed < blockout.finish
        ∧ leaveBlockout blockouts proposed = blockout.finish := by
  unfold leaveBlockout
  split
  · rename_i blockout found
    -- The window that is left is one that holds the proposed time.
    have inside : blockout.start ≤ proposed ∧ proposed < blockout.finish := by
      simpa [Blockout.contains] using List.find?_some found
    exact .inr ⟨blockout, List.mem_of_find?_eq_some found, inside.1, inside.2, rfl⟩
  · rename_i missed
    exact .inl ⟨rfl, fun blockout member => by simpa using List.find?_eq_none.mp missed blockout member⟩

/-- Leaving a window skips only times in that window. -/
theorem leaveBlockout_skips (blockouts : List Blockout) (proposed : Instant) :
    Skips (fun time => ∀ blockout ∈ blockouts, blockout.contains time = false) proposed
      (leaveBlockout blockouts proposed) := by
  rcases leaveBlockout_cases blockouts proposed with ⟨same, _⟩ | ⟨blockout, member, begun, ends, same⟩
  · -- Outside of all windows there is nothing to leave.
    rw [same]
    exact .refl _ _
  · rw [same]
    refine ⟨ends.le, fun time after before clear => ?_⟩
    have outside := clear blockout member
    simp [Blockout.contains, begun.trans after, before] at outside

/-- A flight that leaves no window is in none. -/
theorem leaveBlockout_stays {blockouts : List Blockout} {proposed : Instant}
    (stayed : leaveBlockout blockouts proposed = proposed) :
    ∀ blockout ∈ blockouts, blockout.contains proposed = false := by
  rcases leaveBlockout_cases blockouts proposed with ⟨_, outside⟩ | ⟨blockout, _, _, ends, same⟩
  · exact outside
  · -- The window would end where the flight stays, although the flight is inside.
    exact absurd ends (by rw [← same, stayed]; exact lt_irrefl proposed)

namespace Approach

variable {approach : Approach} {landings : List Landing} {blockouts : List Blockout}
  {proposed next earliest : Instant}

/-- A round of the search skips only times that are not free. -/
theorem advance_skips (moved : approach.advance landings blockouts proposed = .ok next) :
    Skips (approach.Free landings blockouts) proposed next := by
  unfold advance at moved
  obtain ⟨behindLeaders, leaders, moved⟩ := bind_eq_ok.mp moved
  obtain ⟨behindTrailer, trailer, chosen⟩ := bind_eq_ok.mp moved
  obtain rfl := pure_eq_ok.mp chosen
  -- Each of the three parts skips times at which one of the conditions fails.
  have first := (clearBehindAll_skips leaders).mono fun _ (free : approach.Free _ blockouts _) =>
    free.clear
  have second := (giveWay_skips trailer).mono fun _ (free : approach.Free _ blockouts _) => free.clear
  have third := (leaveBlockout_skips blockouts behindTrailer).mono
    fun _ (free : approach.Free landings _ _) => free.unblocked
  exact (first.trans second).trans third

/-- A round that changes nothing ends at a free time. -/
theorem advance_stays (stayed : approach.advance landings blockouts proposed = .ok proposed) :
    approach.Free landings blockouts proposed := by
  unfold advance at stayed
  obtain ⟨behindLeaders, leaders, stayed⟩ := bind_eq_ok.mp stayed
  obtain ⟨behindTrailer, trailer, chosen⟩ := bind_eq_ok.mp stayed
  have left := pure_eq_ok.mp chosen
  -- No part moves back, so none of them moves at all.
  have up := (clearBehindAll_skips leaders).1
  have further := (giveWay_skips trailer).1
  have out := (leaveBlockout_skips blockouts behindTrailer).1
  rw [left] at out
  obtain rfl : behindLeaders = proposed := le_antisymm (further.trans out) up
  obtain rfl : behindTrailer = behindLeaders := le_antisymm out further
  refine ⟨fun other member => ⟨fun leads spacing needed => ?_, fun trails spacing needed => ?_⟩,
    leaveBlockout_stays left⟩
  · -- The first part ensures the distances behind the leaders.
    exact clearBehind_stays (clearBehindAll_stays leaders member) leads needed
  · -- The second part ensures those ahead of the trailers.
    by_contra close
    have infringed := infringes_iff.mpr ⟨trails, spacing, needed, not_le.mp close⟩
    rw [giveWay_stays trailer member] at infringed
    exact absurd infringed (by decide)

/-- The rounds of a search that ends lead to the first free time. -/
theorem settle_skips {rounds : Nat} {time : Instant}
    (settled : approach.settle landings blockouts rounds proposed = .ok (some time)) :
    Skips (approach.Free landings blockouts) proposed time
      ∧ approach.Free landings blockouts time := by
  -- The invariant of the rounds is that nothing free was passed over so far.
  induction rounds generalizing proposed with
  | zero => simp [settle] at settled
  | succ rounds ih =>
    simp only [settle] at settled
    obtain ⟨next, moved, settled⟩ := bind_eq_ok.mp settled
    -- A round that changes nothing ends the search, and any other one is followed by the next.
    split at settled
    · rename_i stayed
      obtain rfl := Option.some.inj (pure_eq_ok.mp settled)
      exact ⟨.refl _ _, advance_stays (stayed ▸ moved)⟩
    · obtain ⟨skips, free⟩ := ih settled
      exact ⟨(advance_skips moved).trans skips, free⟩

/-- The search starts at the earliest time or at the latest fixed flight on the runway. -/
theorem startingTime_greatest (approach : Approach) (landings : List Landing) (earliest : Instant) :
    (approach.startingTime landings earliest = earliest ∨
      ∃ other ∈ landings, other.positionIsFixed = true ∧ other.runway = approach.runway
        ∧ other.time = approach.startingTime landings earliest)
    ∧ earliest ≤ approach.startingTime landings earliest
    ∧ ∀ other ∈ landings, other.positionIsFixed = true → other.runway = approach.runway →
      other.time ≤ approach.startingTime landings earliest := by
  -- The fold is the maximum of the earliest time and the times of the fixed flights.
  have latest : (earliest :: (landings.filter fun landing =>
      landing.positionIsFixed && landing.runway = approach.runway).map (·.time)).max?
        = some (approach.startingTime landings earliest) := List.max?_cons'
  obtain ⟨attained, bound⟩ := List.max?_eq_some_iff.mp latest
  refine ⟨?_, bound earliest List.mem_cons_self, fun other member fixed same => ?_⟩
  · -- The maximum is attained by the earliest time or by a fixed flight.
    rcases List.mem_cons.mp attained with first | reached
    · exact .inl first
    · obtain ⟨other, kept, attained⟩ := List.mem_map.mp reached
      obtain ⟨member, fixed⟩ := List.mem_filter.mp kept
      simp only [Bool.and_eq_true, decide_eq_true_eq] at fixed
      exact .inr ⟨other, member, fixed.1, fixed.2, attained⟩
  · -- A fixed flight on the runway is among those that the maximum is taken of.
    have kept : other ∈ landings.filter fun landing =>
        landing.positionIsFixed && landing.runway = approach.runway := by
      simp [member, fixed, same]
    exact bound other.time (List.mem_cons_of_mem _ (List.mem_map_of_mem kept))

/-- The search starts at the first time that overtakes no fixed flight. -/
theorem startingTime_skips (approach : Approach) (landings : List Landing) (earliest : Instant) :
    Skips (fun time => ∀ other ∈ landings, other.positionIsFixed = true →
        other.runway = approach.runway → other.time ≤ time) earliest
      (approach.startingTime landings earliest) := by
  obtain ⟨reached, above, _⟩ := approach.startingTime_greatest landings earliest
  refine ⟨above, fun time after before behind => ?_⟩
  rcases reached with first | ⟨other, member, fixed, same, attained⟩
  · exact absurd after (not_le.mpr (first ▸ before))
  · -- The start is the time of a fixed flight, which an earlier landing would overtake.
    exact absurd (behind other member fixed same) (not_le.mpr (attained ▸ before))

/-- The landing time found is the first permitted one from the earliest time on. -/
theorem landingTime_isLeast {time : Instant}
    (found : approach.landingTime landings blockouts earliest = .ok (some time)) :
    IsLeast {time | earliest ≤ time ∧ approach.Permits landings blockouts time} time := by
  obtain ⟨skips, free⟩ := settle_skips found
  -- First nothing fixed is overtaken, and from there on nothing free is passed over.
  have behind := (approach.startingTime_greatest landings earliest).2.2
  have first := (approach.startingTime_skips landings earliest).mono
    fun _ (permits : approach.Permits _ blockouts _) => permits.behindFixed
  have second := skips.mono fun _ (permits : approach.Permits _ _ _) => permits.toFree
  exact (first.trans second).isLeast
    ⟨free, fun other member fixed same => (behind other member fixed same).trans skips.1⟩

end Approach

end ArrivalManager
