import ArrivalManager.Proofs.Time
import ArrivalManager.Separation

/-! What the spacing of two landings is at least, and how it relates to that of the reversed pair. -/

namespace ArrivalManager

variable {rule : SeparationRule} {mode : RunwayMode} {leader trailer : Aircraft}
  {leaderRunway trailerRunway : String} {spacing : Duration}

/-- With a runway outside the mode, the mode's own spacing is all that is asked for. -/
theorem requiredSeparation_off_mode
    (outside : mode.runway leaderRunway = none ∨ mode.runway trailerRunway = none) :
    requiredSeparation rule mode leader leaderRunway trailer trailerRunway
      = some mode.offModeSeparation := by
  unfold requiredSeparation
  -- Either of the two missing runways decides, whatever the other one is.
  rcases outside with missing | missing
  · simp [missing]
  · cases mode.runway leaderRunway <;> simp [missing]

/-- On one runway of the mode, landings are spaced by its rate, by the rule, and by the least spacing. -/
theorem requiredSeparation_same (rule : SeparationRule) (leader trailer : Aircraft)
    {runway : Runway} (used : mode.runway leaderRunway = some runway) :
    ∃ spacing, requiredSeparation rule mode leader leaderRunway trailer leaderRunway = some spacing
      ∧ runway.landingRate ≤ spacing ∧ leastSeparation ≤ spacing
      ∧ ∀ needed, rule leader trailer mode = some needed → needed ≤ spacing := by
  -- Whether the rule applies to the pair or not, the maximum is at least each of its parts.
  simp only [requiredSeparation, used, if_true, Option.some.injEq, exists_eq_left']
  cases rule leader trailer mode with
  | none => simp
  | some needed => simp

/-- On two runways of the mode, landings are spaced only where one of them depends on the other. -/
theorem requiredSeparation_cross {ahead behind : Runway} (differ : leaderRunway ≠ trailerRunway)
    (leads : mode.runway leaderRunway = some ahead) (trails : mode.runway trailerRunway = some behind) :
    requiredSeparation rule mode leader leaderRunway trailer trailerRunway
      = ((behind.dependencyOn leaderRunway).or (ahead.dependencyOn trailerRunway)).map
          fun dependency => max dependency.separation leastSeparation := by
  simp [requiredSeparation, leads, trails, differ]

/--
A pair of landings that needs a spacing needs one in the other order too.

It is the same one, or both are no less than the least spacing.
-/
theorem requiredSeparation_swap
    (needed : requiredSeparation rule mode leader leaderRunway trailer trailerRunway = some spacing) :
    ∃ reverse, requiredSeparation rule mode trailer trailerRunway leader leaderRunway = some reverse
      ∧ (reverse = spacing ∨ leastSeparation ≤ spacing ∧ leastSeparation ≤ reverse) := by
  -- The cases are those of the definition: which of the two runways the mode uses.
  cases leads : mode.runway leaderRunway with
  | none =>
    -- Off the mode, the spacing is the same in both orders.
    rw [requiredSeparation_off_mode (.inl leads)] at needed
    exact ⟨spacing, by rw [requiredSeparation_off_mode (.inr leads), ← needed], .inl rfl⟩
  | some ahead =>
    cases trails : mode.runway trailerRunway with
    | none =>
      rw [requiredSeparation_off_mode (.inr trails)] at needed
      exact ⟨spacing, by rw [requiredSeparation_off_mode (.inl trails), ← needed], .inl rfl⟩
    | some behind =>
      by_cases same : leaderRunway = trailerRunway
      · -- On one runway both orders have a spacing, though the rule may give different ones.
        subst same
        obtain ⟨forth, found, _, least, _⟩ := requiredSeparation_same rule leader trailer leads
        obtain ⟨back, reversed, _, leastBack, _⟩ := requiredSeparation_same rule trailer leader leads
        obtain rfl : forth = spacing := Option.some.inj (found.symm.trans needed)
        exact ⟨back, reversed, .inr ⟨least, leastBack⟩⟩
      · rw [requiredSeparation_cross same leads trails] at needed
        rw [requiredSeparation_cross (Ne.symm same) trails leads]
        -- A dependency found in one order is a candidate in the other, if not the first one.
        cases first : behind.dependencyOn leaderRunway <;>
          cases second : ahead.dependencyOn trailerRunway <;>
          simp_all only [Option.or_none, Option.none_or, Option.some_or, Option.map_none,
            Option.map_some, Option.some.injEq, reduceCtorEq]
        all_goals
          subst needed
          exact ⟨_, rfl, .inr ⟨le_max_right _ _, le_max_right _ _⟩⟩

/-- On runways of the mode, every spacing that is needed is at least the least one. -/
theorem requiredSeparation_inside (leads : mode.contains leaderRunway = true)
    (trails : mode.contains trailerRunway = true)
    (needed : requiredSeparation rule mode leader leaderRunway trailer trailerRunway
      = some spacing) : leastSeparation ≤ spacing := by
  obtain ⟨ahead, leads⟩ := Option.isSome_iff_exists.mp leads
  obtain ⟨behind, trails⟩ := Option.isSome_iff_exists.mp trails
  by_cases same : leaderRunway = trailerRunway
  · -- On one runway the rate and the rule may be shorter, but they are not taken as they are.
    subst same
    obtain ⟨found, given, _, least, _⟩ := requiredSeparation_same rule leader trailer leads
    obtain rfl : found = spacing := Option.some.inj (given.symm.trans needed)
    exact least
  · -- On two runways, neither is the stagger.
    rw [requiredSeparation_cross same leads trails] at needed
    obtain ⟨dependency, _, rfl⟩ := Option.map_eq_some_iff.mp needed
    exact le_max_right _ _

/-- What the spacing of two landings has in common with that of the same landings the other way round. -/
structure Mutual (rule : SeparationRule) (mode : RunwayMode) (leader : Aircraft)
    (leaderRunway : String) (trailer : Aircraft) (trailerRunway : String) : Prop where
  /-- The two landings are independent in both orders or in neither. -/
  independent : requiredSeparation rule mode leader leaderRunway trailer trailerRunway = none
    ↔ requiredSeparation rule mode trailer trailerRunway leader leaderRunway = none
  /-- On runways of the mode, a spacing that is needed is no shorter than the least one. -/
  least {spacing : Duration} (leads : mode.contains leaderRunway = true)
    (trails : mode.contains trailerRunway = true)
    (needed : requiredSeparation rule mode leader leaderRunway trailer trailerRunway = some spacing) :
    leastSeparation ≤ spacing
  /-- On one runway of the mode a spacing is needed, no shorter than the landing rate and the rule. -/
  common {runway : Runway} (same : leaderRunway = trailerRunway)
    (used : mode.runway leaderRunway = some runway) :
    ∃ spacing, requiredSeparation rule mode leader leaderRunway trailer trailerRunway = some spacing
      ∧ runway.landingRate ≤ spacing ∧ ∀ asked, rule leader trailer mode = some asked → asked ≤ spacing

/-- Landings that are independent in one order are so in the other. -/
theorem requiredSeparation_eq_none_of_swap
    (free : requiredSeparation rule mode leader leaderRunway trailer trailerRunway = none) :
    requiredSeparation rule mode trailer trailerRunway leader leaderRunway = none := by
  by_contra bound
  obtain ⟨spacing, needed⟩ := Option.ne_none_iff_exists'.mp bound
  -- A spacing in this order comes with one in the order that needs none.
  obtain ⟨reverse, reversed, _⟩ := requiredSeparation_swap needed
  simp [free] at reversed

/-- Every pair of landings needs its spacings in both orders, whatever the rule and the mode are. -/
theorem requiredSeparation_mutual :
    Mutual rule mode leader leaderRunway trailer trailerRunway := by
  constructor
  case independent => exact ⟨requiredSeparation_eq_none_of_swap, requiredSeparation_eq_none_of_swap⟩
  case least => exact fun leads trails needed => requiredSeparation_inside leads trails needed
  case common =>
    intro runway same used
    subst same
    obtain ⟨spacing, needed, rate, _, ruled⟩ := requiredSeparation_same rule leader trailer used
    exact ⟨spacing, needed, rate, ruled⟩

/-- The least spacing is longer than nothing. -/
theorem leastSeparation_pos : Duration.zero < leastSeparation := by decide

end ArrivalManager
