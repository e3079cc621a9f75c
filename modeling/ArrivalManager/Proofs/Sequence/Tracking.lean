import ArrivalManager.Sequence
import Mathlib.Data.List.Forall2
import Mathlib.Data.List.Nodup

/-! Lists of flights in which every callsign names one flight. -/

namespace ArrivalManager

variable {flights others : List Flight} {flight other : Flight} {callsign : Callsign}

/-- No two flights of a list have one callsign. -/
def DistinctCallsigns (flights : List Flight) : Prop := (flights.map (·.callsign)).Nodup

instance : Decidable (DistinctCallsigns flights) := inferInstanceAs (Decidable (List.Nodup _))

/-- A flight that is found is listed, under the name that was looked for. -/
theorem findFlight_mem (found : findFlight flights callsign = some flight) :
    flight ∈ flights ∧ flight.callsign = callsign :=
  ⟨List.mem_of_find?_eq_some found, by simpa using List.find?_some found⟩

/-- No flight is found exactly if none is listed under the name. -/
theorem findFlight_eq_none :
    findFlight flights callsign = none ↔ callsign ∉ flights.map (·.callsign) := by
  simp [findFlight]

/-- A listed flight that is the only one of its name is found under it. -/
theorem findFlight_of_unique (member : flight ∈ flights)
    (unique : ∀ other ∈ flights, other.callsign = flight.callsign → other = flight) :
    findFlight flights flight.callsign = some flight := by
  cases found : findFlight flights flight.callsign with
  | none =>
    -- The flight itself would have been found.
    have missing := List.find?_eq_none.mp found flight member
    simp at missing
  | some other =>
    obtain ⟨listed, named⟩ := findFlight_mem found
    rw [unique other listed named]

namespace DistinctCallsigns

/-- Two listed flights of one name are the same flight. -/
theorem same (distinct : DistinctCallsigns flights) (member : flight ∈ flights)
    (others : other ∈ flights) (named : flight.callsign = other.callsign) : flight = other :=
  List.inj_on_of_nodup_map distinct member others named

/-- Each flight of the list is the one that is found under its name. -/
theorem findFlight_of_mem (distinct : DistinctCallsigns flights) (member : flight ∈ flights) :
    findFlight flights flight.callsign = some flight :=
  findFlight_of_unique member fun _ listed named => distinct.same listed member named

/-- Callsigns stay distinct when flights are left out. -/
theorem sublist (distinct : DistinctCallsigns flights) (fewer : others.Sublist flights) :
    DistinctCallsigns others :=
  List.Nodup.sublist (fewer.map _) distinct

/-- Callsigns that are only moved around stay distinct. -/
theorem perm (distinct : DistinctCallsigns flights)
    (moved : (others.map (·.callsign)).Perm (flights.map (·.callsign))) : DistinctCallsigns others :=
  moved.nodup_iff.mpr distinct

end DistinctCallsigns

/-- A flight that is found has a place, where it is erased or replaced by another one of its name. -/
theorem findFlight_split (found : findFlight flights callsign = some flight) :
    ∃ front back, flights = front ++ flight :: back
      ∧ eraseFlight flights callsign = front ++ back
      ∧ ∀ new : Flight, new.callsign = callsign →
        replaceFlight flights new = front ++ new :: back := by
  induction flights with
  | nil => simp [findFlight] at found
  | cons first rest ih =>
    unfold findFlight eraseFlight at *
    by_cases named : first.callsign = callsign
    · -- The first flight of that name is the one that is found, erased and replaced.
      simp only [List.find?_cons, named, decide_true, Option.some.injEq] at found
      refine ⟨[], rest, by rw [found]; rfl, by simp [named], fun new same => ?_⟩
      simp [replaceFlight, named, same]
    · simp only [List.find?_cons, named, decide_false] at found
      -- The flight is further back, so the first one stays where it is.
      obtain ⟨front, back, split, erased, replaced⟩ := ih found
      refine ⟨first :: front, back, by rw [split]; rfl, by simp [named, erased], fun new same => ?_⟩
      simp [replaceFlight, named, same, replaced new same]

/-- A flight that is found can be set apart from the others. -/
theorem cons_eraseFlight_perm (found : findFlight flights callsign = some flight) :
    (flight :: eraseFlight flights callsign).Perm flights := by
  obtain ⟨front, back, split, erased, _⟩ := findFlight_split found
  rw [erased, split]
  exact List.perm_middle.symm

/-- A flight that takes the place of the one of its name leaves all callsigns as they were. -/
theorem replaceFlight_callsigns (flights : List Flight) (flight : Flight) :
    (replaceFlight flights flight).map (·.callsign) = flights.map (·.callsign) := by
  induction flights with
  | nil => rfl
  | cons first rest ih =>
    unfold replaceFlight
    split
    · -- The first flight of the name is replaced, and the rest is left alone.
      rename_i named
      simp [named]
    · simp [ih]

/-- After a replacement there are the new flight and others that were there before. -/
theorem mem_replaceFlight (member : other ∈ replaceFlight flights flight) :
    other = flight ∨ other ∈ flights := by
  induction flights with
  | nil => simp [replaceFlight] at member
  | cons first rest ih =>
    unfold replaceFlight at member
    -- The new flight stands at the head of the list, or further back.
    split at member
    · rcases List.mem_cons.mp member with rfl | member
      · exact .inl rfl
      · exact .inr (List.mem_cons_of_mem _ member)
    · rcases List.mem_cons.mp member with rfl | member
      · exact .inr List.mem_cons_self
      · exact (ih member).imp_right (List.mem_cons_of_mem _)

/-- In lists that correspond, every element of the second one has its counterpart in the first one. -/
theorem exists_of_forall₂ {α β : Type} {related : α → β → Prop} {first : List α} {second : List β}
    {element : β} (correspond : List.Forall₂ related first second) (member : element ∈ second) :
    ∃ counterpart ∈ first, related counterpart element := by
  induction correspond with
  | nil => cases member
  | cons same _ ih =>
    rcases List.mem_cons.mp member with rfl | member
    · exact ⟨_, List.mem_cons_self, same⟩
    · obtain ⟨counterpart, listed, same⟩ := ih member
      exact ⟨counterpart, List.mem_cons_of_mem _ listed, same⟩

/-- In lists that correspond, what corresponding elements have in common is listed alike. -/
theorem map_eq_of_forall₂ {α β γ : Type} {related : α → β → Prop} {first : List α} {second : List β}
    {left : α → γ} {right : β → γ} (correspond : List.Forall₂ related first second)
    (same : ∀ {element element'}, related element element' → right element' = left element) :
    second.map right = first.map left := by
  induction correspond with
  | nil => rfl
  | cons here _ ih => rw [List.map_cons, List.map_cons, same here, ih]

/--
Lists correspond in another sense if their elements do, one after the other.

For each pair of elements, all that comes before them may be assumed to correspond already.
-/
theorem forall₂_of_prefixes {α β : Type} {given related : α → β → Prop} {first : List α}
    {second : List β} (correspond : List.Forall₂ given first second)
    (step : ∀ before element after before' element' after', first = before ++ element :: after →
      second = before' ++ element' :: after' → List.Forall₂ related before before' →
      given element element' → related element element') : List.Forall₂ related first second := by
  -- The induction is on what is left of the lists, behind parts that correspond already.
  suffices extend : ∀ {rest rest'} (_ : List.Forall₂ given rest rest') {before before'},
      List.Forall₂ related before before' → first = before ++ rest → second = before' ++ rest' →
      List.Forall₂ related rest rest' from extend correspond .nil rfl rfl
  intro rest rest' remaining
  induction remaining with
  | nil => intros; exact .nil
  | cons same _ ih =>
    intro before before' settled split split'
    have here := step _ _ _ _ _ _ split split' settled same
    refine .cons here (ih (List.rel_append settled (.cons here .nil)) ?_ ?_)
    · simpa using split
    · simpa using split'

/-- After a replacement, each flight corresponds to itself or is the new one in place of the old one. -/
theorem forall₂_replaceFlight {related : Flight → Flight → Prop} {new : Flight}
    (same : ∀ flight, related flight flight)
    (found : findFlight flights new.callsign = some flight) (replaces : related flight new) :
    List.Forall₂ related flights (replaceFlight flights new) := by
  induction flights with
  | nil => exact .nil
  | cons first rest ih =>
    unfold replaceFlight
    unfold findFlight at found ih
    by_cases named : first.callsign = new.callsign
    · -- The first flight of that name is found, and the first one is replaced.
      rw [if_pos named]
      simp only [List.find?_cons, named, decide_true, Option.some.injEq] at found
      rw [found]
      exact .cons replaces (List.forall₂_same.mpr fun other _ => same other)
    · rw [if_neg named]
      simp only [List.find?_cons, named, decide_false] at found
      exact .cons (same first) (ih found)

/-- Sorting moves flights around. -/
theorem sortFlights_perm (flights : List Flight) : (sortFlights flights).Perm flights :=
  List.mergeSort_perm flights _

/-- Sorting neither adds nor drops a flight. -/
@[simp] theorem mem_sortFlights : flight ∈ sortFlights flights ↔ flight ∈ flights :=
  List.mem_mergeSort

/-- The earliest position for a flight is one of those that it can take. -/
theorem earliestPosition_le (displace : Bool) (flight : Flight) (others : List Flight) :
    earliestPosition displace flight others ≤ others.length := by
  unfold earliestPosition endOfLast
  split
  · exact Nat.zero_le _
  · exact Nat.sub_le _ _

/-- The position of a flight among others is one of those that it can take. -/
theorem positionByEstimate_le (displace : Bool) (flight : Flight) (others : List Flight) :
    positionByEstimate displace flight others ≤ others.length := by
  unfold positionByEstimate
  -- The position is counted from the earliest one, among the flights that follow it.
  have earliest := earliestPosition_le displace flight others
  have further : ((others.drop (earliestPosition displace flight others)).findIdx fun other =>
      flight.landing.estimate ≤ other.landing.estimate)
        ≤ (others.drop (earliestPosition displace flight others)).length := List.findIdx_le_length
  rw [List.length_drop] at further
  dsimp only
  omega

namespace Sequence

variable {before after : Sequence}

/-- What a sequence knows of flights that take part or may be resumed. -/
def known (sequence : Sequence) : List Flight := sequence.flights ++ sequence.desequenced

/-- A sequence with the same modes and the same flights, the tracked ones in any order. -/
structure Rearranges (before after : Sequence) : Prop where
  airport : after.airport = before.airport
  mode : after.mode = before.mode
  modeChange : after.modeChange = before.modeChange
  flights : after.flights.Perm before.flights
  desequenced : after.desequenced = before.desequenced

namespace Rearranges

/-- The known flights are the same ones. -/
theorem known (rearranges : Rearranges before after) : after.known.Perm before.known := by
  unfold Sequence.known
  rw [rearranges.desequenced]
  exact rearranges.flights.append_right _

end Rearranges

end Sequence

end ArrivalManager
