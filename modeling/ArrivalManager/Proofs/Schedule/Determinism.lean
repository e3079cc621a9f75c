import ArrivalManager.Proofs.Schedule.Spacing
import ArrivalManager.Proofs.Schedule.Uniqueness

/-! What a pass leads to depends neither on the order of its lists nor on what was decided before. -/

namespace ArrivalManager

/-- Lists that correspond still do so when both are sorted by an order that respects it. -/
theorem forall₂_mergeSort {α : Type} {related : α → α → Prop} {le : α → α → Bool}
    {first second : List α}
    (respects : ∀ {one one' other other'}, related one one' → related other other' →
      le one other = le one' other')
    (correspond : List.Forall₂ related first second) :
    List.Forall₂ related (first.mergeSort le) (second.mergeSort le) := by
  obtain ⟨lengths, pairs⟩ := List.forall₂_iff_zip.mp correspond
  -- Sorting the pairs sorts either list, as it makes no difference which one is looked at.
  have left : ((first.zip second).mergeSort fun one other => le one.1 other.1).map (·.1)
      = first.mergeSort le := by
    rw [List.map_mergeSort (s := le) fun _ _ _ _ => rfl, List.map_fst_zip lengths.le]
  have right : ((first.zip second).mergeSort fun one other => le one.1 other.1).map (·.2)
      = second.mergeSort le := by
    rw [List.map_mergeSort fun one member other others => respects (pairs member) (pairs others),
      List.map_snd_zip lengths.ge]
  rw [← left, ← right, List.forall₂_map_left_iff, List.forall₂_map_right_iff, List.forall₂_same]
  exact fun pair member => pairs (List.mem_mergeSort.mp member)

namespace Flight

variable {left right other other' leftAfter rightAfter : Flight}

/-- What was decided about a flight before is no part of its request, unless a controller did. -/
theorem SameRequest.of_decided (flight : Flight) (scheduled : Instant) {fix : Option FeederFix}
    (flow : FlowControl) {assignment : Option RunwayAssignment}
    (sameFix : fix.map (·.identifier) = flight.fixIdentifier)
    (samePin : assignment.any (·.pinned) = flight.runwayPinned)
    (pinned : flight.runwayPinned = true → assignment = flight.assignment) :
    flight.SameRequest
      { flight with landing := { flight.landing with scheduled }, fix, flow, assignment } :=
  ⟨rfl, rfl, rfl, sameFix, rfl, rfl, rfl, rfl, samePin, pinned⟩

/-- Two requests are ordered as two others that are the same. -/
theorem SameRequest.passOrder (first : left.SameRequest right) (second : other.SameRequest other') :
    right.passOrder other' = left.passOrder other := by
  simp only [Flight.passOrder, first.priority, first.estimate, first.callsign, second.priority,
    second.estimate, second.callsign]

/-- One flight with the same landing in two records. -/
structure LandsLike (left right : Flight) : Prop where
  callsign : right.callsign = left.callsign
  aircraft : right.aircraft = left.aircraft
  state : right.state = left.state
  fixIdentifier : right.fixIdentifier = left.fixIdentifier
  scheduled : right.landing.scheduled = left.landing.scheduled
  runway : right.runway = left.runway

namespace LandsLike

/-- A record has the same landing as itself. -/
theorem refl (flight : Flight) : flight.LandsLike flight := ⟨rfl, rfl, rfl, rfl, rfl, rfl⟩

/-- Admitting a flight leaves its landing alone. -/
theorem admitted (alike : left.LandsLike right) :
    (Scheduler.admitted left).LandsLike (Scheduler.admitted right) := by
  unfold Scheduler.admitted
  rw [alike.state]
  -- Either both flights are new and become unstable, or neither is.
  split
  · exact ⟨alike.callsign, alike.aircraft, rfl, alike.fixIdentifier, alike.scheduled, alike.runway⟩
  · exact alike

/-- For those that are scheduled later, the landings are the same one. -/
theorem landingOnRunway (alike : left.LandsLike right) :
    right.landingOnRunway = left.landingOnRunway := by
  simp only [Flight.landingOnRunway, alike.callsign, alike.aircraft, alike.state,
    alike.fixIdentifier, alike.scheduled, alike.runway]

/-- Requests that are the same lead to the same landing if time and runway are the same. -/
theorem of_rescheduled (request : left.SameRequest right) (first : left.Rescheduled leftAfter)
    (second : right.Rescheduled rightAfter)
    (scheduled : rightAfter.landing.scheduled = leftAfter.landing.scheduled)
    (runway : rightAfter.runway = leftAfter.runway) : leftAfter.LandsLike rightAfter where
  callsign := by rw [first.callsign, second.callsign, request.callsign]
  aircraft := by rw [first.aircraft, second.aircraft, request.aircraft]
  state := by rw [first.state, second.state, request.state]
  fixIdentifier := by rw [first.fixIdentifier, second.fixIdentifier, request.fixIdentifier]
  scheduled := scheduled
  runway := runway

end LandsLike

/-- One flight in two records that a pass does not tell apart. -/
inductive Alike : Flight → Flight → Prop where
  | refl (flight : Flight) : Alike flight flight
  /-- A pass decides anew about a flight that it resolves, whatever was decided before. -/
  | anew {left right : Flight} (waits : left.state.isSchedulable = true)
    (resolvable : left.Resolvable) (request : left.SameRequest right) : Alike left right

namespace Alike

variable (alike : left.Alike right)
include alike

/-- Records that are alike make the same request. -/
theorem request : left.SameRequest right := by
  cases alike with
  | refl => exact .refl _
  | anew _ _ request => exact request

/-- A flight that does not wait is the same in both records. -/
theorem eq_of_settled (settled : left.state.isSchedulable = false) : right = left := by
  cases alike with
  | refl => rfl
  | anew waits _ _ => exact absurd (waits.symm.trans settled) (by decide)

/-- A flight for which no landing is looked for is the same in both records. -/
theorem eq_of_chosen (chosen : ¬ left.Resolvable) : right = left := by
  cases alike with
  | refl => rfl
  | anew _ resolvable _ => exact absurd resolvable chosen

end Alike

end Flight

/-- Sequences that a pass does not tell apart, with flights and slots in any order. -/
structure Sequence.Alike (left right : Sequence) : Prop extends left.SameSetting right where
  flights : ∃ arranged : List Flight, arranged.Perm right.flights
    ∧ List.Forall₂ Flight.Alike left.flights arranged

/-- Sequences that are alike have the same callsigns. -/
theorem Sequence.Alike.callsigns {left right : Sequence} (alike : left.Alike right) :
    (right.flights.map (·.callsign)).Perm (left.flights.map (·.callsign)) := by
  obtain ⟨arranged, moved, correspond⟩ := alike.flights
  rw [← map_eq_of_forall₂ correspond fun same => same.request.callsign]
  exact moved.symm.map _

namespace Scheduler

variable {scheduler : Scheduler} {left right : Sequence} {flight other : Flight}
  {flights others : List Flight} {leftLandings rightLandings : List Landing}
  {handled handled' : Handled} {turns turns' : List Turn} {first second : Outcome Sequence Unit}

/-- Flights of different names wait in the one order in which those that wait are sorted. -/
theorem waiting_eq_of_sorted (distinct : DistinctCallsigns flights)
    (queued : others.Perm (flights.filter (·.state.isSchedulable)))
    (sorted : others.Pairwise fun left right => (left.passOrder right).isLE = true) :
    waiting flights = others := by
  have listed {flight : Flight} (member : flight ∈ others) : flight ∈ flights :=
    (List.mem_filter.mp (queued.mem_iff.mp member)).1
  refine List.Perm.eq_of_pairwise ?_ (waiting_sorted flights) sorted
    ((List.mergeSort_perm _ _).trans queued.symm)
  intro one other member waits notLater notEarlier
  -- Flights that wait at one place have one name, so they are one flight.
  have level := Std.OrientedCmp.isLE_antisymm notLater notEarlier
  have named : one.callsign = other.callsign :=
    Std.LawfulEqCmp.eq_of_compare (Ordering.then_eq_eq.mp (Ordering.then_eq_eq.mp level).2).2
  exact distinct.same (mem_waiting.mp member).1 (listed waits) named

/-- Flights of different names wait in one order, however they are listed. -/
theorem waiting_perm (distinct : DistinctCallsigns flights) (moved : others.Perm flights) :
    waiting others = waiting flights :=
  (waiting_eq_of_sorted distinct ((List.mergeSort_perm _ _).trans (moved.filter _))
    (waiting_sorted others)).symm

/-- Flights that are alike wait in the same order. -/
theorem waiting_alike (alike : List.Forall₂ Flight.Alike flights others) :
    List.Forall₂ Flight.Alike (waiting flights) (waiting others) := by
  refine forall₂_mergeSort (fun first second => ?_) (List.rel_filter (fun one other same => ?_) alike)
  · rw [first.request.passOrder second.request]
  · simp only [same.request.state]

/-- Flights that are alike keep the same landings. -/
theorem anchors_alike (alike : List.Forall₂ Flight.Alike flights others) :
    anchors others = anchors flights := by
  unfold anchors
  induction alike with
  | nil => rfl
  | cons same _ ih =>
    simp only [List.filter_cons, same.request.state]
    split
    · -- A flight that keeps its landing is the same in both lists.
      rename_i anchored
      rw [same.eq_of_settled (FlightState.isSchedulable_of_anchored anchored)]
      simp only [List.filterMap_cons, ih]
    · exact ih

/-- Flights that are alike land alike if their turns succeed. -/
theorem Handling.landsLike (first : scheduler.Handling left leftLandings flight handled)
    (second : scheduler.Handling right rightLandings other handled')
    (setting : left.SameSetting right) (alike : flight.Alike other)
    (settled : ∀ landing, landing ∈ rightLandings ↔ landing ∈ leftLandings)
    (succeeds : handled.failure = none) (succeeds' : handled'.failure = none) :
    handled.flight.LandsLike handled'.flight := by
  have request := alike.request
  have lands := Flight.LandsLike.of_rescheduled request first.rescheduled second.rescheduled
  by_cases resolvable : flight.Resolvable
  · -- Both turns commit the landing that resolves either of the flights.
    obtain ⟨time, runway, scheduled, resolves, committed, result⟩ := first.commits resolvable succeeds
    obtain ⟨time', runway', scheduled', resolves', committed', result'⟩ :=
      second.commits (request.resolvable.mpr resolvable) succeeds'
    obtain ⟨rfl, rfl⟩ :=
      (resolves.congr setting request.demand settled request.estimate).unique resolves'
    obtain ⟨shape, _⟩ := Flight.schedule_eq_ok committed
    obtain ⟨shape', _⟩ := Flight.schedule_eq_ok committed'
    refine lands ?_ ?_
    · rw [result, result', shape, shape']
    · rw [result, result', shape, shape']
      rfl
  · -- What a controller decided about the flight is the same in both records.
    obtain rfl := alike.eq_of_chosen resolvable
    suffices same : handled'.flight = handled.flight from
      lands (by rw [same]) (by rw [same])
    cases noDelay : other.noDelay with
    | true =>
      -- The runway at the estimate is the same, as the mode in effect then is.
      have same : scheduleWithoutDelay right other = scheduleWithoutDelay left other := by
        simp only [scheduleWithoutDelay, runwayAtEstimate, setting.modeAt]
      exact Except.ok.inj
        ((second.of_noDelay noDelay).symm.trans (same.trans (first.of_noDelay noDelay)))
    | false =>
      have chosen : other.manualLandingTime = true := by
        simpa [Flight.Resolvable, noDelay] using resolvable
      rw [first.of_manual noDelay chosen, second.of_manual noDelay chosen]

/-- The same landings are settled at two turns if they were at first, and all turns before led to them. -/
theorem Pass.mem_landings_iff {turn turn' : Turn} {before before' after after' : List Turn}
    (one : scheduler.Pass left first turns) (two : scheduler.Pass right second turns')
    (anchored : ∀ landing, landing ∈ anchors right.flights ↔ landing ∈ anchors left.flights)
    (split : turns = before ++ turn :: after) (split' : turns' = before' ++ turn' :: after')
    (settled : List.Forall₂ (fun turn turn' => turn'.handled.flight.landingOnRunway
      = turn.handled.flight.landingOnRunway) before before') (landing : Landing) :
    landing ∈ turn'.landings ↔ landing ∈ turn.landings := by
  have earlier : before'.filterMap (·.handled.flight.landingOnRunway)
      = before.filterMap (·.handled.flight.landingOnRunway) := by
    have landings := map_eq_of_forall₂ settled fun same => same
    simpa [List.filterMap_map] using congrArg (List.filterMap id) landings
  rw [one.settled before turn after split, two.settled before' turn' after' split', earlier,
    List.mem_append, List.mem_append, anchored]

/-- In the passes of two sequences that are alike, the turns lead to the same landings. -/
theorem Pass.landsLike (one : scheduler.Pass left first turns)
    (two : scheduler.Pass right second turns') (alike : left.Alike right)
    (distinct : DistinctCallsigns left.flights) (answered : first.answer = .ok ())
    (answered' : second.answer = .ok ()) :
    List.Forall₂ (fun turn turn' => turn.flight.Alike turn'.flight
      ∧ turn.handled.flight.LandsLike turn'.handled.flight) turns turns' := by
  obtain ⟨arranged, moved, correspond⟩ := alike.flights
  have waits : List.Forall₂ (fun turn turn' : Turn => turn.flight.Alike turn'.flight) turns turns' := by
    have waits := waiting_alike correspond
    rw [waiting_perm (distinct.perm alike.callsigns) moved, ← one.flights, ← two.flights] at waits
    simpa using waits
  have anchored : (anchors right.flights).Perm (anchors left.flights) := by
    rw [← anchors_alike correspond]
    exact (moved.symm.filter _).filterMap _
  -- Turn by turn, the same landings are settled, as all turns before lead to the same ones.
  refine forall₂_of_prefixes waits
    fun before turn after before' turn' after' split split' settled same => ⟨same, ?_⟩
  have landings := one.mem_landings_iff two (fun _ => anchored.mem_iff) split split'
    (settled.imp fun _ _ lands => lands.2.landingOnRunway)
  have member : turn ∈ turns := split ▸ List.mem_append_right _ List.mem_cons_self
  have member' : turn' ∈ turns' := split' ▸ List.mem_append_right _ List.mem_cons_self
  exact (one.handling turn member).landsLike (two.handling turn' member') alike.toSameSetting same
    landings (one.answer_eq_ok.mp answered turn member) (two.answer_eq_ok.mp answered' turn' member')

/--
Passes of sequences that are alike, if neither is refused, lead to the same landing of every flight.

Neither the order of flights and slots matters, nor what was decided before about a flight that is
resolved: its landing time, its times at the fix, its speed, and its runway unless that is pinned.
-/
theorem schedule_determined (alike : left.Alike right) (distinct : DistinctCallsigns left.flights)
    (passed : scheduler.schedule left = .ok first) (answered : first.answer = .ok ())
    (passed' : scheduler.schedule right = .ok second) (answered' : second.answer = .ok ())
    (callsign : Callsign) :
    Option.Rel Flight.LandsLike (first.after.flight? callsign) (second.after.flight? callsign) := by
  obtain ⟨turns, one⟩ := exists_pass passed
  obtain ⟨turns', two⟩ := exists_pass passed'
  have distinct' := distinct.perm alike.callsigns
  by_cases tracked : callsign ∈ right.flights.map (·.callsign)
  · obtain ⟨flight, present, rfl⟩ := List.mem_map.mp tracked
    cases waits : flight.state.isSchedulable with
    | true =>
      -- A flight that waits has a turn in either pass, and they lead to the same landing.
      obtain ⟨turn', member', rfl⟩ := two.exists_turn present waits
      obtain ⟨turn, member, same, lands⟩ :=
        exists_of_forall₂ (one.landsLike two alike distinct answered answered') member'
      rw [two.flight?_result distinct' member', same.request.callsign,
        one.flight?_result distinct member]
      exact .some lands.admitted
    | false =>
      -- Any other flight is the same one in both sequences, and both passes leave it alone.
      obtain ⟨arranged, moved, correspond⟩ := alike.flights
      obtain ⟨former, listed, same⟩ := exists_of_forall₂ correspond (moved.mem_iff.mpr present)
      obtain rfl := same.eq_of_settled (by rw [← same.request.state, waits])
      rw [one.flight?_settled distinct listed waits, two.flight?_settled distinct' present waits]
      exact .some (.refl _)
  · rw [two.flight?_eq_none.mpr tracked,
      one.flight?_eq_none.mpr (mt alike.callsigns.mem_iff.mpr tracked)]
    exact .none

end Scheduler

/-- The flight that waits at a pair, as another pass left it. -/
def Flight.sampleDelayed : Flight :=
  { Flight.sampleArrival with
    landing := { Flight.sampleArrival.landing with
      scheduled := ⟨600000000000, by decide, by decide⟩ }
    assignment := some ⟨"34R", false⟩
    flow := .reduceSpeed }

/-- A slot that keeps the only runway of a pair clear from two to four minutes. -/
def Slot.sampleEarly : Slot :=
  ⟨⟨1⟩, ⟨⟨120000000000, by decide, by decide⟩, ⟨240000000000, by decide, by decide⟩, by decide⟩,
    ["34L"]⟩

/-- A slot that keeps the only runway of a pair clear from three to five minutes. -/
def Slot.sampleLate : Slot :=
  ⟨⟨2⟩, ⟨⟨180000000000, by decide, by decide⟩, ⟨300000000000, by decide, by decide⟩, by decide⟩,
    ["34L"]⟩

/-- A pair that is scheduled for the first time, and the same pair after another pass. -/
def Sequence.sampleAlike : Sequence × Sequence :=
  ({ Sequence.samplePair with slots := [.sampleEarly, .sampleLate] },
    { Sequence.samplePair with
      slots := [.sampleLate, .sampleEarly]
      flights := [.sampleDelayed, .sampleAnchor] })

/-- The flight that waits lands alike, wherever it and the slots are listed and wherever it landed. -/
theorem Scheduler.schedule_determined_sampleAlike :
    ∃ first second, Scheduler.sample.schedule Sequence.sampleAlike.1 = .ok first
      ∧ Scheduler.sample.schedule Sequence.sampleAlike.2 = .ok second
      ∧ Option.Rel Flight.LandsLike (first.after.flight? "VOZ2") (second.after.flight? "VOZ2") := by
  obtain ⟨first, passed, answered⟩ : Scheduler.sample.Succeeds Sequence.sampleAlike.1 := by
    decide +kernel
  obtain ⟨second, passed', answered'⟩ : Scheduler.sample.Succeeds Sequence.sampleAlike.2 := by
    decide +kernel
  have request : Flight.sampleArrival.SameRequest .sampleDelayed :=
    .of_decided .sampleArrival _ .reduceSpeed rfl rfl (by decide)
  have alike : Sequence.sampleAlike.1.Alike Sequence.sampleAlike.2 :=
    ⟨⟨rfl, rfl, rfl, .swap _ _ _⟩, [.sampleAnchor, .sampleDelayed], .swap _ _ _,
      .cons (.refl _) (.cons (.anew rfl ⟨rfl, rfl⟩ request) .nil)⟩
  exact ⟨first, second, passed, passed',
    schedule_determined alike (by decide) passed answered passed' answered' "VOZ2"⟩

end ArrivalManager
