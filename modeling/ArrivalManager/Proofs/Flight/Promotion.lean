import ArrivalManager.Flight.Operation
import ArrivalManager.Proofs.FlightState
import ArrivalManager.Proofs.Time

/-! Promotion brings a flight to the state of the time, however often it was promoted before. -/

namespace ArrivalManager

/-- The state that comes next in the chain, and none at its end or outside of it. -/
def FlightState.next? : FlightState → Option FlightState
  | .unstable => some .stable
  | .stable => some .superStable
  | .superStable => some .frozen
  | .frozen => some .landed
  | _ => none

/-- The next state in the chain lies further on. -/
theorem FlightState.lt_next {state next : FlightState} (leads : state.next? = some next) :
    state.rank < next.rank ∧ next.rank ≤ FlightState.landed.rank := by
  -- The states are ranked in the order of the chain, and landed is its end.
  cases state <;> cases leads <;> decide

namespace Flight

variable {flight middle last : Flight} {now earlier later : Instant} {thresholds : Thresholds}
  {state : FlightState}

/-- The state to which the next promotion of a flight leads, if it is due. -/
def nextState (flight : Flight) (now : Instant) (thresholds : Thresholds) : Option FlightState :=
  if flight.isPromotionDue now thresholds flight.state then flight.state.next? else none

/-- Promotions one after the other, up to the first one that is not due. -/
inductive Cascade (now : Instant) (thresholds : Thresholds) : Flight → Flight → Prop where
  /-- Where nothing is due, the flight stays. -/
  | ends {flight : Flight} (stays : flight.nextState now thresholds = none) :
    Cascade now thresholds flight flight
  /-- After a promotion that was due, the flight is looked at again. -/
  | goesOn {flight last : Flight} {state : FlightState}
    (due : flight.nextState now thresholds = some state)
    (rest : Cascade now thresholds { flight with state } last) : Cascade now thresholds flight last

/-- Whether a promotion is due does not depend on the state that the flight is in. -/
theorem isPromotionDue_state (flight : Flight) (state : FlightState) (now : Instant)
    (thresholds : Thresholds) :
    isPromotionDue { flight with state } now thresholds = flight.isPromotionDue now thresholds := by
  funext promoted
  -- Each condition looks at times only.
  cases promoted <;> rfl

/-- Nothing but a promotion that is due leads on from a state. -/
theorem nextState_eq_some : flight.nextState now thresholds = some state
    ↔ flight.isPromotionDue now thresholds flight.state = true ∧ flight.state.next? = some state := by
  unfold nextState
  split <;> simp_all

/-- A flight stays where it is without a promotion that is due. -/
theorem promote_of_not_due (stays : flight.nextState now thresholds = none) :
    flight.promote now thresholds = flight := by
  have same : promotedState (flight.isPromotionDue now thresholds) flight.state = flight.state := by
    unfold nextState at stays
    -- The first condition on the way from each state fails, if there is one.
    cases placed : flight.state <;> simp_all [promotedState, FlightState.next?]
  unfold promote
  rw [same]

/-- To promote a flight is to make the first promotion that is due, and to promote it from there. -/
theorem promote_of_due (due : flight.nextState now thresholds = some state) :
    flight.promote now thresholds = promote { flight with state } now thresholds := by
  obtain ⟨holds, leads⟩ := nextState_eq_some.mp due
  -- From each state of the chain, the first condition that is looked at is the one that holds.
  have same : promotedState (flight.isPromotionDue now thresholds) flight.state
      = promotedState (flight.isPromotionDue now thresholds) state := by
    cases placed : flight.state <;> rw [placed] at holds leads <;> cases leads
      <;> simp only [promotedState, holds, if_true]
  simp only [promote, isPromotionDue_state, same]

/-- The cascade ends from wherever it begins: every promotion leads further on in a finite chain. -/
theorem exists_cascade (flight : Flight) (now : Instant) (thresholds : Thresholds) :
    ∃ last, Cascade now thresholds flight last := by
  cases found : flight.nextState now thresholds with
  | none => exact ⟨flight, .ends found⟩
  | some state =>
    -- What is left of the chain behind the next state is shorter.
    have further := FlightState.lt_next (nextState_eq_some.mp found).2
    obtain ⟨last, rest⟩ := exists_cascade { flight with state } now thresholds
    exact ⟨last, .goesOn found rest⟩
termination_by FlightState.landed.rank - flight.state.rank
decreasing_by
  show FlightState.landed.rank - state.rank < _
  omega

/-- A cascade ends with the flight in the state that the time has brought it to. -/
theorem Cascade.eq_promote (cascade : Cascade now thresholds flight last) :
    last = flight.promote now thresholds := by
  -- Every promotion on the way leads to a flight that is promoted to the same end.
  induction cascade with
  | ends stays => exact (promote_of_not_due stays).symm
  | goesOn due _ ih => rw [ih, promote_of_due due]

/-- The cascade ends, and it ends where promotion leads. -/
theorem cascade_iff : Cascade now thresholds flight last ↔ last = flight.promote now thresholds := by
  constructor
  · exact Cascade.eq_promote
  · rintro rfl
    obtain ⟨last, cascade⟩ := exists_cascade flight now thresholds
    rwa [← cascade.eq_promote]

/-- A promotion that is due stays due as time goes by. -/
theorem isPromotionDue_mono (ordered : earlier ≤ later)
    (due : flight.isPromotionDue earlier thresholds state = true) :
    flight.isPromotionDue later thresholds state = true := by
  -- What is left until an estimate shrinks, and what has passed since the activation grows.
  have left {time : Instant} {limit : Duration} (near : time.since earlier ≤ limit) :
      time.since later ≤ limit := by
    simp only [Duration.le_iff_nanos, Instant.le_iff_nanos, Instant.since_nanos] at near ordered ⊢
    omega
  have passed {time : Instant} {limit : Duration} (long : limit < earlier.since time) :
      limit < later.since time := by
    simp only [Duration.lt_iff_nanos, Instant.le_iff_nanos, Instant.since_nanos] at long ordered ⊢
    omega
  -- Each of the four conditions compares a time or a span with one that does not change.
  cases state with
  | unstable =>
    simp only [isPromotionDue, Bool.and_eq_true, decide_eq_true_eq, Option.any_eq_true] at due ⊢
    obtain ⟨near, activated, known, long⟩ := due
    exact ⟨left near, activated, known, passed long⟩
  | stable =>
    simp only [isPromotionDue] at due ⊢
    cases known : flight.fix with
    | some fix =>
      simp only [known, decide_eq_true_eq] at due ⊢
      exact due.trans ordered
    | none =>
      simp only [known, decide_eq_true_eq] at due ⊢
      exact left due
  | superStable =>
    simp only [isPromotionDue, decide_eq_true_eq] at due ⊢
    exact left due
  | frozen =>
    simp only [isPromotionDue, decide_eq_true_eq] at due ⊢
    exact due.trans ordered
  | new | landed | desequenced | removed => cases due

/-- A promotion that leads on leads to the same state later. -/
theorem nextState_mono (ordered : earlier ≤ later)
    (due : flight.nextState earlier thresholds = some state) :
    flight.nextState later thresholds = some state := by
  rw [nextState_eq_some] at due ⊢
  exact ⟨isPromotionDue_mono ordered due.1, due.2⟩

/-- A cascade goes on from where an earlier one ended as if that had not been. -/
theorem Cascade.absorbs (ordered : earlier ≤ later) (first : Cascade earlier thresholds flight middle)
    (second : Cascade later thresholds middle last) : Cascade later thresholds flight last := by
  -- The promotions of the earlier cascade are due later as well, one after the other.
  induction first with
  | ends _ => exact second
  | goesOn due _ ih => exact .goesOn (nextState_mono ordered due) (ih second)

/-- An earlier promotion makes no difference to a later one. -/
theorem promote_promote (ordered : earlier ≤ later) :
    (flight.promote earlier thresholds).promote later thresholds = flight.promote later thresholds := by
  have first : Cascade earlier thresholds flight _ := cascade_iff.mpr rfl
  have second : Cascade later thresholds (flight.promote earlier thresholds) _ := cascade_iff.mpr rfl
  exact (first.absorbs ordered second).eq_promote

/-- However often a flight was promoted before, and in whatever order, only the last time counts. -/
theorem promote_foldl {times : List Instant} (before : ∀ time ∈ times, time ≤ now) :
    (times.foldl (fun flight time => flight.promote time thresholds) flight).promote now thresholds
      = flight.promote now thresholds := by
  -- The induction is on the promotions before; the first of them makes no difference to the rest.
  induction times generalizing flight with
  | nil => rfl
  | cons time rest ih =>
    obtain ⟨first, others⟩ := List.forall_mem_cons.mp before
    rw [List.foldl_cons, ih others, promote_promote first]

/--
Promotion does not depend on how often it is made.

It is a cascade, which always ends, and it answers a state exactly if it changed it.
-/
theorem promote_pathIndependent (ordered : earlier ≤ later) :
    (flight.promote earlier thresholds).promote later thresholds = flight.promote later thresholds
      ∧ (∀ now last, Cascade now thresholds flight last ↔ last = flight.promote now thresholds)
      ∧ ∀ now, ∃ changed, flight.answer (.promote now thresholds)
          = .ok (.promoted changed, flight.promote now thresholds)
        ∧ ∀ state, changed = some state
          ↔ (flight.promote now thresholds).state = state ∧ state ≠ flight.state := by
  refine ⟨promote_promote ordered, fun now last => cascade_iff, fun now => ⟨_, rfl, fun state => ?_⟩⟩
  split
  · -- Nothing is answered, as there is no state that is new.
    rename_i same
    simp [same, eq_comm]
  · rename_i moved
    constructor
    · intro answered
      obtain rfl := Option.some.inj answered
      exact ⟨rfl, moved⟩
    · rintro ⟨rfl, _⟩
      rfl

/-- An unstable arrival that is expected an hour after its activation. -/
def sampleHourAway : Flight :=
  { inbound "QFA1" ⟨⟨.medium, true⟩, "B738"⟩ "YSSY" (.sampleSeconds 3600) with
    state := .unstable
    activated := some .epoch }

/-- A first update leads over two states at once, and a second one to the end of the chain. -/
theorem promote_pathIndependent_sampleHourAway :
    let first := sampleHourAway.promote (.sampleSeconds 2100) .standard
    let second := first.promote (.sampleSeconds 3600) .standard
    first.state = .superStable ∧ second.state = .landed
      ∧ second = sampleHourAway.promote (.sampleSeconds 3600) .standard :=
  ⟨rfl, rfl, (promote_pathIndependent (by decide)).1⟩

end Flight

end ArrivalManager
