import ArrivalManager.Proofs.Flight
import ArrivalManager.Proofs.Schedule.Resolution

/-! A scheduling pass, taken apart into the turns of its flights. -/

namespace ArrivalManager

/-- A flight's turn in a pass: the flight before it, the landings settled by then, and its outcome. -/
structure Turn where
  flight : Flight
  landings : List Landing
  handled : Handled

/-- The flight as the pass leaves it. -/
def Turn.result (turn : Turn) : Flight := Scheduler.admitted turn.handled.flight

/-- A flight for which a pass looks for a landing time: it may be delayed, and no controller chose. -/
def Flight.Resolvable (flight : Flight) : Prop :=
  flight.noDelay = false ∧ flight.manualLandingTime = false

instance : Std.TransCmp Flight.passOrder :=
  inferInstanceAs (Std.TransCmp (compareLex (compareOn fun flight : Flight => flight.priority.rank)
    (compareLex (compareOn fun flight : Flight => flight.landing.estimate)
      (compareOn fun flight : Flight => flight.callsign))))

/-- Of two flights, one goes no later than the other one in a pass. -/
theorem Flight.passOrder_total (left right : Flight) :
    ((left.passOrder right).isLE || (right.passOrder left).isLE) = true := isLE_total left right

namespace Scheduler

/-- The turns of flights one after the other, each with the landings that are settled before it. -/
def turnsFrom (scheduler : Scheduler) (sequence : Sequence) :
    List Landing → List Flight → Except Overflow (List Turn)
  | _, [] => .ok []
  | landings, flight :: rest => do
    let handled ← scheduler.handle sequence landings flight
    let others ← scheduler.turnsFrom sequence
      (landings ++ handled.flight.landingOnRunway.toList) rest
    return ⟨flight, landings, handled⟩ :: others

variable {scheduler : Scheduler} {sequence : Sequence} {flight : Flight}
  {flights : List Flight} {landings : List Landing} {handled : Handled} {turns before after : List Turn}
  {turn : Turn}

/-- The turns lead to the same outcomes as the pass. -/
theorem handleAll_eq_turnsFrom (landings : List Landing) (flights : List Flight) :
    scheduler.handleAll sequence landings flights
      = (scheduler.turnsFrom sequence landings flights).map (·.map (·.handled)) := by
  induction flights generalizing landings with
  | nil => rfl
  | cons flight rest ih =>
    -- A turn that overflows ends both, and any other one hands its landing on.
    simp only [handleAll, turnsFrom]
    cases scheduler.handle sequence landings flight with
    | error overflow => rfl
    | ok handled =>
      simp only [Bind.bind, Except.bind, ih]
      cases scheduler.turnsFrom sequence (landings ++ handled.flight.landingOnRunway.toList) rest <;>
        rfl

/-- Every flight that waits has its turn, in the order of the waiting. -/
theorem turnsFrom_flights (done : scheduler.turnsFrom sequence landings flights = .ok turns) :
    turns.map (·.flight) = flights := by
  induction flights generalizing landings turns with
  | nil =>
    cases done
    rfl
  | cons flight rest ih =>
    simp only [turnsFrom] at done
    obtain ⟨handled, _, done⟩ := bind_eq_ok.mp done
    obtain ⟨others, tail, done⟩ := bind_eq_ok.mp done
    cases pure_eq_ok.mp done
    simp [ih tail]

/-- At a turn the landings settled are the first ones and those of the turns before it. -/
theorem turnsFrom_split (done : scheduler.turnsFrom sequence landings flights = .ok turns)
    (split : turns = before ++ turn :: after) :
    turn.landings = landings ++ before.filterMap (·.handled.flight.landingOnRunway)
      ∧ scheduler.handle sequence turn.landings turn.flight = .ok turn.handled := by
  induction flights generalizing landings turns before with
  | nil =>
    cases done
    simp at split
  | cons flight rest ih =>
    simp only [turnsFrom] at done
    obtain ⟨handled, first, done⟩ := bind_eq_ok.mp done
    obtain ⟨others, tail, done⟩ := bind_eq_ok.mp done
    cases pure_eq_ok.mp done
    cases before with
    | nil =>
      -- The first turn sees the landings that were settled at the start.
      simp only [List.nil_append, List.cons.injEq] at split
      obtain ⟨rfl, rfl⟩ := split
      exact ⟨by simp, first⟩
    | cons earlier rest =>
      -- For a later turn, the first one has added its landing to them.
      simp only [List.cons_append, List.cons.injEq] at split
      obtain ⟨rfl, rfl⟩ := split
      obtain ⟨settled, taken⟩ := ih tail rfl
      refine ⟨?_, taken⟩
      rw [settled]
      -- It has added one if the flight has a runway, and none otherwise.
      cases found : handled.flight.landingOnRunway <;> simp [found]

/-- The turns of the first flights are what they are without those that follow. -/
theorem turnsFrom_append {early late : List Flight}
    (done : scheduler.turnsFrom sequence landings (early ++ late) = .ok turns) :
    ∃ before after, scheduler.turnsFrom sequence landings early = .ok before
      ∧ turns = before ++ after := by
  induction early generalizing landings turns with
  | nil => exact ⟨[], turns, rfl, rfl⟩
  | cons flight rest ih =>
    simp only [List.cons_append, turnsFrom] at done
    obtain ⟨handled, first, done⟩ := bind_eq_ok.mp done
    obtain ⟨others, tail, done⟩ := bind_eq_ok.mp done
    cases pure_eq_ok.mp done
    -- The first turn is taken in either case, and the induction is on those after it.
    obtain ⟨before, after, taken, rfl⟩ := ih tail
    exact ⟨⟨flight, landings, handled⟩ :: before, after,
      bind_eq_ok.mpr ⟨handled, first, bind_eq_ok.mpr ⟨before, taken, rfl⟩⟩, rfl⟩

/-- The turns of the flights in front of another one end where its turn begins. -/
theorem turnsFrom_middle {early late : List Flight}
    (done : scheduler.turnsFrom sequence landings (early ++ flight :: late) = .ok turns) :
    ∃ before turn after, scheduler.turnsFrom sequence landings early = .ok before
      ∧ turns = before ++ turn :: after ∧ turn.flight = flight := by
  obtain ⟨before, rest, taken, rfl⟩ := turnsFrom_append done
  have flights := turnsFrom_flights done
  rw [List.map_append, turnsFrom_flights taken] at flights
  obtain ⟨turn, after, rfl, named, _⟩ := List.map_eq_cons_iff.mp (List.append_cancel_left flights)
  exact ⟨before, turn, after, taken, rfl, named⟩

/-- What the turn of a flight in a pass comes to. -/
inductive Handling (scheduler : Scheduler) (sequence : Sequence) (landings : List Landing)
    (flight : Flight) : Handled → Prop where
  /-- A flight that must not be delayed, with no runway to land on, stays as it is. -/
  | withoutRunway (noDelay : flight.noDelay = true)
    (missing : runwayAtEstimate sequence flight = none) :
    Handling scheduler sequence landings flight ⟨flight, none⟩
  /-- A flight that must not be delayed lands at its estimate. -/
  | atEstimate {runway : String} {scheduled : Flight} (noDelay : flight.noDelay = true)
    (found : runwayAtEstimate sequence flight = some runway)
    (committed : flight.schedule flight.landing.estimate runway = .ok scheduled) :
    Handling scheduler sequence landings flight ⟨{ scheduled with flow := .profileSpeed }, none⟩
  /-- A flight whose landing time a controller chose stays as it is. -/
  | manual (mayWait : flight.noDelay = false) (chosen : flight.manualLandingTime = true) :
    Handling scheduler sequence landings flight ⟨flight, none⟩
  /-- A flight for which no landing is found stays as it is. -/
  | refused {refusal : Refusal} (resolvable : flight.Resolvable)
    (refused : scheduler.resolve sequence flight landings = .error (.refused refusal)) :
    Handling scheduler sequence landings flight ⟨flight, some refusal⟩
  /-- Any other flight is committed to the landing that was found. -/
  | resolved {time : Instant} {runway : String} {scheduled : Flight} (resolvable : flight.Resolvable)
    (resolved : scheduler.resolve sequence flight landings = .ok (time, runway))
    (committed : flight.schedule time runway = .ok scheduled) :
    Handling scheduler sequence landings flight
      ⟨{ scheduled with flow := flowFor flight time }, none⟩

/-- Every turn that comes to an end is of one of these kinds. -/
theorem handling_of_handle (done : scheduler.handle sequence landings flight = .ok handled) :
    scheduler.Handling sequence landings flight handled := by
  -- Both priorities of flights that may be delayed are handled alike.
  have delayed (resolvable : flight.Resolvable)
      (done : scheduler.scheduleWithDelay sequence flight landings = .ok handled) :
      scheduler.Handling sequence landings flight handled := by
    unfold scheduleWithDelay at done
    -- The search overflows, is refused, or ends with a landing to commit.
    split at done
    · cases done
    · rename_i refused
      cases done
      exact .refused resolvable refused
    · rename_i resolved
      obtain ⟨scheduled, committed, done⟩ := bind_eq_ok.mp done
      cases pure_eq_ok.mp done
      exact .resolved resolvable resolved committed
  unfold handle Flight.priority at done
  cases noDelay : flight.noDelay with
  | true =>
    -- A flight that must not be delayed only needs a runway at its estimate.
    rw [if_pos noDelay] at done
    obtain ⟨kept, scheduled, done⟩ := bind_eq_ok.mp done
    cases pure_eq_ok.mp done
    unfold scheduleWithoutDelay at scheduled
    split at scheduled
    · rename_i missing
      cases scheduled
      exact .withoutRunway noDelay missing
    · rename_i found
      obtain ⟨placed, committed, scheduled⟩ := bind_eq_ok.mp scheduled
      cases pure_eq_ok.mp scheduled
      exact .atEstimate noDelay found committed
  | false =>
    rw [if_neg (by simp [noDelay])] at done
    cases chosen : flight.manualLandingTime with
    | true =>
      -- A landing time that a controller chose is left alone.
      rw [if_pos chosen] at done
      cases done
      exact .manual noDelay chosen
    | false =>
      rw [if_neg (by simp [chosen])] at done
      cases high : flight.highPriority <;> simp only [high, if_true, Bool.false_eq_true, if_false] at done
      all_goals exact delayed ⟨noDelay, chosen⟩ done

namespace Handling

/-- A turn reschedules its flight. -/
theorem rescheduled (handling : scheduler.Handling sequence landings flight handled) :
    flight.Rescheduled handled.flight := by
  cases handling with
  | withoutRunway _ _ | manual _ _ | refused _ _ => exact .refl flight
  | atEstimate _ _ committed => exact .of_schedule committed _
  | resolved _ _ committed => exact .of_schedule committed _

/-- A turn leaves no flight without a runway that had one. -/
theorem assigned (handling : scheduler.Handling sequence landings flight handled)
    (lands : flight.runway.isSome = true) : handled.flight.runway.isSome = true := by
  cases handling with
  | withoutRunway _ _ | manual _ _ | refused _ _ => exact lands
  | atEstimate _ _ committed | resolved _ _ committed =>
    -- What is committed is a landing on a runway.
    rw [(Flight.schedule_eq_ok committed).1]
    rfl

/-- The turn of a resolvable flight that does not fail commits the landing that was found for it. -/
theorem resolve_eq_ok (handling : scheduler.Handling sequence landings flight handled)
    (resolvable : flight.Resolvable) (succeeds : handled.failure = none) :
    ∃ time runway scheduled, scheduler.resolve sequence flight landings = .ok (time, runway)
      ∧ flight.schedule time runway = .ok scheduled
      ∧ handled.flight = { scheduled with flow := flowFor flight time } := by
  -- Of the five kinds only the last is both resolvable and without a failure.
  cases handling with
  | withoutRunway noDelay _ => simp [resolvable.1] at noDelay
  | atEstimate noDelay _ _ => simp [resolvable.1] at noDelay
  | manual _ chosen => simp [resolvable.2] at chosen
  | refused _ _ => cases succeeds
  | resolved _ resolved committed => exact ⟨_, _, _, resolved, committed, rfl⟩

/-- The turn of a resolvable flight that does not fail commits the best landing for it. -/
theorem commits (handling : scheduler.Handling sequence landings flight handled)
    (resolvable : flight.Resolvable) (succeeds : handled.failure = none) :
    ∃ time runway scheduled, scheduler.Resolves sequence flight landings time runway
      ∧ flight.schedule time runway = .ok scheduled
      ∧ handled.flight = { scheduled with flow := flowFor flight time } := by
  obtain ⟨time, runway, scheduled, resolved, committed, kept⟩ :=
    handling.resolve_eq_ok resolvable succeeds
  exact ⟨time, runway, scheduled, resolve_resolves resolved, committed, kept⟩

/-- A flight whose landing time a controller chose, and that may be delayed, is left as it is. -/
theorem of_manual (handling : scheduler.Handling sequence landings flight handled)
    (mayWait : flight.noDelay = false) (chosen : flight.manualLandingTime = true) :
    handled.flight = flight := by
  cases handling with
  | withoutRunway _ _ | manual _ _ | refused _ _ => rfl
  | atEstimate noDelay _ _ => simp [mayWait] at noDelay
  | resolved resolvable _ _ => exact absurd (chosen.symm.trans resolvable.2) (by decide)

/-- A flight that must not be delayed is scheduled at its estimate, whatever is settled by then. -/
theorem of_noDelay (handling : scheduler.Handling sequence landings flight handled)
    (noDelay : flight.noDelay = true) :
    scheduleWithoutDelay sequence flight = .ok handled.flight := by
  unfold scheduleWithoutDelay
  cases handling with
  | withoutRunway _ missing => rw [missing]
  | atEstimate _ found committed =>
    simp only [found, committed]
    rfl
  | manual mayWait _ => simp [noDelay] at mayWait
  | refused resolvable _ => exact absurd (noDelay.symm.trans resolvable.1) (by decide)
  | resolved resolvable _ _ => exact absurd (noDelay.symm.trans resolvable.1) (by decide)

/-- A turn only fails when the search for a landing is refused. -/
theorem resolve_refuses {refusal : Refusal}
    (handling : scheduler.Handling sequence landings flight handled)
    (failed : handled.failure = some refusal) :
    scheduler.resolve sequence flight landings = .error (.refused refusal) := by
  cases handling with
  | refused _ refused =>
    cases failed
    exact refused
  | _ => cases failed

/-- A turn only fails for want of a landing time. -/
theorem failure {refusal : Refusal} (handling : scheduler.Handling sequence landings flight handled)
    (failed : handled.failure = some refusal) : refusal.isUnsatisfiable = true :=
  resolve_refused (handling.resolve_refuses failed)

end Handling

end Scheduler

end ArrivalManager
