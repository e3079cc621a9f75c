import ArrivalManager.Proofs.Schedule.Overrun
import ArrivalManager.Proofs.Schedule.Spacing

/-! What a pass leaves alone: all but the plans of the flights that wait. -/

namespace ArrivalManager

/-- At most the scheduled time at a fix that is still ahead has changed. -/
def FixReplanned (before after : Option FeederFix) : Prop :=
  match before with
  | none => after = none
  | some fix =>
    if fix.isPassed then after = some fix
    else ∃ scheduled, after = some { fix with times := { fix.times with scheduled } }

/-- A fix that is left as it is has not changed otherwise either. -/
theorem FixReplanned.refl (fix : Option FeederFix) : FixReplanned fix fix := by
  unfold FixReplanned
  cases fix with
  | none => rfl
  | some fix =>
    dsimp only
    split
    · rfl
    · -- A fix ahead may keep the time that it has.
      exact ⟨fix.times.scheduled, rfl⟩

/-- A fix that follows a delay only gets another time. -/
theorem FixFollows.replanned {delay : Duration} {before after : Option FeederFix}
    (follows : FixFollows delay before after) : FixReplanned before after := by
  unfold FixFollows at follows
  unfold FixReplanned
  cases before with
  | none => exact follows
  | some fix =>
    dsimp only at follows ⊢
    split at follows
    · rename_i passed
      rwa [if_pos passed]
    · rename_i ahead
      obtain ⟨scheduled, _, same⟩ := follows
      rw [if_neg ahead]
      exact ⟨scheduled, same⟩

/-- A flight after a pass that concerned it: at most its plan has changed, and it is not new any more. -/
structure Flight.Replanned (before after : Flight) : Prop where
  others : after = { before with
    state := .unstable
    landing := { before.landing with scheduled := after.landing.scheduled }
    assignment := after.assignment
    fix := after.fix
    flow := after.flow }
  /-- It may land on another runway, but that is as much of a choice as before. -/
  runwayPinned : after.runwayPinned = before.runwayPinned
  fix : FixReplanned before.fix after.fix

namespace Scheduler

variable {scheduler : Scheduler} {sequence : Sequence} {flight : Flight} {landings : List Landing}
  {handled : Handled} {turns : List Turn} {turn : Turn} {outcome : Outcome Sequence Unit}

/-- A turn changes no more of a fix than its scheduled time, and that only as long as it is ahead. -/
theorem Handling.fixReplanned (handling : scheduler.Handling sequence landings flight handled) :
    FixReplanned flight.fix handled.flight.fix := by
  cases handling with
  | withoutRunway _ _ | manual _ _ | refused _ _ => exact .refl _
  | atEstimate _ _ committed | resolved _ _ committed =>
    exact (Flight.schedule_eq_ok committed).2.replanned

namespace Pass

variable (pass : scheduler.Pass sequence outcome turns)
include pass

/-- A flight that had its turn is replanned, and nothing else about it has changed. -/
theorem result_replanned (member : turn ∈ turns) : turn.flight.Replanned turn.result := by
  have rescheduled := (pass.handling turn member).rescheduled
  rw [pass.result_eq member]
  refine ⟨?_, rescheduled.runwayPinned, (pass.handling turn member).fixReplanned⟩
  -- Only the left side is taken apart, as the right side speaks of the flight afterwards as well.
  conv => lhs; rw [rescheduled.others]

/-- A flight whose landing time a controller chose keeps that, unless it must not be delayed. -/
theorem result_of_manual (member : turn ∈ turns) (mayWait : turn.flight.noDelay = false)
    (chosen : turn.flight.manualLandingTime = true) :
    turn.result = { turn.flight with state := .unstable } := by
  rw [pass.result_eq member, (pass.handling turn member).of_manual mayWait chosen]

end Pass

/-- A sequence after a pass: only the plans of flights that waited have changed. -/
structure Frames (before after : Sequence) : Prop where
  /-- No flight comes or goes, but the list is sorted anew. -/
  callsigns : (after.flights.map (·.callsign)).Perm (before.flights.map (·.callsign))
  settled {flight : Flight} (tracked : flight ∈ before.flights)
    (settled : flight.state.isSchedulable = false) : after.flight? flight.callsign = some flight
  waiting {flight : Flight} (tracked : flight ∈ before.flights)
    (waits : flight.state.isSchedulable = true) :
    ∃ planned, after.flight? flight.callsign = some planned ∧ flight.Replanned planned
  manual {flight : Flight} (tracked : flight ∈ before.flights)
    (waits : flight.state.isSchedulable = true) (mayWait : flight.noDelay = false)
    (chosen : flight.manualLandingTime = true) :
    after.flight? flight.callsign = some { flight with state := .unstable }
  /-- Whatever else belongs to the sequence is as it was. -/
  others : after = { before with flights := after.flights }

/--
A pass changes nothing but the plans of the flights that wait, whether it succeeds or not.

Only a sum of times that leaves the clock keeps the pass from its end.
-/
theorem schedule_frames (distinct : DistinctCallsigns sequence.flights) :
    (∃ overflow, scheduler.schedule sequence = .error overflow ∧ scheduler.LeavesClock sequence overflow) ∨
      ∃ outcome, scheduler.schedule sequence = .ok outcome ∧ Frames sequence outcome.after := by
  cases passed : scheduler.schedule sequence with
  | error overflow => exact .inl ⟨overflow, rfl, schedule_eq_error passed⟩
  | ok outcome =>
    obtain ⟨turns, pass⟩ := exists_pass passed
    refine .inr ⟨outcome, rfl, ?_⟩
    constructor
    case callsigns => exact pass.callsigns_perm
    case settled => exact pass.flight?_settled distinct
    case waiting =>
      intro flight tracked waits
      obtain ⟨turn, member, rfl⟩ := pass.exists_turn tracked waits
      exact ⟨turn.result, pass.flight?_result distinct member, pass.result_replanned member⟩
    case manual =>
      intro flight tracked waits mayWait chosen
      obtain ⟨turn, member, rfl⟩ := pass.exists_turn tracked waits
      rw [pass.flight?_result distinct member, pass.result_of_manual member mayWait chosen]
    case others =>
      rw [pass.after]

end Scheduler

/-- A flight that must not be delayed, one whose landing time was chosen, and one before its fix. -/
def Flight.sampleWaiting : List Flight :=
  [{ Flight.sampleArrival with callsign := "VOZ1", noDelay := true },
    { Flight.sampleArrival with
      callsign := "VOZ3"
      state := .unstable
      manualLandingTime := true
      landing := { Flight.sampleArrival.landing with scheduled := .sampleSeconds 900 }
      assignment := some ⟨"34L", false⟩ },
    { Flight.sampleArrival with fix := some (.ahead "BOREE" .epoch) }]

/-- Three flights that wait behind one that keeps its landing. -/
def Sequence.sampleMixed : Sequence :=
  { Sequence.samplePair with flights := .sampleAnchor :: Flight.sampleWaiting }

/-- The three flights wait as they are listed. -/
theorem Sequence.waiting_sampleMixed :
    Scheduler.waiting Sequence.sampleMixed.flights = Flight.sampleWaiting :=
  Scheduler.waiting_of_pairwise (by decide)

/-- A pass over the four flights changes nothing but the plans of the three. -/
theorem Scheduler.schedule_frames_sampleMixed :
    ∃ outcome, Scheduler.sample.schedule .sampleMixed = .ok outcome
      ∧ Frames .sampleMixed outcome.after := by
  obtain ⟨reached, passed, _⟩ : Scheduler.sample.Succeeds .sampleMixed :=
    .of_serves (by decide +kernel) Sequence.waiting_sampleMixed
  rcases @Scheduler.schedule_frames .sample .sampleMixed (by decide) with
    ⟨overflow, failed, _⟩ | framed
  · -- The times are far from the ends of the clock.
    exact absurd (passed.symm.trans failed) nofun
  · exact framed

end ArrivalManager
