import ArrivalManager.Proofs.Schedule.Spacing
import ArrivalManager.Proofs.Sequence.Partition
import ArrivalManager.Sequence.Operation

/-! Runs of operations on one sequence, carried out or refused, and what all of them preserve. -/

namespace ArrivalManager.Sequence

variable {scheduler : Scheduler} {airport : Airport} {start before after reached : Sequence}
  {flight : Flight} {callsign : Callsign} {operations : List Flight.Operation}
  {operation : Operation} {outcome : Outcome Sequence Answer}

namespace Partitioned

variable (partitioned : before.Partitioned)
include partitioned

/-- To add flights one after the other leaves the lists apart, also up to one that is refused. -/
theorem addFlights {flights : List Flight.Prepared}
    (done : before.addFlights flights = .ok outcome) :
    outcome.after.airport = before.airport ∧ outcome.after.Partitioned := by
  induction flights generalizing before with
  | nil =>
    cases done
    exact ⟨rfl, partitioned⟩
  | cons prepared rest ih =>
    cases prepared with
    | error overflow => cases done
    | ok flight =>
      unfold Sequence.addFlights at done
      split at done
      · rename_i after added
        obtain ⟨airport, apart⟩ := partitioned.addFlight added
        obtain ⟨others, all⟩ := ih apart done
        exact ⟨others.trans airport, all⟩
      · cases done
        exact ⟨rfl, partitioned⟩

/-- An operation that changes nothing when it is refused leaves the lists apart if it does otherwise. -/
theorem settled {result : Except Refusal (Answer × Sequence)}
    (done : before.settled result = .ok outcome)
    (carried : ∀ answer after, result = .ok (answer, after) →
      after.airport = before.airport ∧ after.Partitioned) :
    outcome.after.airport = before.airport ∧ outcome.after.Partitioned := by
  cases result with
  | error refusal =>
    cases done
    exact ⟨rfl, partitioned⟩
  | ok given =>
    cases done
    exact carried given.1 given.2 rfl

end Partitioned

/-- Operations on a flight put a record of the same arrival in its place. -/
theorem performOn_eq_some {flights changed : List Flight}
    {answers : List (Except Refusal Flight.Answer)}
    (done : performOn flights callsign operations = .ok (some (answers, changed))) :
    ∃ old new, findFlight flights new.callsign = some old ∧ old.SameArrival new
      ∧ changed = replaceFlight flights new := by
  unfold performOn at done
  split at done
  · cases done
  · rename_i flight found
    obtain ⟨⟨_, new⟩, performed, done⟩ := bind_eq_ok.mp done
    cases pure_eq_ok.mp done
    have same := Flight.performAll_sameArrival performed
    refine ⟨flight, new, ?_, same, rfl⟩
    rwa [same.callsign, (findFlight_mem found).2]

/-- Operations on all flights of a list put records of the same arrivals in their places. -/
theorem mapM_prepare {flights changed : List Flight}
    (done : (flights.mapM fun flight => flight.prepare operations) = .ok changed) :
    List.Forall₂ Flight.SameArrival flights changed := by
  induction flights generalizing changed with
  | nil =>
    cases pure_eq_ok.mp done
    exact .nil
  | cons first rest ih =>
    rw [List.mapM_cons] at done
    obtain ⟨new, prepared, done⟩ := bind_eq_ok.mp done
    obtain ⟨others, followed, done⟩ := bind_eq_ok.mp done
    cases pure_eq_ok.mp done
    exact .cons (Flight.prepare_sameArrival prepared) (ih followed)

/-- Slots and modes are none of the lists' concern. -/
theorem retains_frame {slots : List Slot} {mode : RunwayMode} {modeChange : Option ModeChange} :
    before.Retains { before with slots, mode, modeChange } :=
  .of_sublists rfl (.refl _) (.refl _) (.refl _) (.refl _)

/-- To drop overdue pending flights adds nothing. -/
theorem expirePending_retains (before : Sequence) (cutoff : Instant) :
    before.Retains (before.expirePending cutoff).2 := by
  refine .of_sublists rfl (.refl _) (.refl _) ?_ (.refl _)
  unfold expirePending
  simp only [List.partition_eq_filter_filter]
  exact List.filter_sublist

/-- To forget old retirements adds nothing. -/
theorem forgetRetired_retains (before : Sequence) (cutoff : Instant) :
    before.Retains (before.forgetRetired cutoff).2 :=
  .of_sublists rfl (.refl _) (.refl _) (.refl _) List.filter_sublist

/-- Operations on a flight of a list add nothing to the lists, whether or not the flight is found. -/
theorem performedOn_retains {list : List Flight} {place : List Flight → Sequence}
    {missing : Outcome Sequence Answer}
    (done : (do
      match ← performOn list callsign operations with
      | none => return missing
      | some (answers, changed) => return ⟨.ok (.flightAnswers (some answers)), place changed⟩)
      = .ok outcome)
    (absent : missing.after = before)
    (replaced : ∀ {old new}, findFlight list new.callsign = some old → old.SameArrival new →
      before.Retains (place (replaceFlight list new))) : before.Retains outcome.after := by
  obtain ⟨performed, given, done⟩ := bind_eq_ok.mp done
  cases performed with
  | none =>
    cases pure_eq_ok.mp done
    exact absent ▸ .refl before
  | some performed =>
    obtain ⟨answers, changed⟩ := performed
    cases pure_eq_ok.mp done
    obtain ⟨old, new, found, same, rfl⟩ := performOn_eq_some given
    exact replaced found same

/-- No operation on a sequence, refused or not, makes its lists overlap. -/
theorem perform_partitioned (partitioned : before.Partitioned)
    (done : before.perform scheduler operation = .ok outcome) :
    outcome.after.airport = before.airport ∧ outcome.after.Partitioned := by
  -- What adds nothing leaves the lists apart.
  have retained {after : Sequence} (retains : before.Retains after) :
      after.airport = before.airport ∧ after.Partitioned :=
    ⟨retains.airport, partitioned.retained retains⟩
  have slotted {after : Sequence} (same : ∃ slots, after = { before with slots }) :
      after.airport = before.airport ∧ after.Partitioned := by
    obtain ⟨slots, rfl⟩ := same
    exact retained retains_frame
  cases operation with
  | addFlight flight =>
    refine partitioned.settled done fun answer after added => ?_
    obtain ⟨_, added⟩ := restate_eq_ok added
    exact partitioned.addFlight added
  | addFlights flights => exact partitioned.addFlights done
  | insertFlight flight position =>
    obtain ⟨inserted, given, done⟩ := bind_eq_ok.mp done
    cases pure_eq_ok.mp done
    exact partitioned.insertFlight given
  | reposition callsign displace =>
    refine partitioned.settled done fun answer after moved => ?_
    obtain ⟨_, moved⟩ := restate_eq_ok moved
    exact retained (reposition_retains moved)
  | desequence callsign =>
    exact partitioned.settled done fun _ _ taken => retained (desequence_retains (answer_eq_ok taken))
  | resume callsign now =>
    refine partitioned.settled done fun answer after resumed => ?_
    obtain ⟨_, resumed⟩ := restate_eq_ok resumed
    exact retained (resume_retains resumed)
  | remove callsign =>
    cases done
    exact retained (remove_retains before callsign)
  | upsertPending flight =>
    exact partitioned.settled done fun _ _ held => partitioned.upsertPending (answer_eq_ok held)
  | expirePending cutoff =>
    cases done
    exact retained (expirePending_retains before cutoff)
  | takePending callsign =>
    cases done
    exact retained (.of_sublists rfl (.refl _) (.refl _) List.eraseP_sublist (.refl _))
  | createSlot id start finish runways =>
    exact partitioned.settled done fun _ _ created => slotted (createSlot_eq_ok (answer_eq_ok created))
  | modifySlot id start finish =>
    exact partitioned.settled done fun _ _ moved => slotted (modifySlot_eq_ok (answer_eq_ok moved))
  | deleteSlot id =>
    refine partitioned.settled done fun answer after deleted => ?_
    obtain ⟨_, deleted⟩ := restate_eq_ok deleted
    exact slotted (deleteSlot_eq_ok deleted)
  | changeMode mode =>
    cases done
    exact retained retains_frame
  | scheduleModeChange mode lastLanding firstLanding =>
    refine partitioned.settled done fun answer after planned => ?_
    obtain ⟨change, _, same⟩ := bind_eq_ok.mp planned
    cases pure_eq_ok.mp same
    exact retained retains_frame
  | trySwapModes now =>
    cases done
    obtain ⟨mode, modeChange, same, _, _⟩ := before.trySwapModes_eq now
    refine retained ?_
    exact same ▸ retains_frame
  | sort =>
    cases done
    exact retained (.of_perm (sortFlights_perm _))
  | purgeLanded cutoff =>
    cases done
    exact retained (purgeLanded_retains before cutoff)
  | forgetRetired cutoff =>
    cases done
    exact retained (forgetRetired_retains before cutoff)
  | onFlight callsign operations =>
    exact retained (performedOn_retains done rfl retains_replace)
  | onDesequenced callsign operations =>
    exact retained (performedOn_retains done rfl retains_replaceParked)
  | onPending callsign operations =>
    exact retained (performedOn_retains done rfl retains_replacePending)
  | onAllFlights operations =>
    obtain ⟨changed, prepared, done⟩ := bind_eq_ok.mp done
    cases pure_eq_ok.mp done
    exact retained (retains_revised (mapM_prepare prepared))
  | schedule =>
    obtain ⟨passed, given, done⟩ := bind_eq_ok.mp done
    cases pure_eq_ok.mp done
    exact retained (schedule_retains given)

/-- The sequences to which operations lead from a first one, each with a scheduler of its own. -/
inductive Reaches (start : Sequence) : Sequence → Prop where
  | start : Reaches start start
  | step {before : Sequence} {scheduler : Scheduler} {operation : Operation}
    {outcome : Outcome Sequence Answer} (run : Reaches start before)
    (done : before.perform scheduler operation = .ok outcome) : Reaches start outcome.after

/-- The sequence after some operations, whatever each of them answers, if none overflows. -/
def follow (scheduler : Scheduler) (sequence : Sequence) : List Operation → Option Sequence
  | [] => some sequence
  | operation :: rest =>
    match sequence.perform scheduler operation with
    | .ok outcome => outcome.after.follow scheduler rest
    | .error _ => none

/-- A run that goes on with the operations that are followed leads to where they lead. -/
theorem Reaches.follow {list : List Operation} (run : Reaches start before)
    (followed : before.follow scheduler list = some after) : Reaches start after := by
  induction list generalizing before with
  | nil =>
    cases followed
    exact run
  | cons operation rest ih =>
    unfold Sequence.follow at followed
    split at followed
    · rename_i outcome done
      exact ih (.step run done) followed
    · cases followed

/-- After any run of operations on a new sequence, its lists share no callsign and serve one airport. -/
theorem reaches_partitioned (founded : ofAirport airport = .ok start)
    (run : Reaches start reached) : reached.airport = airport ∧ reached.Partitioned := by
  induction run with
  | start => exact partitioned_of_airport founded
  | step run done ih =>
    obtain ⟨same, partitioned⟩ := ih
    obtain ⟨kept, after⟩ := perform_partitioned partitioned done
    exact ⟨kept.trans same, after⟩

/-- Two flights that change between the lists, one of them through its retirement and back. -/
def sampleOperations : List Operation :=
  [.upsertPending .sampleArrival, .addFlight .sampleAnchor, .desequence "QFA1",
    .insertFlight .sampleArrival (.at .epoch), .remove "VOZ2", .addFlight .sampleArrival,
    .insertFlight .sampleArrival (.at .epoch), .schedule, .remove "VOZ2",
    .resume "QFA1" .epoch, .schedule, .remove "QFA1", .remove "QFA1"]

/-- Through all changes of the two flights the lists stay apart. -/
theorem reaches_partitioned_sampleOperations :
    ∃ start reached, ofAirport { Airport.sample with modes := [singleMode] } = .ok start
      ∧ start.follow .sample sampleOperations = some reached
      ∧ reached.airport = { Airport.sample with modes := [singleMode] }
      ∧ reached.Partitioned := by
  let airport : Airport := { Airport.sample with modes := [singleMode] }
  obtain ⟨start, founded⟩ : ∃ start, ofAirport airport = .ok start := ⟨_, rfl⟩
  obtain ⟨reached, followed⟩ : ∃ reached, start.follow .sample sampleOperations = some reached := by
    cases founded
    exact Option.isSome_iff_exists.mp (by decide +kernel)
  exact ⟨start, reached, founded, followed,
    reaches_partitioned founded (Reaches.start.follow followed)⟩

end ArrivalManager.Sequence
