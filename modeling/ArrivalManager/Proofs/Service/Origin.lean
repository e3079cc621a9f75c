import ArrivalManager.Proofs.Flight.Knowledge
import ArrivalManager.Proofs.Service.Succession

/-! Where what is known of a feeder fix comes from: earlier records, updates and insertions. -/

namespace ArrivalManager

open Estimation

/-- Estimates that are derived anew concern nothing that was reported. -/
theorem Estimator.refresh_continues {estimator : Estimator} {airport : Airport}
    {flight after : Flight} {now : Instant}
    (given : Gives (estimator.refresh airport flight now) after) : flight.Continues after := by
  obtain ⟨estimateOf, estimate, rfl⟩ := refresh_frame given
  exact ⟨rfl, rfl, by simp [Flight.fixReport, FeederFix.report, Function.comp_def]⟩

namespace Scheduler

variable {scheduler : Scheduler} {sequence : Sequence} {landings : List Landing} {flight : Flight}
  {handled : Handled} {outcome : Outcome Sequence Unit}

/-- A turn concerns nothing that is known of the feeder fix. -/
theorem Handling.sameKnowledge (handling : scheduler.Handling sequence landings flight handled) :
    flight.SameKnowledge handled.flight := by
  cases handling with
  | withoutRunway _ _ | manual _ _ | refused _ _ => exact .refl flight
  | atEstimate _ _ committed | resolved _ _ committed =>
    exact (Flight.schedule_sameKnowledge committed).trans ⟨rfl, rfl, rfl⟩

/-- Having its turn schedules a flight and admits it, and concerns nothing that is known of its fix. -/
theorem Pass.result_sameKnowledge {turns : List Turn} {turn : Turn}
    (pass : scheduler.Pass sequence outcome turns) (member : turn ∈ turns) :
    turn.flight.SameKnowledge turn.result := by
  obtain ⟨_, state, shape⟩ := pass.result_frame member
  rw [shape]
  exact (pass.handling turn member).sameKnowledge.trans ⟨rfl, rfl, rfl⟩

/-- A flight that is known after a pass was known before it, with as much known of its fix. -/
theorem schedule_sameKnowledge (passed : scheduler.schedule sequence = .ok outcome)
    (member : flight ∈ outcome.after.known) :
    ∃ former ∈ sequence.known, former.SameKnowledge flight := by
  obtain ⟨turns, pass⟩ := exists_pass passed
  rcases List.mem_append.mp member with tracked | parked
  · rcases pass.mem_after.mp tracked with ⟨listed, _⟩ | ⟨turn, taken, rfl⟩
    · exact ⟨flight, List.mem_append_left _ listed, .refl flight⟩
    · exact ⟨turn.flight, List.mem_append_left _ (pass.mem_flights taken).1,
        pass.result_sameKnowledge taken⟩
  · rw [pass.frame.2.2.2] at parked
    exact ⟨flight, List.mem_append_right _ parked, .refl flight⟩

end Scheduler

namespace Service

variable {service : Service} {before after : Sequence} {now : Instant} {command : Command}
  {callsign : Callsign} {fresh : SlotId} {flight former : Flight} {airport : String} {call : Call}
  {reply : Reply} {outcome : Outcome Sequence (Option SlotId)}

/-- The flight to insert under a callsign is the pending one, or a new one without a feeder fix. -/
theorem insertedFlight_source {typeCode : Option String} {place : InsertPosition}
    (chosen : service.insertedFlight before callsign typeCode place = .ok flight) :
    findFlight before.pending callsign = some flight
      ∨ findFlight before.pending callsign = none ∧ flight.fix = none := by
  unfold insertedFlight at chosen
  split at chosen
  · rename_i waits
    cases chosen
    exact .inl waits
  · rename_i missing
    obtain ⟨_, _, chosen⟩ := bind_eq_ok.mp chosen
    cases pure_eq_ok.mp chosen
    exact .inr ⟨missing, rfl⟩
  · cases chosen

/-- A flight as an update reports it for the first time, or again while it is pending. -/
def Reports (service : Service) (now : Instant) (before : Sequence) (command : Command)
    (flight : Flight) : Prop :=
  ∃ update, command = .updateFlight update
    ∧ Gives (service.estimator.refresh before.airport
      (update.applyTo (service.reportedFlight update)) now) flight

/-- Where a known flight comes from after a change, with what is known of its feeder fix. -/
inductive Origin (service : Service) (now : Instant) (before : Sequence) (command : Command)
    (flight : Flight) : Prop where
  /-- It was known before, and nothing more was reported. -/
  | kept {old : Flight} (known : old ∈ before.known) (continues : old.Continues flight)
  /-- It was known before, and an update was taken over. -/
  | updated {old : Flight} {update : FlightUpdate} (ordered : command = .updateFlight update)
    (known : old ∈ before.known) (named : old.callsign = update.callsign)
    (continues : (update.applyTo old).Continues flight)
  /-- It was taken out before, and a controller brought it back. -/
  | resumed {old : Flight} (known : old ∈ before.known) (same : (old.activate now).Continues flight)
  /-- It was reported, and is in range. -/
  | tracked {reported : Flight} (reports : service.Reports now before command reported)
    (begun : Gives (service.activated before.airport reported now) flight)
  /-- A controller inserted it, from the pending flights or as a new one. -/
  | inserted {callsign : Callsign} {typeCode : Option String} {place : InsertPosition}
    {former : Flight} (ordered : command = .insertFlight callsign typeCode place)
    (chosen : service.insertedFlight before callsign typeCode place = .ok former)
    (same : (former.activate now).SameKnowledge flight)

/-- A flight that is left alone comes from itself. -/
theorem Origin.refl (known : flight ∈ before.known) : service.Origin now before command flight :=
  .kept known (.refl flight)

/-- A sequence in which every flight has its origin in an earlier one, or in a command. -/
structure Traces (service : Service) (now : Instant) (before : Sequence) (command : Command)
    (after : Sequence) : Prop where
  known : ∀ flight ∈ after.known, service.Origin now before command flight
  waiting : ∀ flight ∈ after.pending, flight ∈ before.pending ∨ service.Reports now before command flight

namespace Traces

/-- To leave flights out at most leaves each one with its origin. -/
theorem of_subset (known : after.known ⊆ before.known) (pending : after.pending ⊆ before.pending) :
    service.Traces now before command after :=
  ⟨fun _ member => .refl (known member), fun _ member => .inl (pending member)⟩

/-- Where nothing happens to the flights, every one comes from itself. -/
theorem framed {retired : List RetiredFlight} {slots : List Slot} {mode : RunwayMode}
    {modeChange : Option ModeChange} :
    service.Traces now before command { before with retired, slots, mode, modeChange } :=
  .of_subset (List.Subset.refl _) (List.Subset.refl _)

/-- A flight that is tracked as well has its own origin, and the others come from themselves. -/
theorem track {added : Flight} {arranged : List Flight}
    (moved : arranged.Perm (before.flights ++ [added]))
    (origin : service.Origin now before command added) (name : Callsign) :
    service.Traces now before command { before.dropPending name with flights := arranged } := by
  refine ⟨fun flight member => ?_, fun flight member => .inl (List.mem_filter.mp member).1⟩
  rcases List.mem_append.mp member with tracked | parked
  · rcases List.mem_append.mp (moved.mem_iff.mp tracked) with tracked | added
    · exact .refl (List.mem_append_left _ tracked)
    · rw [List.mem_singleton.mp added]
      exact origin
  · exact .refl (List.mem_append_right _ parked)

/-- A tracked flight with a new record has its own origin, wherever it is moved to. -/
theorem replaced {new : Flight} {arranged : List Flight}
    (moved : arranged.Perm (replaceFlight before.flights new))
    (origin : service.Origin now before command new) :
    service.Traces now before command { before with flights := arranged } := by
  refine ⟨fun flight member => ?_, fun flight => .inl⟩
  rcases List.mem_append.mp member with tracked | parked
  · rcases mem_replaceFlight (moved.mem_iff.mp tracked) with rfl | tracked
    · exact origin
    · exact .refl (List.mem_append_left _ tracked)
  · exact .refl (List.mem_append_right _ parked)

/-- A change to one tracked flight leaves each one with its origin if it leaves the fix alone. -/
theorem of_ofFlight {change : Flight → Except Overflow Flight} {result : Outcome Sequence Unit}
    (given : Gives (Change.ofFlight callsign change before) result)
    (continues : ∀ old new, change old = .ok new → old.Continues new) :
    service.Traces now before command result.after := by
  rcases ofFlight_gives given with rfl | ⟨old, new, found, made, rfl⟩
  · exact .framed
  · exact replaced (.refl _)
      (.kept (List.mem_append_left _ (findFlight_mem found).1) (continues old new made))

/-- A change in full or not at all only has to be looked at when it is carried out. -/
theorem of_ofExcept {change : Sequence → Except Refusal (Option SlotId × Sequence)}
    (given : Gives (Change.ofExcept change before) outcome)
    (carried : ∀ answer after, change before = .ok (answer, after) →
      service.Traces now before command after) :
    service.Traces now before command outcome.after := by
  obtain rfl := pure_gives.mp given
  cases changed : change before with
  | error refusal => exact .framed
  | ok result => exact carried result.1 result.2 changed

/-- A change in full or not at all that only concerns slots leaves each flight with its origin. -/
theorem of_slots {change : Sequence → Except Refusal (Option SlotId × Sequence)}
    (given : Gives (Change.ofExcept change before) outcome)
    (slotted : ∀ answer after, change before = .ok (answer, after) →
      ∃ slots, after = { before with slots }) : service.Traces now before command outcome.after := by
  refine of_ofExcept given fun answer after changed => ?_
  obtain ⟨slots, rfl⟩ := slotted answer after changed
  exact framed

/-- A report leaves each flight with its origin, whether it is tracked or held. -/
theorem of_trackOrHold {update : FlightUpdate} {result : Outcome Sequence Unit}
    (given : Gives (service.trackOrHold update now before) result) :
    service.Traces now before (.updateFlight update) result.after := by
  unfold trackOrHold at given
  obtain ⟨reported, refreshed, given⟩ := bind_gives.mp given
  have reports : service.Reports now before (.updateFlight update) reported := ⟨update, rfl, refreshed⟩
  obtain ⟨near, _, given⟩ := bind_gives.mp given
  split at given
  · obtain ⟨begun, activated, given⟩ := bind_gives.mp given
    obtain rfl := pure_gives.mp given
    cases added : before.addFlight begun with
    | error refusal => exact .framed
    | ok tracking =>
      obtain ⟨_, arranged, moved, same⟩ := Sequence.addFlight_eq_ok added
      simp only [Outcome.map, Outcome.ofExcept, same]
      exact .track moved (.tracked reports activated) _
  · obtain rfl := pure_gives.mp given
    cases held : before.upsertPending reported with
    | error refusal => exact .framed
    | ok holding =>
      obtain ⟨_, ⟨_, _, rfl⟩ | ⟨_, rfl⟩⟩ := Sequence.upsertPending_eq_ok held
      · refine ⟨fun flight member => .refl member, fun flight member => ?_⟩
        rcases mem_replaceFlight member with rfl | waiting
        · exact .inr reports
        · exact .inl waiting
      · refine ⟨fun flight member => .refl member, fun flight member => ?_⟩
        rcases List.mem_append.mp member with waiting | added
        · exact .inl waiting
        · rw [List.mem_singleton.mp added]
          exact .inr reports

/-- An update leaves each flight with its origin, wherever the one that it tells about is known. -/
theorem of_updateFlight {update : FlightUpdate} {result : Outcome Sequence Unit}
    (given : Gives (service.updateFlight update now before) result) :
    service.Traces now before (.updateFlight update) result.after := by
  have updates {old new : Flight} (known : old ∈ before.known) (named : old.callsign = update.callsign)
      (refreshed : Gives (service.refreshed before.airport update old now) new) :
      service.Origin now before (.updateFlight update) new :=
    .updated rfl known named (Estimator.refresh_continues refreshed)
  unfold updateFlight at given
  dsimp only at given
  split at given
  · obtain rfl := pure_gives.mp given
    exact .framed
  · split at given
    · obtain rfl := pure_gives.mp given
      exact .framed
    · split at given
      · -- A tracked flight is replaced, and then moved unless it is fixed.
        rename_i old found
        obtain ⟨listed, named⟩ := findFlight_mem found
        obtain ⟨new, refreshed, given⟩ := bind_gives.mp given
        obtain rfl := pure_gives.mp given
        have origin := updates (List.mem_append_left _ listed) named refreshed
        dsimp only
        split
        · exact .replaced (.refl _) origin
        · obtain ⟨arranged, moved, same⟩ := repositioned_eq
            { before with flights := replaceFlight before.flights new } update.callsign
          rw [same]
          exact .replaced moved origin
      · split at given
        · -- A desequenced flight is replaced where it is.
          rename_i old found
          obtain ⟨listed, named⟩ := findFlight_mem found
          obtain ⟨new, refreshed, given⟩ := bind_gives.mp given
          obtain rfl := pure_gives.mp given
          refine ⟨fun flight member => ?_, fun flight => .inl⟩
          rcases List.mem_append.mp member with tracked | parked
          · exact .refl (List.mem_append_left _ tracked)
          · rcases mem_replaceFlight parked with rfl | parked
            · exact updates (List.mem_append_right _ listed) named refreshed
            · exact .refl (List.mem_append_right _ parked)
        · exact .of_trackOrHold given

/-- An insertion leaves each flight with its origin, also if it is refused. -/
theorem of_insertFlight {typeCode : Option String} {place : InsertPosition}
    {result : Outcome Sequence Unit}
    (given : Gives (service.insertFlight callsign typeCode place now before) result) :
    service.Traces now before (.insertFlight callsign typeCode place) result.after := by
  unfold Service.insertFlight at given
  split at given
  · obtain rfl := pure_gives.mp given
    exact .framed
  · rename_i former chosen
    obtain ⟨_, rfl, ⟨_, _, rfl⟩ | ⟨_, admitted, rfl⟩⟩ :=
      Sequence.insertFlight_cases (lift_gives.mp given)
    · exact .framed
    · unfold Sequence.insertAdmitted at admitted
      obtain ⟨_, _, admitted⟩ := bind_eq_ok.mp admitted
      obtain ⟨⟨time, runway⟩, _, admitted⟩ := bind_eq_ok.mp admitted
      obtain ⟨pinned, landing, admitted⟩ := bind_eq_ok.mp admitted
      cases pure_eq_ok.mp admitted
      have landing := liftOverflow_eq_ok.mp landing
      -- The flight gets a runway and a landing time, and is otherwise as it was.
      have same : (former.activate now).SameKnowledge pinned := by
        unfold Sequence.pinInserted at landing
        dsimp only at landing
        split at landing
        · rename_i runway _
          have assigned : (former.activate now).SameKnowledge
              ((former.activate now).assignRunway runway true) := ⟨rfl, rfl, rfl⟩
          exact assigned.trans (Flight.pinLandingTime_sameKnowledge landing)
        · exact Flight.pinLandingTime_sameKnowledge landing
      have origin : service.Origin now before (.insertFlight callsign typeCode place) pinned :=
        .inserted rfl chosen same
      have traced := Traces.track (sortFlights_perm _) origin (former.activate now).callsign
      exact ⟨traced.known, traced.waiting⟩

end Traces

/-- After a change, every flight has its origin in what was there before, or in the command. -/
theorem traces_of_change (given : Gives (service.change now fresh command before) outcome) :
    service.Traces now before command outcome.after := by
  cases command with
  | updateFlight update =>
    obtain ⟨result, updated, given⟩ := bind_gives.mp given
    obtain rfl := pure_gives.mp given
    exact .of_updateFlight updated
  | insertFlight callsign typeCode place =>
    obtain ⟨result, inserted, given⟩ := bind_gives.mp given
    obtain rfl := pure_gives.mp given
    exact .of_insertFlight inserted
  | changeRunway callsign runway =>
    obtain ⟨result, changed, given⟩ := bind_gives.mp given
    obtain rfl := pure_gives.mp given
    refine .of_ofFlight changed fun old new made => ?_
    cases runway <;> cases made <;> exact ⟨rfl, rfl, rfl⟩
  | setHighPriority callsign value | setNoDelay callsign value | releaseLandingTime callsign =>
    obtain ⟨result, changed, given⟩ := bind_gives.mp given
    obtain rfl := pure_gives.mp given
    refine .of_ofFlight changed fun old new made => ?_
    cases made
    exact ⟨rfl, rfl, rfl⟩
  | changeLandingTime callsign time =>
    obtain ⟨_, changed, given⟩ := bind_gives.mp given
    obtain rfl := pure_gives.mp given
    obtain ⟨result, pinned, restated⟩ := bind_gives.mp changed
    obtain rfl := pure_gives.mp restated
    rcases ofFlight_gives pinned with rfl | ⟨old, new, found, made, rfl⟩
    · exact .framed
    · -- The flights are sorted at the end.
      exact .replaced (sortFlights_perm _) (.kept (List.mem_append_left _ (findFlight_mem found).1)
        (Flight.pinLandingTime_sameKnowledge made).continues)
  | desequence callsign =>
    refine .of_ofExcept given fun answer after changed => ?_
    obtain ⟨parked, done, changed⟩ := bind_eq_ok.mp changed
    cases pure_eq_ok.mp changed
    obtain ⟨former, found, rfl⟩ := Sequence.desequence_eq_ok done
    refine ⟨fun flight member => ?_, fun flight => .inl⟩
    simp only [Sequence.known, List.mem_append, List.mem_singleton] at member
    rcases member with tracked | parked | rfl
    · exact .refl (List.mem_append_left _ (List.eraseP_sublist.subset tracked))
    · exact .refl (List.mem_append_right _ parked)
    · exact .kept (List.mem_append_left _ (findFlight_mem found).1) ⟨rfl, rfl, rfl⟩
  | resume callsign =>
    refine .of_ofExcept given fun answer after changed => ?_
    obtain ⟨⟨position, resumed⟩, done, changed⟩ := bind_eq_ok.mp changed
    cases pure_eq_ok.mp changed
    obtain ⟨former, arranged, found, moved, rfl⟩ := Sequence.resume_eq_ok done
    refine ⟨fun flight member => ?_, fun flight => .inl⟩
    simp only [Sequence.known, List.mem_append, moved.mem_iff, List.mem_singleton] at member
    rcases member with (tracked | rfl) | parked
    · exact .refl (List.mem_append_left _ tracked)
    · -- Whether a flight is activated for the first time does not depend on its state.
      refine .resumed (List.mem_append_right _ (findFlight_mem found).1) ?_
      refine ⟨?_, rfl, ?_⟩
      · rw [(Flight.activate_sameArrival _ now).callsign, (Flight.activate_sameArrival _ now).callsign]
      · rw [Flight.activate_fixReport, Flight.activate_fixReport]
        rfl
    · exact .refl (List.mem_append_right _ (List.eraseP_sublist.subset parked))
  | remove callsign =>
    obtain rfl := pure_gives.mp given
    refine .of_subset (Sequence.remove_drops before callsign).known.subset ?_
    rw [Outcome.map, Sequence.remove_pending]
    exact List.Subset.refl _
  | createSlot start finish runways =>
    exact .of_slots given fun _ _ created => Sequence.createSlot_eq_ok (answer_eq_ok created)
  | modifySlot slot start finish =>
    exact .of_slots given fun _ _ moved => Sequence.modifySlot_eq_ok (answer_eq_ok moved)
  | deleteSlot slot =>
    refine .of_slots given fun answer after deleted => ?_
    obtain ⟨⟨slot, _⟩, found, deleted⟩ := bind_eq_ok.mp deleted
    cases pure_eq_ok.mp deleted
    exact Sequence.deleteSlot_eq_ok found
  | changeMode mode =>
    refine .of_ofExcept given fun answer after changed => ?_
    obtain ⟨_, _, changed⟩ := bind_eq_ok.mp changed
    cases pure_eq_ok.mp changed
    exact .framed
  | scheduleModeChange mode lastLanding firstLanding =>
    refine .of_ofExcept given fun answer after changed => ?_
    obtain ⟨_, _, changed⟩ := bind_eq_ok.mp changed
    obtain ⟨_, _, changed⟩ := bind_eq_ok.mp changed
    cases pure_eq_ok.mp changed
    exact .framed
  | recompute =>
    obtain ⟨after, passed, rfl⟩ := change_recompute given
    obtain ⟨flights, arranged, mode, modeChange, records, moved, rfl, _, _⟩ := passTime_gives passed
    refine ⟨fun flight member => ?_, fun flight => .inl⟩
    rcases List.mem_append.mp member with tracked | parked
    · -- A flight with new estimates, in whichever state, is still the same one.
      obtain ⟨old, listed, current, refreshed, rfl⟩ :=
        exists_of_forall₂ records (moved.mem_iff.mp tracked)
      have promoted : current.Continues (current.promote now service.settings.thresholds) :=
        ⟨rfl, rfl, rfl⟩
      exact .kept (List.mem_append_left _ listed)
        ((Estimator.refresh_continues refreshed).trans promoted)
    · exact .refl (List.mem_append_right _ parked)

/-- What is dropped after a pass may be pending flights as well. -/
theorem kept_pending (done : service.kept now command before = .ok after) :
    after.pending ⊆ before.pending := by
  unfold kept at done
  split at done
  · obtain ⟨_, _, _, _, rfl⟩ := retain_eq_ok done
    exact List.filter_sublist.subset
  · cases done
    exact List.Subset.refl _

section Carried

variable {changed : Sequence} {slot : Option SlotId} {passed : Outcome Sequence Unit}
  (made : Gives (service.change now fresh command before) ⟨.ok slot, changed⟩)
  (pass : service.scheduler.schedule changed = .ok passed)
  (kept : service.kept now command passed.after = .ok after)
include made pass kept

/-- A flight that is known after a command has its origin, and the pass added nothing to what is known. -/
theorem exists_origin (member : flight ∈ after.known) :
    ∃ former, service.Origin now before command former ∧ former.SameKnowledge flight := by
  obtain ⟨former, known, same⟩ :=
    Scheduler.schedule_sameKnowledge pass ((kept_drops kept).known.subset member)
  exact ⟨former, (traces_of_change made).known former known, same⟩

/-- A flight that is pending after a command was so before, or is reported by the command. -/
theorem waiting_origin (member : flight ∈ after.pending) :
    flight ∈ before.pending ∨ service.Reports now before command flight := by
  have waits := kept_pending kept member
  rw [(pass_frame pass).1] at waits
  exact (traces_of_change made).waiting flight waits

end Carried

end Service

end ArrivalManager
