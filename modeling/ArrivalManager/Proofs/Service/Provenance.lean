import ArrivalManager.Proofs.Service.Origin

/-! Who supplied the data of a feeder fix: the updates that told of it, as long as it stays the same. -/

namespace ArrivalManager

open Estimation

variable {service : Service} {registry : Registry} {airport : String} {callsign : Callsign}
  {call : Call} {reply : Reply} {now : Instant} {sequence : Sequence} {flight other : Flight}
  {told more : List FixUpdate} {update : FlightUpdate}

/-- A report of a feeder fix that was told of this fix: its system estimate, and an observed crossing. -/
structure FixReport.ToldBy (report : FixReport) (told : List FixUpdate) : Prop where
  system : ∃ source ∈ told, source.identifier = report.identifier ∧ source.system = report.system
  observed : ∀ time, report.crossing = some (.observed time) →
    ∃ source ∈ told, source.identifier = report.identifier ∧ source.actualTimeOver = some time

namespace Flight

/-- A flight of whose feeder fix, if it has one, everything was told that is reported. -/
def ToldBy (flight : Flight) (told : List FixUpdate) : Prop :=
  ∀ report, flight.fixReport = some report → report.ToldBy told

/-- What was told already is not unsaid. -/
theorem ToldBy.mono (known : flight.ToldBy told) (fewer : told ⊆ more) : flight.ToldBy more := by
  intro report found
  obtain ⟨⟨source, listed, same⟩, observed⟩ := known report found
  refine ⟨⟨source, fewer listed, same⟩, fun time crossed => ?_⟩
  obtain ⟨source, listed, same⟩ := observed time crossed
  exact ⟨source, fewer listed, same⟩

/-- What was told of a flight was told of every record with the same report. -/
theorem ToldBy.congr (known : flight.ToldBy told) (same : other.fixReport = flight.fixReport) :
    other.ToldBy told := by
  unfold ToldBy
  rw [same]
  exact known

/-- Of a flight without a fix nothing needs to be told. -/
theorem toldBy_of_fixless (fixless : flight.fix = none) : flight.ToldBy told := by
  intro report found
  simp [fixReport, fixless] at found

end Flight

namespace FlightUpdate

/-- What an update makes of the report of a fix, whichever fix the update tells of. -/
def applyToReport (update : FlightUpdate) (report : FixReport) : FixReport :=
  match update.fix with
  | none => report
  | some source => { report with
      system := source.system
      crossing := report.crossing.or (source.actualTimeOver.map .observed) }

/-- An update is taken over into the report of the fix that the flight has. -/
theorem applyTo_fixReport (update : FlightUpdate) (flight : Flight) :
    (update.applyTo flight).fixReport = flight.fixReport.map update.applyToReport := by
  unfold applyTo Flight.fixReport applyToReport
  cases told : update.fix with
  | none => simp [Flight.setSystemEstimates, FeederFix.report, Function.comp_def]
  | some source =>
    cases observed : source.actualTimeOver with
    | none => simp [observed, Flight.setSystemEstimates, FeederFix.report, Function.comp_def]
    | some time =>
      simp only [observed, Option.bind_some, Flight.setSystemEstimates, Option.map_some, Option.map_map]
      congr 1
      funext fix
      -- A crossing that is known already stays what it is.
      cases crossing : fix.crossing <;> simp [FeederFix.report, FeederFix.isPassed, crossing]

/-- Everything is told of a flight that takes over an update of the fix that it has. -/
theorem applyTo_toldBy (known : flight.ToldBy told)
    (same : ∀ source, update.fix = some source → ∀ report, flight.fixReport = some report →
      source.identifier = report.identifier) :
    (update.applyTo flight).ToldBy (told ++ update.fix.toList) := by
  intro report found
  rw [applyTo_fixReport] at found
  obtain ⟨former, here, rfl⟩ := Option.map_eq_some_iff.mp found
  have before := (known.mono (List.subset_append_left told update.fix.toList)) former here
  unfold applyToReport
  cases tells : update.fix with
  | none => simpa [tells] using before
  | some source =>
    have named := same source tells former here
    have listed : source ∈ told ++ update.fix.toList := by simp [tells]
    rw [tells] at before listed
    refine ⟨⟨source, listed, named, rfl⟩, fun time crossed => ?_⟩
    -- The crossing was observed before, or is observed in this update.
    cases crossing : former.crossing with
    | some earlier => exact before.observed time (by simpa [crossing] using crossed)
    | none => exact ⟨source, listed, named, by simpa [crossing] using crossed⟩

end FlightUpdate

namespace Service

/-- Everything is told of a flight that is reported, by the update that reports it. -/
theorem reported_toldBy {airport : Airport} {reported : Flight}
    (refreshed : Gives (service.estimator.refresh airport
      (update.applyTo (service.reportedFlight update)) now) reported) :
    reported.ToldBy update.fix.toList := by
  have report : (service.reportedFlight update).fixReport
      = update.fix.map fun source => ⟨source.identifier, source.system, none⟩ := by
    simp [reportedFlight, Flight.fixReport, FeederFix.ahead, FeederFix.report, PointTimes.ofEstimate,
      Function.comp_def]
  -- The fix has the name and the system estimate of the update to begin with.
  have first : (service.reportedFlight update).ToldBy update.fix.toList := by
    intro found here
    rw [report] at here
    obtain ⟨source, told, rfl⟩ := Option.map_eq_some_iff.mp here
    exact ⟨⟨source, by simp [told], rfl, rfl⟩, fun time crossed => by cases crossed⟩
  have applied : (update.applyTo (service.reportedFlight update)).ToldBy
      (update.fix.toList ++ update.fix.toList) := by
    refine FlightUpdate.applyTo_toldBy first fun source told found here => ?_
    rw [report, told] at here
    rw [← Option.some.inj here]
  refine (applied.congr (Estimator.refresh_continues refreshed).report).mono ?_
  exact List.append_subset.mpr ⟨List.Subset.refl _, List.Subset.refl _⟩

/-- To begin to track a flight makes up no data of its fix, but for a crossing at an unknown time. -/
theorem activated_toldBy {airport : Airport} {begun : Flight}
    (given : Gives (service.activated airport flight now) begun) (known : flight.ToldBy told) :
    begun.ToldBy told := by
  obtain ⟨located, rfl, way⟩ := activated_gives given
  refine Flight.ToldBy.congr ?_ (located.activate_fixReport now)
  rcases way with ⟨_, rfl⟩ | refreshed
  · exact known
  · refine Flight.ToldBy.congr (fun report found => ?_) (Estimator.refresh_continues refreshed).report
    simp only [Flight.fixReport, Option.map_map, Option.map_eq_some_iff] at found
    obtain ⟨fix, here, rfl⟩ := found
    have reported := known fix.report (by simp [Flight.fixReport, here])
    exact ⟨reported.system, fun time crossed => by cases crossed⟩

end Service

/-- What a call to an airport tells of the feeder fix of a callsign. -/
def Call.tells (call : Call) (airport : String) (callsign : Callsign) : List FixUpdate :=
  match call.command with
  | .updateFlight update =>
    if call.airport = airport ∧ update.callsign = callsign then update.fix.toList else []
  | _ => []

/-- An update of a callsign tells of the feeder fix what it contains. -/
theorem Call.tells_of_update (here : call.airport = airport)
    (ordered : call.command = .updateFlight update) (named : update.callsign = callsign) :
    call.tells airport callsign = update.fix.toList := by
  simp [tells, ordered, here, named]

/-- A call that tells of no other feeder fix than the one that a known flight has. -/
def Registry.KeepsFix (airport : String) (callsign : Callsign) (registry : Registry) (call : Call) :
    Prop :=
  ∀ source ∈ call.tells airport callsign, ∀ sequence ∈ registry.sequence? airport,
    ∀ flight ∈ sequence.known, flight.callsign = callsign →
      ∀ fix ∈ flight.fix, source.identifier = fix.identifier

instance (airport : String) (callsign : Callsign) (registry : Registry) (call : Call) :
    Decidable (registry.KeepsFix airport callsign call) :=
  inferInstanceAs (Decidable (∀ _ ∈ _, ∀ _ ∈ _, ∀ _ ∈ _, _ → ∀ _ ∈ _, _))

namespace Service

/--
The registries that a service can come to have, with all that it was told of the fix of a callsign.

Only calls that are carried out count, and each of them is to be admitted.
-/
inductive Hears (service : Service) (airport : String) (callsign : Callsign)
    (admits : Registry → Call → Prop) : Registry → List FixUpdate → Prop where
  | empty : Hears service airport callsign admits .empty []
  | created {registry start : Registry} {told : List FixUpdate} {founded : Airport}
    (before : Hears service airport callsign admits registry told)
    (done : registry.create founded = .ok start) : Hears service airport callsign admits start told
  | removed {registry rest : Registry} {told : List FixUpdate} {given : String}
    (before : Hears service airport callsign admits registry told)
    (done : registry.remove given = .ok rest) : Hears service airport callsign admits rest told
  | rejected {registry : Registry} {told : List FixUpdate} {call : Call} {reply : Reply}
    (before : Hears service airport callsign admits registry told)
    (done : service.Replies registry call reply) (rejected : reply.isRejected = true) :
    Hears service airport callsign admits reply.registry told
  | carried {registry : Registry} {told : List FixUpdate} {call : Call} {reply : Reply}
    (before : Hears service airport callsign admits registry told)
    (done : service.Replies registry call reply) (carried : reply.isRejected = false)
    (admitted : admits registry call) :
    Hears service airport callsign admits reply.registry (told ++ call.tells airport callsign)

/-- Whatever it was told by then, a service can come to its registry. -/
theorem Hears.reachable {admits : Registry → Call → Prop}
    (hears : service.Hears airport callsign admits registry told) : service.Reachable registry := by
  induction hears with
  | empty => exact .empty
  | created _ done ih => exact .created ih done
  | removed _ done ih => exact .removed ih done
  | rejected _ done _ ih => exact .replied ih done
  | carried _ done _ _ ih => exact .replied ih done

/-- A call that reports a flight of a callsign tells everything of it. -/
theorem reports_toldBy {before : Sequence} {reported : Flight} (here : call.airport = airport)
    (reports : service.Reports call.now before call.command reported)
    (named : reported.callsign = callsign) : reported.ToldBy (call.tells airport callsign) := by
  obtain ⟨update, ordered, refreshed⟩ := reports
  have same : reported.callsign = update.callsign :=
    (Estimator.refresh_sameArrival refreshed).callsign.trans (update.applyTo_sameArrival _).callsign
  rw [call.tells_of_update here ordered (same.symm.trans named)]
  exact reported_toldBy refreshed

/-- A call that is carried out tells everything of the flights of a callsign that was not told before. -/
theorem carried_toldBy {fresh : SlotId} {before changed after : Sequence} {slot : Option SlotId}
    {passed : Outcome Sequence Unit} (here : call.airport = airport)
    (known : ∀ flight ∈ before.held, flight.callsign = callsign → flight.ToldBy told)
    (keeps : ∀ source ∈ call.tells airport callsign, ∀ flight ∈ before.known,
      flight.callsign = callsign → ∀ fix ∈ flight.fix, source.identifier = fix.identifier)
    (made : Gives (service.change call.now fresh call.command before) ⟨.ok slot, changed⟩)
    (pass : service.scheduler.schedule changed = .ok passed)
    (kept : service.kept call.now call.command passed.after = .ok after)
    (held : flight ∈ after.held) (named : flight.callsign = callsign) :
    flight.ToldBy (told ++ call.tells airport callsign) := by
  -- What was told before is told still, and what is reported is told now.
  have former {old : Flight} (listed : old ∈ before.held) (same : old.callsign = callsign) :
      old.ToldBy (told ++ call.tells airport callsign) :=
    (known old listed same).mono (List.subset_append_left _ _)
  have reported {reported : Flight} (reports : service.Reports call.now before call.command reported)
      (same : reported.callsign = callsign) :
      reported.ToldBy (told ++ call.tells airport callsign) :=
    (reports_toldBy here reports same).mono (List.subset_append_right _ _)
  rcases List.mem_append.mp held with member | waits
  · obtain ⟨source, origin, same⟩ := exists_origin made pass kept member
    refine Flight.ToldBy.congr ?_ same.continues.report
    have renamed : source.callsign = callsign := same.callsign.symm.trans named
    cases origin with
    | kept listed continues =>
      exact (former (List.mem_append_left _ listed)
        (continues.callsign.symm.trans renamed)).congr continues.report
    | @updated old update ordered listed called continues =>
      have alike : old.callsign = callsign :=
        ((continues.callsign.trans (update.applyTo_sameArrival old).callsign).symm).trans renamed
      have tells := call.tells_of_update here ordered (called.symm.trans alike)
      rw [tells] at keeps ⊢
      refine Flight.ToldBy.congr (FlightUpdate.applyTo_toldBy
        (known old (List.mem_append_left _ listed) alike) fun source told report found => ?_)
        continues.report
      obtain ⟨fix, here, rfl⟩ := Option.map_eq_some_iff.mp found
      exact keeps source (by simp [told]) old listed alike fix here
    | @resumed old listed continues =>
      have named := continues.callsign.trans (old.activate_sameArrival call.now).callsign
      exact (former (List.mem_append_left _ listed) (named.symm.trans renamed)).congr
        (continues.report.trans (old.activate_fixReport call.now))
    | tracked reports begun =>
      have named := (activated_sameArrival begun).callsign
      exact activated_toldBy begun (reported reports (named.symm.trans renamed))
    | @inserted name typeCode place inserted ordered chosen same =>
      have named := same.callsign.trans (inserted.activate_sameArrival call.now).callsign
      refine Flight.ToldBy.congr ?_
        (same.continues.report.trans (inserted.activate_fixReport call.now))
      rcases insertedFlight_source chosen with waits | ⟨_, fixless⟩
      · exact former (List.mem_append_right _ (findFlight_mem waits).1) (named.symm.trans renamed)
      · exact Flight.toldBy_of_fixless fixless
  · rcases waiting_origin made pass kept waits with waited | reports
    · exact former (List.mem_append_right _ waited) named
    · exact reported reports named

/--
The data of a feeder fix were told of this fix, by updates of this callsign that were carried out.

This holds of every flight that is held, as long as no update tells of another fix than the one that
the flight has by then; of a pending flight it may, as what was known of that is replaced.
-/
theorem hears_toldBy
    (hears : service.Hears airport callsign (Registry.KeepsFix airport callsign) registry told)
    (found : registry.sequence? airport = some sequence) (held : flight ∈ sequence.held)
    (named : flight.callsign = callsign) : flight.ToldBy told := by
  induction hears generalizing sequence flight with
  | empty => cases found
  | created before done ih =>
    rcases Registry.mem_create done (List.mem_of_find?_eq_some found) with founded | managed
    · rw [Sequence.held_of_airport founded] at held
      cases held
    · refine ih ?_ held named
      rw [← Registry.sequence?_airport found]
      exact Registry.sequence?_of_mem (reachable_airports before.reachable) managed
  | removed before done ih =>
    have managed := Registry.mem_remove done (List.mem_of_find?_eq_some found)
    refine ih ?_ held named
    rw [← Registry.sequence?_airport found]
    exact Registry.sequence?_of_mem (reachable_airports before.reachable) managed
  | rejected before done rejected ih =>
    obtain ⟨former, found', _, succession⟩ := exists_predecessor before.reachable done found
    cases succession with
    | unchanged _ => exact ih found' held named
    | carried _ answered _ pass _ =>
      -- What is carried out is not rejected.
      rw [isRejected_of_pass pass answered] at rejected
      cases rejected
  | carried before done _ keeps ih =>
    obtain ⟨former, found', _, succession⟩ := exists_predecessor before.reachable done found
    cases succession with
    | unchanged _ => exact (ih found' held named).mono (List.subset_append_left _ _)
    | carried here _ made pass kept =>
      refine carried_toldBy here (fun flight held named => ih found' held named) ?_ made pass kept
        held named
      exact fun source tells flight known named fix here => keeps source tells former found' flight
        known named fix here

/-- The registry after some calls, with what was told by then, as long as all of them are admitted. -/
def followHearing (service : Service) (airport : String) (callsign : Callsign)
    (admits : Registry → Call → Prop) [∀ registry call, Decidable (admits registry call)]
    (registry : Registry) (told : List FixUpdate) : List Call → Option (Registry × List FixUpdate)
  | [] => some (registry, told)
  | call :: rest =>
    match service.execute registry call.airport call.now call.command with
    | .error _ => none
    | .ok reply =>
      if reply.isRejected then
        service.followHearing airport callsign admits reply.registry told rest
      else if admits registry call then
        service.followHearing airport callsign admits reply.registry
          (told ++ call.tells airport callsign) rest
      else none

/-- What is told goes on with the calls that are followed. -/
theorem Hears.follow {admits : Registry → Call → Prop}
    [∀ registry call, Decidable (admits registry call)] {calls : List Call} {last : Registry}
    (hears : service.Hears airport callsign admits registry told)
    (followed : service.followHearing airport callsign admits registry told calls = some (last, more)) :
    service.Hears airport callsign admits last more := by
  induction calls generalizing registry told with
  | nil =>
    cases followed
    exact hears
  | cons call rest ih =>
    unfold followHearing at followed
    split at followed
    · cases followed
    · rename_i reply done
      -- A call that is rejected tells nothing, and any other one has to be admitted.
      split at followed
      · rename_i rejected
        exact ih (.rejected hears (.executed done) rejected) followed
      · rename_i carried
        split at followed
        · rename_i admitted
          exact ih (.carried hears (.executed done) (by simpa using carried) admitted) followed
        · cases followed

/-- The data of a flight in range that is bound for an airport over a fix. -/
def sampleBound (identifier : String) (system : Instant) (actualTimeOver : Option Instant) : Call :=
  ⟨"YSSY", .epoch, .updateFlight { sampleUpdate "QFA1" "B789" with
    fix := some ⟨identifier, system, actualTimeOver⟩
    position := some ⟨⟨-33.9, 151.2⟩, 12000, 280.0⟩ }⟩

/-- The data of a flight that crosses its fix were all told of this fix. -/
theorem hears_toldBy_sampleBound :
    ∃ created reached told sequence flight,
      Registry.empty.create { Airport.sample with modes := [singleMode] } = .ok created
        ∧ sampleStandard.followHearing "YSSY" "QFA1" (Registry.KeepsFix "YSSY" "QFA1") created []
          [sampleBound "TESAT" .epoch none, sampleBound "TESAT" (.sampleSeconds 600) (some .epoch)]
          = some (reached, told)
        ∧ reached.sequence? "YSSY" = some sequence ∧ flight ∈ sequence.held
        ∧ flight.fix.map (·.crossing) = some (some (.observed .epoch)) ∧ flight.ToldBy told := by
  let airport : Airport := { Airport.sample with modes := [singleMode] }
  obtain ⟨created, founded⟩ : ∃ created, Registry.empty.create airport = .ok created := ⟨_, rfl⟩
  obtain ⟨⟨reached, told⟩, followed, sequence, found, flight, tracked, crossed⟩ :
      ∃ heard ∈ sampleStandard.followHearing "YSSY" "QFA1" (Registry.KeepsFix "YSSY" "QFA1") created []
          [sampleBound "TESAT" .epoch none, sampleBound "TESAT" (.sampleSeconds 600) (some .epoch)],
        ∃ sequence ∈ heard.1.sequence? "YSSY", ∃ flight ∈ sequence.flight? "QFA1",
          flight.fix.map (·.crossing) = some (some (.observed .epoch)) := by
    cases founded
    decide +kernel
  obtain ⟨listed, named⟩ := findFlight_mem tracked
  have held : flight ∈ sequence.held := List.mem_append_left _ (List.mem_append_left _ listed)
  have hears : sampleStandard.Hears "YSSY" "QFA1" (Registry.KeepsFix "YSSY" "QFA1") reached told :=
    (Hears.created .empty founded).follow followed
  exact ⟨created, reached, told, sequence, flight, founded, followed, found, held, crossed,
    hears_toldBy hears found held named⟩

/-- A tracked flight that is told of under another fix takes the data of that fix over for its own. -/
theorem hears_untold_sampleBound :
    ∃ reached told sequence flight,
      sampleStandard.Hears "YSSY" "QFA1" (fun _ _ => True) reached told
        ∧ reached.sequence? "YSSY" = some sequence ∧ flight ∈ sequence.held
        ∧ flight.callsign = "QFA1" ∧ ¬ flight.ToldBy told := by
  let airport : Airport := { Airport.sample with modes := [singleMode] }
  obtain ⟨created, founded⟩ : ∃ created, Registry.empty.create airport = .ok created := ⟨_, rfl⟩
  obtain ⟨⟨reached, told⟩, followed, sequence, found, flight, tracked, report, reported, untold⟩ :
      ∃ heard ∈ sampleStandard.followHearing "YSSY" "QFA1" (fun _ _ => True) created []
          [sampleBound "TESAT" .epoch none, sampleBound "ODALE" (.sampleSeconds 600) none],
        ∃ sequence ∈ heard.1.sequence? "YSSY", ∃ flight ∈ sequence.flight? "QFA1",
          ∃ report ∈ flight.fixReport, ∀ source ∈ heard.2,
            source.identifier = report.identifier → source.system ≠ report.system := by
    cases founded
    decide +kernel
  obtain ⟨listed, named⟩ := findFlight_mem tracked
  refine ⟨reached, told, sequence, flight, (Hears.created .empty founded).follow followed, found,
    List.mem_append_left _ (List.mem_append_left _ listed), named, fun known => ?_⟩
  obtain ⟨source, listed, named, same⟩ := (known report reported).system
  exact untold source listed named same

end Service

end ArrivalManager
