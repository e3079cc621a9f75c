import ArrivalManager.Proofs.Flight.Identity

/-! What is known of a feeder fix, apart from what was decided about it, and what leaves that alone. -/

namespace ArrivalManager

/-- What was reported of a feeder fix: which one it is, when it is expected, and how it was crossed. -/
structure FixReport where
  identifier : String
  system : Instant
  crossing : Option Crossing

/-- What was reported of a feeder fix. -/
def FeederFix.report (fix : FeederFix) : FixReport := ⟨fix.identifier, fix.times.system, fix.crossing⟩

namespace Flight

variable {flight before middle after : Flight} {time : Instant} {runway : String}

/-- What was reported of the feeder fix of a flight, if it has one. -/
def fixReport (flight : Flight) : Option FixReport := flight.fix.map (·.report)

/-- What is known of the feeder fix of a flight: what was reported, and the estimate that it has. -/
def fixKnowledge (flight : Flight) : Option (FixReport × Instant) :=
  flight.fix.map fun fix => (fix.report, fix.times.estimate)

/-- The report is part of what is known. -/
theorem fixReport_eq (flight : Flight) : flight.fixReport = flight.fixKnowledge.map (·.1) := by
  simp [fixReport, fixKnowledge, Function.comp_def]

/-- Records with the same knowledge are without a fix together. -/
theorem fix_eq_none (knowledge : after.fixKnowledge = before.fixKnowledge)
    (missing : after.fix = none) : before.fix = none := by
  unfold fixKnowledge at knowledge
  rw [missing, Option.map_none] at knowledge
  exact Option.map_eq_none_iff.mp knowledge.symm

/-- A fix has its counterpart in every record with the same knowledge. -/
theorem exists_fix {fix : FeederFix} (knowledge : after.fixKnowledge = before.fixKnowledge)
    (found : after.fix = some fix) : ∃ known, before.fix = some known
      ∧ fix.report = known.report ∧ fix.times.estimate = known.times.estimate := by
  unfold fixKnowledge at knowledge
  rw [found, Option.map_some] at knowledge
  obtain ⟨known, former, same⟩ := Option.map_eq_some_iff.mp knowledge.symm
  obtain ⟨report, estimate⟩ := Prod.mk.inj same
  exact ⟨known, former, report.symm, estimate.symm⟩

/-- Records with the same report are without a fix together as well. -/
theorem fixReport_eq_none (same : after.fixReport = before.fixReport) (missing : after.fix = none) :
    before.fix = none := by
  unfold fixReport at same
  rw [missing, Option.map_none] at same
  exact Option.map_eq_none_iff.mp same.symm

/-- A fix has its counterpart in every record with the same report. -/
theorem exists_report {fix : FeederFix} (same : after.fixReport = before.fixReport)
    (found : after.fix = some fix) :
    ∃ known, before.fix = some known ∧ known.report = fix.report := by
  unfold fixReport at same
  rw [found, Option.map_some] at same
  exact Option.map_eq_some_iff.mp same.symm

/-- One flight in two records, with the same report of its feeder fix, and active in both or neither. -/
structure Continues (before after : Flight) : Prop where
  callsign : after.callsign = before.callsign
  activated : after.activated.isSome = before.activated.isSome
  report : after.fixReport = before.fixReport

/-- A record continues itself. -/
theorem Continues.refl (flight : Flight) : flight.Continues flight := ⟨rfl, rfl, rfl⟩

/-- What continues a record is continued by a later one. -/
theorem Continues.trans (first : before.Continues middle) (second : middle.Continues after) :
    before.Continues after :=
  ⟨second.callsign.trans first.callsign, second.activated.trans first.activated,
    second.report.trans first.report⟩

/-- One flight in two records, of which not even the estimate at the feeder fix differs. -/
structure SameKnowledge (before after : Flight) : Prop where
  callsign : after.callsign = before.callsign
  activated : after.activated = before.activated
  knowledge : after.fixKnowledge = before.fixKnowledge

namespace SameKnowledge

/-- A record knows what it knows. -/
theorem refl (flight : Flight) : flight.SameKnowledge flight := ⟨rfl, rfl, rfl⟩

/-- What is known twice in a row is known at the end. -/
theorem trans (first : before.SameKnowledge middle) (second : middle.SameKnowledge after) :
    before.SameKnowledge after :=
  ⟨second.callsign.trans first.callsign, second.activated.trans first.activated,
    second.knowledge.trans first.knowledge⟩

/-- What is known is reported alike. -/
theorem continues (same : before.SameKnowledge after) : before.Continues after where
  callsign := same.callsign
  activated := by rw [same.activated]
  report := by rw [fixReport_eq, fixReport_eq, same.knowledge]

end SameKnowledge

/-- Activation concerns nothing that is known of the feeder fix. -/
theorem activate_fixKnowledge (flight : Flight) (now : Instant) :
    (flight.activate now).fixKnowledge = flight.fixKnowledge := by
  unfold activate fixKnowledge
  dsimp only
  split
  · simp [Function.comp_def, FeederFix.report, PointTimes.begin]
  · rfl

/-- Activation concerns nothing that was reported of the feeder fix. -/
theorem activate_fixReport (flight : Flight) (now : Instant) :
    (flight.activate now).fixReport = flight.fixReport := by
  rw [fixReport_eq, fixReport_eq, activate_fixKnowledge]

/-- Setting the landing time schedules the fix anew, and concerns nothing that is known of it. -/
theorem commitLandingTime_sameKnowledge (done : flight.commitLandingTime time = .ok after) :
    flight.SameKnowledge after := by
  obtain ⟨fix, shape⟩ := commitLandingTime_frame done
  refine ⟨by rw [shape], by rw [shape], ?_⟩
  unfold commitLandingTime at done
  unfold fixKnowledge
  dsimp only at done
  split at done
  · cases done
    rfl
  · rename_i fix found
    split at done
    · cases done
      rfl
    · obtain ⟨scheduled, _, done⟩ := bind_eq_ok.mp done
      cases pure_eq_ok.mp done
      simp [found, FeederFix.report]

/-- Pinning the landing time concerns nothing that is known of the fix either. -/
theorem pinLandingTime_sameKnowledge (done : flight.pinLandingTime time = .ok after) :
    flight.SameKnowledge after := by
  have marked : flight.SameKnowledge { flight with manualLandingTime := true } := ⟨rfl, rfl, rfl⟩
  exact marked.trans (commitLandingTime_sameKnowledge done)

/-- Scheduling concerns nothing that is known of the fix either. -/
theorem schedule_sameKnowledge (done : flight.schedule time runway = .ok after) :
    flight.SameKnowledge after := by
  have assigned : flight.SameKnowledge (flight.assignRunway runway flight.runwayPinned) :=
    ⟨rfl, rfl, rfl⟩
  exact assigned.trans (commitLandingTime_sameKnowledge done)

end Flight

end ArrivalManager
