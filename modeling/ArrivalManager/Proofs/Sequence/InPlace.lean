import ArrivalManager.Proofs.Sequence.Operation
import ArrivalManager.Proofs.Sequence.Run
import ArrivalManager.Sequence.InPlace

/-! What the steps of an operation leave behind when one of them is refused. -/

namespace ArrivalManager.Sequence

variable {flight : Flight} {callsign : Callsign} {operation : Operation}

namespace InPlace

variable {α β : Type}

/-- After a change, the next steps begin with the changed sequence. -/
@[simp] theorem outcome_modify (change : Sequence → Sequence) (next : PUnit → InPlace α)
    (sequence : Sequence) :
    outcome (modify change >>= next) sequence = (next ⟨⟩).outcome (change sequence) := rfl

/-- After a replacement, the next steps begin with the new sequence. -/
@[simp] theorem outcome_set (changed : Sequence) (next : PUnit → InPlace α) (sequence : Sequence) :
    outcome (set changed >>= next) sequence = (next ⟨⟩).outcome changed := rfl

/-- A look at the whole sequence hands it on to the next steps. -/
@[simp] theorem outcome_get (next : Sequence → InPlace α) (sequence : Sequence) :
    outcome (get >>= next) sequence = (next sequence).outcome sequence := rfl

/-- A look that is refused ends the steps there, with the sequence as it is at that point. -/
@[simp] theorem outcome_look (find : Sequence → Except Fault α) (next : α → InPlace β)
    (sequence : Sequence) :
    outcome (look find >>= next) sequence = match find sequence with
      | .ok found => (next found).outcome sequence
      | .error (.refused refusal) => .ok ⟨.error refusal, sequence⟩
      | .error (.overflowed overflow) => .error overflow := by
  unfold look
  rw [bind_assoc, outcome_get]
  -- In each case the layers of the monad compute.
  rcases find sequence with (refusal | overflow) | found <;> rfl

/-- To put the answer of steps in other terms changes nothing else about them. -/
theorem outcome_map (steps : InPlace α) (restate : α → β) (sequence : Sequence) :
    outcome (do return restate (← steps)) sequence
      = (steps.outcome sequence).map fun outcome => outcome.map restate := by
  -- Both sides are one run of the steps, and then a case on how it ended.
  show Except.bind (Except.bind (StateT.run (ExceptT.run steps) sequence) _) _ = _
  unfold outcome
  rcases StateT.run (ExceptT.run steps) sequence with overflow | ⟨refusal | answer, after⟩ <;> rfl

/-- In place, a flight moves as it does in one go. -/
theorem reposition_outcome (sequence : Sequence) (callsign : Callsign) (displace : Bool) :
    (reposition callsign displace).outcome sequence
      = .ok (.ofExcept sequence (sequence.reposition callsign displace)) := by
  unfold reposition tracked Sequence.reposition
  rw [outcome_look]
  cases sequence.flight? callsign with
  | none => rfl
  | some flight => rfl

/-- A flight that was tracked a moment ago is found, so that to move it is not refused. -/
theorem reposition_tracked (sequence : Sequence) (flight : Flight) (displace : Bool) :
    ∃ moved, Sequence.reposition { sequence with flights := sequence.flights ++ [flight] }
      flight.callsign displace = .ok moved := by
  unfold Sequence.reposition flight?
  cases found : findFlight (sequence.flights ++ [flight]) flight.callsign with
  | none =>
    -- The flight itself is in the list.
    simp [findFlight_eq_none] at found
  | some other => exact ⟨_, rfl⟩

/-- In place, a flight that is tracked last of all moves as it does in one go, and is not refused. -/
theorem track_reposition_outcome (sequence before : Sequence) (flight : Flight) :
    outcome (do track flight; reposition flight.callsign false) sequence
      = .ok (.ofExcept before
        (Sequence.reposition { sequence with flights := sequence.flights ++ [flight] }
          flight.callsign false)) := by
  -- As this can not be refused, it makes no difference what would be left behind if it were.
  obtain ⟨moved, done⟩ := reposition_tracked sequence flight false
  unfold track
  rw [outcome_modify, reposition_outcome, done]
  rfl

/-- A flight is checked before anything changes, and to move it last is not refused. -/
theorem addFlight_outcome (sequence : Sequence) (flight : Flight) :
    (addFlight flight).outcome sequence = .ok (.ofExcept sequence (sequence.addFlight flight)) := by
  unfold addFlight Sequence.addFlight
  rw [outcome_look]
  cases sequence.checkNew flight with
  | error refusal => rfl
  | ok checked =>
    -- The look has found what it was for, and the rest of the steps is left.
    show outcome (modify _ >>= _) sequence = _
    rw [outcome_modify]
    exact track_reposition_outcome _ _ _

/-- A flight is checked before the pending ones change. -/
theorem upsertPending_outcome (sequence : Sequence) (flight : Flight) :
    (upsertPending flight).outcome sequence
      = .ok (.ofExcept sequence do return ((), ← sequence.upsertPending flight)) := by
  unfold upsertPending Sequence.upsertPending
  rw [outcome_look]
  cases sequence.checkNew flight with
  | error refusal => rfl
  | ok checked =>
    show outcome _ sequence = _
    rw [outcome_get]
    cases (findFlight sequence.pending flight.callsign).isSome <;> rfl

/-- A flight leaves a list as the one of its name that it took the place of would have left it. -/
theorem eraseFlight_replaceFlight (flights : List Flight) (named : flight.callsign = callsign) :
    eraseFlight (replaceFlight flights flight) callsign = eraseFlight flights callsign := by
  subst named
  induction flights with
  | nil => rfl
  | cons first rest ih =>
    unfold replaceFlight
    by_cases same : first.callsign = flight.callsign
    · -- The first one of the name is replaced, and the one in its place is erased.
      simp [eraseFlight, same]
    · unfold eraseFlight at ih
      simp [eraseFlight, same, ih]

/-- A flight is marked before it leaves its list, where its mark makes no difference. -/
theorem desequence_outcome (sequence : Sequence) (callsign : Callsign) :
    (desequence callsign).outcome sequence
      = .ok (.ofExcept sequence do return ((), ← sequence.desequence callsign)) := by
  unfold desequence tracked Sequence.desequence
  rw [outcome_look]
  cases found : sequence.flight? callsign with
  | none => rfl
  | some flight =>
    show outcome (look _ >>= _) sequence = _
    rw [outcome_look]
    dsimp only
    cases marked : flight.setState .desequenced with
    | error refusal => rfl
    | ok parked =>
      -- The marked flight goes by the same name, so it is the one that is then taken out.
      have named : parked.callsign = callsign := by
        rw [Flight.setState_eq_ok marked]
        exact (findFlight_mem found).2
      show Except.ok (Outcome.mk _ { sequence with
        flights := eraseFlight (replaceFlight sequence.flights parked) callsign
        desequenced := sequence.desequenced ++ [parked] }) = _
      rw [eraseFlight_replaceFlight _ named]
      rfl

/-- A flight is marked before it leaves its list, and to move it last is not refused. -/
theorem resume_outcome (sequence : Sequence) (callsign : Callsign) (now : Instant) :
    (resume callsign now).outcome sequence
      = .ok (.ofExcept sequence (sequence.resume callsign now)) := by
  unfold resume Sequence.resume
  rw [outcome_look]
  cases found : findFlight sequence.desequenced callsign with
  | none => rfl
  | some flight =>
    show outcome (look _ >>= _) sequence = _
    rw [outcome_look]
    dsimp only
    cases marked : flight.resume now with
    | error refusal => rfl
    | ok resumed =>
      -- As before, what is put in place of the flight is taken out again.
      obtain rfl : resumed.callsign = callsign := by
        rw [(Flight.resume_eq_ok marked).2, (Flight.activate_sameArrival _ _).callsign]
        exact (findFlight_mem found).2
      show outcome (do track resumed; reposition resumed.callsign false) { sequence with
        desequenced := eraseFlight (replaceFlight sequence.desequenced resumed) resumed.callsign } = _
      rw [eraseFlight_replaceFlight _ rfl]
      exact track_reposition_outcome _ sequence resumed

/-- A slot is made before it is added. -/
theorem createSlot_outcome (sequence : Sequence) (id : SlotId) (start finish : Instant)
    (runways : List String) : (createSlot id start finish runways).outcome sequence
      = .ok (.ofExcept sequence do
        return ((), ← sequence.createSlot id start finish runways)) := by
  unfold createSlot Sequence.createSlot
  rw [outcome_look]
  cases Slot.declare id start finish runways with
  | error refusal => rfl
  | ok slot => rfl

/-- A slot gets its new window before it is put back. -/
theorem modifySlot_outcome (sequence : Sequence) (id : SlotId) (start finish : Instant) :
    (modifySlot id start finish).outcome sequence
      = .ok (.ofExcept sequence do return ((), ← sequence.modifySlot id start finish)) := by
  unfold modifySlot numbered Sequence.modifySlot
  rw [outcome_look]
  cases sequence.slot? id with
  | none => rfl
  | some slot =>
    show outcome (look _ >>= _) sequence = _
    rw [outcome_look]
    dsimp only
    cases slot.reschedule start finish with
    | error refusal => rfl
    | ok moved => rfl

/-- A slot is found before it is taken out. -/
theorem deleteSlot_outcome (sequence : Sequence) (id : SlotId) :
    (deleteSlot id).outcome sequence = .ok (.ofExcept sequence (sequence.deleteSlot id)) := by
  unfold deleteSlot numbered Sequence.deleteSlot
  rw [outcome_look]
  cases sequence.slot? id with
  | none => rfl
  | some slot => rfl

/-- A flight and its place are checked before anything changes. -/
theorem insertAdmitted_outcome (sequence : Sequence) (flight : Flight) (position : InsertPosition) :
    (insertAdmitted flight position).outcome sequence
      = Outcome.ofFaulty sequence (sequence.insertAdmitted flight position) := by
  unfold insertAdmitted track Sequence.insertAdmitted
  rw [outcome_look]
  dsimp only
  cases sequence.checkNew flight with
  | error refusal => rfl
  | ok checked =>
    show outcome (look _ >>= _) sequence = _
    rw [outcome_look]
    cases sequence.insertedLanding position with
    | error fault => cases fault <;> rfl
    | ok landing =>
      obtain ⟨time, runway⟩ := landing
      show outcome (look _ >>= _) sequence
        = Outcome.ofFaulty sequence (liftM (sequence.pinInserted flight time runway) >>= _)
      rw [outcome_look]
      dsimp only
      cases sequence.pinInserted flight time runway with
      | error overflow => rfl
      | ok pinned => rfl

/-- The retirement is forgotten first, and stays forgotten if the insertion is refused. -/
theorem insertFlight_outcome (sequence : Sequence) (flight : Flight) (position : InsertPosition) :
    (insertFlight flight position).outcome sequence = sequence.insertFlight flight position := by
  unfold insertFlight Sequence.insertFlight
  rw [outcome_modify, insertAdmitted_outcome]

/-- The flight leaves its list first, and is lost if it can not be marked. -/
theorem remove_outcome (sequence : Sequence) (callsign : Callsign) :
    (remove callsign).outcome sequence = .ok (sequence.remove callsign) := by
  unfold remove Sequence.remove
  rw [outcome_look]
  cases sequence.takeOut callsign with
  | none => rfl
  | some found =>
    obtain ⟨flight, rest⟩ := found
    show outcome (set rest >>= _) sequence = _
    rw [outcome_set, outcome_look]
    dsimp only
    cases flight.setState .removed with
    | error refusal => rfl
    | ok removed => rfl

/-- What steps settle in place is settled alike in one go, also with the answer in other terms. -/
theorem settled_map (sequence : Sequence) (result : Except Refusal (α × Sequence))
    (restate : α → Answer) :
    (Except.ok (Outcome.ofExcept sequence result) : Except Overflow _).map (·.map restate)
      = sequence.settled do
        let (answer, after) ← result
        return (restate answer, after) := by
  rcases result with refusal | ⟨answer, after⟩ <;> rfl

end InPlace

/-- The steps of an operation answer what the operation answers, and leave behind what it leaves. -/
theorem inPlace_outcome {steps : InPlace Answer} (listed : operation.inPlace = some steps)
    (scheduler : Scheduler) (sequence : Sequence) :
    steps.outcome sequence = sequence.perform scheduler operation := by
  unfold perform
  cases operation with
  | addFlight flight =>
    cases listed
    rw [InPlace.outcome_map, InPlace.addFlight_outcome, InPlace.settled_map]
  | insertFlight flight position =>
    cases listed
    -- Steps without an answer are done, which is a restatement of what they answer.
    refine (InPlace.outcome_map (InPlace.insertFlight flight position) _ sequence).trans ?_
    rw [InPlace.insertFlight_outcome]
    dsimp only
    cases sequence.insertFlight flight position <;> rfl
  | reposition callsign displace =>
    cases listed
    rw [InPlace.outcome_map, InPlace.reposition_outcome, InPlace.settled_map]
  | desequence callsign =>
    cases listed
    refine (InPlace.outcome_map (InPlace.desequence callsign) _ sequence).trans ?_
    rw [InPlace.desequence_outcome, InPlace.settled_map, bind_assoc]
    rfl
  | resume callsign now =>
    cases listed
    rw [InPlace.outcome_map, InPlace.resume_outcome, InPlace.settled_map]
  | remove callsign =>
    cases listed
    rw [InPlace.outcome_map, InPlace.remove_outcome]
    rfl
  | upsertPending flight =>
    cases listed
    refine (InPlace.outcome_map (InPlace.upsertPending flight) _ sequence).trans ?_
    rw [InPlace.upsertPending_outcome, InPlace.settled_map, bind_assoc]
    rfl
  | createSlot id start finish runways =>
    cases listed
    refine (InPlace.outcome_map (InPlace.createSlot id start finish runways) _ sequence).trans ?_
    rw [InPlace.createSlot_outcome, InPlace.settled_map, bind_assoc]
    rfl
  | modifySlot id start finish =>
    cases listed
    refine (InPlace.outcome_map (InPlace.modifySlot id start finish) _ sequence).trans ?_
    rw [InPlace.modifySlot_outcome, InPlace.settled_map, bind_assoc]
    rfl
  | deleteSlot id =>
    cases listed
    rw [InPlace.outcome_map, InPlace.deleteSlot_outcome, InPlace.settled_map]
  | _ =>
    -- The other operations have no steps.
    cases listed

end ArrivalManager.Sequence
