import ArrivalManager.Proofs.Replay.Course
import ArrivalManager.Proofs.Service.Spacing

/-! A replay hands on every record exactly once and at its own time, whatever the airports answer. -/

namespace ArrivalManager.Replay

variable {service : Service} {settings : Settings} {midnight : Instant} {progress reached : Progress}
  {event : Event} {steps before after : List Event} {record : Record} {records : List Record}
  {replay : Replay} {overflow : Overflow}

/-- Records are put into the order of their times. -/
theorem inTimeOrder_sorted (records : List Record) :
    (inTimeOrder records).Pairwise fun left right => left.time ≤ right.time := by
  have sorted : (inTimeOrder records).Pairwise fun left right =>
      decide (left.time ≤ right.time) = true :=
    List.pairwise_mergeSort (by simpa using fun _ _ _ => Int.le_trans)
      (by simpa using fun _ _ => Int.le_total _ _) records
  exact sorted.imp of_decide_eq_true

/-- No record is lost or doubled on the way. -/
theorem inTimeOrder_perm (records : List Record) : (inTimeOrder records).Perm records :=
  List.mergeSort_perm records _

/-- Where there are records, there is a first one in the order of their times. -/
theorem inTimeOrder_ne_nil {records : List Record} (present : records ≠ []) :
    inTimeOrder records ≠ [] := fun empty =>
  present (List.perm_nil.mp (empty ▸ (inTimeOrder_perm records).symm))

/-- Records of one time stay in the order in which they were. -/
theorem inTimeOrder_ties (records : List Record) (time : Int) :
    (inTimeOrder records).filter (·.time = time) = records.filter (·.time = time) := by
  -- The records of one time are in order already, so the sort keeps them as a sublist.
  have even : (records.filter (·.time = time)).Pairwise fun left right : Record =>
      decide (left.time ≤ right.time) = true := by
    refine List.pairwise_of_forall_mem_list fun left here right there => ?_
    have first : left.time = time := by simpa using (List.mem_filter.mp here).2
    have second : right.time = time := by simpa using (List.mem_filter.mp there).2
    simp [first, second]
  have kept : (records.filter (·.time = time)).Sublist (inTimeOrder records) :=
    List.sublist_mergeSort (by simpa using fun _ _ _ => Int.le_trans)
      (by simpa using fun _ _ => Int.le_total _ _) even List.filter_sublist
  have within : (records.filter (·.time = time)).Sublist
      ((inTimeOrder records).filter (·.time = time)) := by
    simpa only [List.filter_filter, Bool.and_self] using kept.filter (·.time = time)
  have same := ((inTimeOrder_perm records).filter (·.time = time)).length_eq
  exact (within.eq_of_length same.symm).symm

/-- In the events of one second, the records handed on are those that are due. -/
theorem eventsAt_records (replay : Replay) (offset : Nat) :
    (replay.eventsAt offset).filterMap Event.record? = replay.dueAt offset := by
  have updates : ((replay.dueAt offset).map Event.update).filterMap Event.record?
      = replay.dueAt offset := by
    rw [List.filterMap_map]
    exact List.filterMap_some
  have others (count : Nat) :
      (List.replicate count Event.recomputation).filterMap Event.record? = [] :=
    List.filterMap_replicate_of_none rfl
  rw [eventsAt, List.filterMap_cons_none rfl, List.filterMap_append, updates, others,
    List.append_nil]

/-- In the events of one second, the clock goes on once. -/
theorem eventsAt_seconds (replay : Replay) (offset : Nat) :
    (replay.eventsAt offset).filterMap Event.second? = [replay.first + offset] := by
  have updates : ((replay.dueAt offset).map Event.update).filterMap Event.second? = [] := by
    rw [List.filterMap_map]
    exact List.filterMap_none _
  have others (count : Nat) :
      (List.replicate count Event.recomputation).filterMap Event.second? = [] :=
    List.filterMap_replicate_of_none rfl
  have clock : (Event.second (replay.first + offset)).second? = some (replay.first + offset) := rfl
  rw [eventsAt, List.filterMap_cons_some clock, List.filterMap_append, updates, others,
    List.append_nil]

/-- The events of some seconds are those of the first one and those of the others. -/
theorem eventsFrom_succ (replay : Replay) (offset seconds : Nat) :
    replay.eventsFrom offset (seconds + 1)
      = replay.eventsAt offset ++ replay.eventsFrom (offset + 1) seconds := by
  rw [eventsFrom, List.range'_succ, List.flatMap_cons]
  rfl

/-- In some seconds, every record of one of them is handed on once, in the order of their times. -/
theorem Ordered.eventsFrom_records (ordered : replay.Ordered) (offset seconds : Nat) :
    (replay.eventsFrom offset seconds).filterMap Event.record?
      = replay.records.filter fun record => replay.first + offset ≤ record.time
          ∧ record.time < replay.first + offset + seconds := by
  induction seconds generalizing offset with
  | zero =>
    -- No time is both before the end of no seconds and not before their beginning.
    refine (List.filter_eq_nil_iff.mpr fun record _ => ?_).symm
    simp only [decide_eq_true_eq]
    omega
  | succ seconds ih =>
    rw [eventsFrom_succ, List.filterMap_append, eventsAt_records, ih, dueAt]
    -- In order, the records of the first second come in front of those of the others.
    have covered := ordered.sorted.filter fun record =>
      replay.first + offset ≤ record.time ∧ record.time < replay.first + offset + (seconds + 1 : Nat)
    obtain ⟨front, back⟩ := takeWhile_of_ordered covered (replay.first + offset)
    refine Eq.trans ?_ (List.takeWhile_append_dropWhile (p := (·.time ≤ replay.first + offset)))
    rw [front, back]
    congr 1
    · exact (filter_filter_of_iff fun record => by omega).symm
    · exact (filter_filter_of_iff fun record => by omega).symm

/-- The clock goes on from second to second. -/
theorem eventsFrom_seconds (replay : Replay) (offset seconds : Nat) :
    (replay.eventsFrom offset seconds).filterMap Event.second?
      = (List.range' offset seconds).map fun passed : Nat => replay.first + passed := by
  induction seconds generalizing offset with
  | zero => rfl
  | succ seconds ih =>
    -- The second at the offset is the first of the range, and the others follow it.
    rw [eventsFrom_succ, List.filterMap_append, eventsAt_seconds, ih, List.range'_succ]
    rfl

/-- Within one second, the clock shows the time of every record that is handed on. -/
theorem elapsed_in_second {offset : Nat}
    (here : replay.eventsAt offset = before ++ .update record :: after)
    (done : performAll service midnight progress before = .ok reached) :
    reached.elapsed = record.time := by
  unfold eventsAt at here
  cases before with
  | nil => cases here
  | cons clock earlier =>
    obtain ⟨rfl, tail⟩ := List.cons.inj here
    rw [List.append_eq] at tail
    -- The clock went on first, and stood still since then.
    have still : ∀ event ∈ earlier ++ .update record :: after, event.second? = none := by
      rw [← tail]
      simp only [List.mem_append, List.mem_map, List.mem_replicate]
      rintro event (⟨_, _, rfl⟩ | ⟨_, rfl⟩) <;> rfl
    -- The records that are handed on since then are those of this very second.
    have listed : Event.update record ∈ (replay.dueAt offset).map .update
        ++ List.replicate (replay.moment offset).ticks Event.recomputation := by
      rw [tail]
      exact List.mem_append_right _ List.mem_cons_self
    have due : record ∈ replay.dueAt offset := by simpa using listed
    have shows : record.time = replay.first + offset := by simpa using (List.mem_filter.mp due).2
    rw [shows, performAll_elapsed
      (fun event member => still event (List.mem_append_left _ member)) done]

/-- When a record is handed on, the clock shows the time of the record. -/
theorem elapsed_of_update {offset seconds : Nat}
    (split : replay.eventsFrom offset seconds = before ++ .update record :: after)
    (done : performAll service midnight progress before = .ok reached) :
    reached.elapsed = record.time := by
  induction seconds generalizing offset progress before with
  | zero => cases before <;> cases split
  | succ seconds ih =>
    rw [eventsFrom_succ] at split
    rcases List.append_eq_append_iff.mp split with ⟨front, rfl, rest⟩ | ⟨front, here, rest⟩
    · -- The record is handed on in a later second.
      rw [performAll_append] at done
      obtain ⟨middle, _, done⟩ := bind_eq_ok.mp done
      exact ih rest done
    · cases front with
      | nil =>
        -- The record is the first thing in a later second, right after the clock went on.
        rw [List.append_nil] at here
        subst here
        have front : replay.eventsFrom (offset + 1) seconds = [] ++ .update record :: after :=
          rest.symm
        exact ih front rfl
      | cons first others =>
        -- The record is handed on in this very second.
        obtain ⟨rfl, rfl⟩ := List.cons.inj rest
        exact elapsed_in_second here done

/-- Events overflow at one of them, after those before it came to an end. -/
theorem performAll_eq_error (failed : performAll service midnight progress steps = .error overflow) :
    ∃ before event after reached, steps = before ++ event :: after
      ∧ performAll service midnight progress before = .ok reached
      ∧ perform service midnight reached event = .error overflow := by
  induction steps generalizing progress with
  | nil => cases failed
  | cons first rest ih =>
    rcases bind_eq_error.mp failed with here | ⟨middle, performed, failed⟩
    · exact ⟨[], first, rest, progress, rfl, rfl, here⟩
    · -- The first event came to an end, so it is one more of those before.
      obtain ⟨before, event, after, reached, rfl, done, there⟩ := ih failed
      exact ⟨first :: before, event, after, reached, rfl, bind_eq_ok.mpr ⟨middle, performed, done⟩,
        there⟩

/-- Records that can be replayed: there are some, and every time that they need is on the clock. -/
structure Playable (settings : Settings) (midnight : Instant) (records : List Record) : Prop where
  nonempty : records ≠ []
  /-- The real time that a second takes, and that passes between recomputations, is represented. -/
  paced : ∃ period pause, settings.tickPeriod = .ok period
    ∧ settings.replaySpeed.adjust 1000000000 = .ok pause
  fits : ∀ record ∈ records, record.time + drainSeconds ≤ lastSecond
  dated : ∀ record ∈ records, ∃ now update, Record.instantAt midnight record.time = .ok now
    ∧ record.toUpdate midnight = .ok update

/-- The seconds from a first one to a last one. -/
def secondsBetween (first last : Int) : List Int :=
  (List.range' 0 (last - first + 1).toNat).map fun passed : Nat => first + passed

/-- One record of some is the first of them, and another one is the last. -/
structure Bounds (records : List Record) (first last : Record) : Prop where
  mem_first : first ∈ records
  mem_last : last ∈ records
  first_le : ∀ record ∈ records, first.time ≤ record.time
  le_last : ∀ record ∈ records, record.time ≤ last.time

/-- The first and the last of records in the order of their times. -/
theorem bounds_of_inTimeOrder {first last : Record} (begins : (inTimeOrder records).head? = some first)
    (ends : (inTimeOrder records).getLast? = some last) : Bounds records first last := by
  have sorted := inTimeOrder_sorted records
  have same {record : Record} : record ∈ inTimeOrder records ↔ record ∈ records :=
    (inTimeOrder_perm records).mem_iff
  obtain ⟨rest, begins⟩ := List.head?_eq_some_iff.mp begins
  obtain ⟨front, ends⟩ := List.getLast?_eq_some_iff.mp ends
  refine ⟨same.mp (by simp [begins]), same.mp (by simp [ends]), fun record listed => ?_,
    fun record listed => ?_⟩
  · -- Whatever else there is, it stands behind the first one.
    rw [← same, begins] at listed
    rw [begins] at sorted
    rcases List.mem_cons.mp listed with rfl | behind
    · exact le_refl _
    · exact (List.pairwise_cons.mp sorted).1 record behind
  · -- Whatever else there is, it stands in front of the last one.
    rw [← same, ends] at listed
    rw [ends] at sorted
    rcases List.mem_append.mp listed with before | self
    · exact (List.pairwise_append.mp sorted).2.2 record before last List.mem_cons_self
    · exact le_of_eq (congrArg Record.time (List.mem_singleton.mp self))

/-- The replay of some records, of which one is the first and one is the last. -/
structure Covers (replay : Replay) (records : List Record) (first last : Record) : Prop where
  bounds : Bounds records first last
  arranged : replay.records = inTimeOrder records
  opens : replay.first = first.time
  /-- The clock runs on beyond the last record until the last arrivals can have landed. -/
  lasts : replay.seconds = (last.time - first.time).toNat + drainSeconds + 1

/-- Records that can be replayed have a replay. -/
theorem Playable.exists_replay (playable : Playable settings midnight records) :
    ∃ replay first last, ofRecords? settings records = .ok (some replay)
      ∧ replay.Covers records first last := by
  obtain ⟨period, pause, ticks, sleeps⟩ := playable.paced
  have nonempty := inTimeOrder_ne_nil playable.nonempty
  obtain ⟨first, head⟩ := Option.ne_none_iff_exists'.mp (mt List.head?_eq_none_iff.mp nonempty)
  obtain ⟨last, tail⟩ := Option.ne_none_iff_exists'.mp (mt List.getLast?_eq_none_iff.mp nonempty)
  have bounds := bounds_of_inTimeOrder head tail
  have fits : ¬ lastSecond < last.time + drainSeconds :=
    not_lt.mpr (playable.fits last bounds.mem_last)
  let replay : Replay :=
    { records := inTimeOrder records
      first := first.time
      seconds := (last.time - first.time).toNat + drainSeconds + 1
      pause, period }
  refine ⟨replay, first, last, ?_, ⟨bounds, rfl, rfl, rfl⟩⟩
  unfold ofRecords?
  simp only [head, tail, ticks, sleeps, Bind.bind, Except.bind, if_neg fits]
  rfl

namespace Covers

variable {first last : Record} (covers : replay.Covers records first last)
include covers

/-- The records of a replay are in order, from its first second on. -/
theorem ordered : replay.Ordered := by
  constructor
  · rw [covers.arranged]
    exact inTimeOrder_sorted records
  · intro record listed
    rw [covers.arranged, (inTimeOrder_perm records).mem_iff] at listed
    rw [covers.opens]
    exact covers.bounds.first_le record listed

/-- The records that are handed on are all of them, in the order of their times. -/
theorem events_records : replay.events.filterMap Event.record? = inTimeOrder records := by
  rw [events, covers.ordered.eventsFrom_records, covers.arranged]
  refine List.filter_eq_self.mpr fun record listed => ?_
  rw [(inTimeOrder_perm records).mem_iff] at listed
  have early := covers.bounds.first_le record listed
  have late := covers.bounds.le_last record listed
  rw [covers.opens, covers.lasts, decide_eq_true_eq]
  omega

/-- The seconds that the clock goes on to are those from the first record to the end of the drain. -/
theorem events_seconds :
    replay.events.filterMap Event.second? = secondsBetween first.time (last.time + drainSeconds) := by
  have after := covers.bounds.first_le last covers.bounds.mem_last
  have count : replay.seconds = (last.time + drainSeconds - first.time + 1).toNat := by
    rw [covers.lasts]
    omega
  rw [events, eventsFrom_seconds, secondsBetween, count, covers.opens]

end Covers

/-- A record is handed on to the airport that it is bound for, and its own time is taken for now. -/
structure HandsOn (service : Service) (midnight : Instant) (reached : Progress) (record : Record)
    (now : Instant) (update : FlightUpdate) : Prop where
  time : Record.instantAt midnight record.time = .ok now
  data : record.toUpdate midnight = .ok update
  /--
  The replay goes on with the registry of the reply, be it a refusal or not, and what the reply
  publishes comes on top of what was published before; nothing else changes.
  -/
  result : perform service midnight reached (.update record)
    = (service.execute reached.registry record.destination now (.updateFlight update)).map
      fun reply => { reached with
        registry := reply.registry
        published := reply.published.toList ++ reached.published }

/-- A record is handed on at its own time when that is what the clock shows. -/
theorem Playable.handsOn (playable : Playable settings midnight records) (listed : record ∈ records)
    (shows : reached.elapsed = record.time) :
    ∃ now update, HandsOn service midnight reached record now update := by
  obtain ⟨now, update, time, data⟩ := playable.dated record listed
  refine ⟨now, update, time, data, ?_⟩
  show deliver service midnight reached record = _
  have clock : Record.instantAt midnight reached.elapsed = .ok now := shows ▸ time
  unfold deliver
  rw [clock, data]
  simp only [Bind.bind, Except.bind]
  cases service.execute reached.registry record.destination now (.updateFlight update) with
  | error overflow => rfl
  | ok reply => rfl

/--
A replay delivers records: each of them exactly once and at its own time.

What happens in a replay is one list of events, which does not depend on what the airports answer.
-/
structure Delivers (replay : Replay) (service : Service) (midnight : Instant) (records : List Record) :
    Prop where
  course (registry : Registry) : replay.run service midnight registry
    = performAll service midnight (replay.start registry) replay.events
  once : (replay.events.filterMap Event.record?).Perm records
  inOrder : (replay.events.filterMap Event.record?).Pairwise fun earlier later =>
    earlier.time ≤ later.time
  /-- Records of one time are handed on in the order in which they were given. -/
  ties (time : Int) : (replay.events.filterMap Event.record?).filter (·.time = time)
    = records.filter (·.time = time)
  punctual {registry : Registry} {before : List Event} {record : Record} {after : List Event}
    {reached : Progress} (split : replay.events = before ++ .update record :: after)
    (done : performAll service midnight (replay.start registry) before = .ok reached) :
    ∃ now update, HandsOn service midnight reached record now update
  /-- No refusal ends a replay, only an overflow in the middle of an update does. -/
  goesOn {registry : Registry} {overflow : Overflow}
    (failed : replay.run service midnight registry = .error overflow) :
    ∃ before record after reached now update, replay.events = before ++ .update record :: after
      ∧ performAll service midnight (replay.start registry) before = .ok reached
      ∧ HandsOn service midnight reached record now update
      ∧ service.execute reached.registry record.destination now (.updateFlight update)
        = .error overflow
  /-- The clock goes on with its own events only. -/
  clock {progress after : Progress} {event : Event}
    (done : perform service midnight progress event = .ok after) :
    after.elapsed = event.second?.getD progress.elapsed
  /-- The clock shows each second from the first record to two hours past the last one, once. -/
  seconds : ∃ first last, Bounds records first last ∧ replay.events.filterMap Event.second?
    = secondsBetween first.time (last.time + drainSeconds)

/-- The replay of records that can be replayed delivers them. -/
theorem Playable.delivers {first last : Record} (playable : Playable settings midnight records)
    (covers : replay.Covers records first last) : replay.Delivers service midnight records := by
  have course (registry : Registry) : replay.run service midnight registry
      = performAll service midnight (replay.start registry) replay.events :=
    covers.ordered.run_eq registry
  have handedOn {registry : Registry} {before : List Event} {record : Record} {after : List Event}
      {reached : Progress} (split : replay.events = before ++ .update record :: after)
      (done : performAll service midnight (replay.start registry) before = .ok reached) :
      ∃ now update, HandsOn service midnight reached record now update := by
    have given : record ∈ replay.events.filterMap Event.record? :=
      List.mem_filterMap.mpr ⟨.update record, by simp [split], rfl⟩
    rw [covers.events_records, (inTimeOrder_perm records).mem_iff] at given
    exact playable.handsOn given (elapsed_of_update split done)
  constructor
  case course => exact course
  case once =>
    rw [covers.events_records]
    exact inTimeOrder_perm records
  case inOrder =>
    rw [covers.events_records]
    exact inTimeOrder_sorted records
  case ties =>
    intro time
    rw [covers.events_records]
    exact inTimeOrder_ties records time
  case punctual => exact handedOn
  case goesOn =>
    intro registry overflow failed
    rw [course] at failed
    obtain ⟨before, event, after, reached, split, done, there⟩ := performAll_eq_error failed
    -- Of the events, only an update can overflow.
    cases event with
    | second second => cases there
    | recomputation => cases there
    | update record =>
      obtain ⟨now, update, handed⟩ := handedOn split done
      rw [handed.result] at there
      refine ⟨before, record, after, reached, now, update, split, done, handed, ?_⟩
      cases executed : service.execute reached.registry record.destination now
          (.updateFlight update) with
      | ok reply =>
        rw [executed] at there
        cases there
      | error other =>
        rw [executed] at there
        cases there
        rfl
  case clock => exact perform_elapsed
  case seconds => exact ⟨first, last, covers.bounds, covers.events_seconds⟩

/--
Every record of a file is delivered exactly once.

The records may come in any order, share their times and be bound for any airports.
-/
theorem ofRecords_delivers (playable : Playable service.settings midnight records) :
    ∃ replay, ofRecords? service.settings records = .ok (some replay)
      ∧ (∀ registry, ofRecords service midnight registry records
        = (replay.run service midnight registry).map Progress.result)
      ∧ replay.Delivers service midnight records := by
  obtain ⟨replay, first, last, planned, covers⟩ := playable.exists_replay
  refine ⟨replay, planned, fun registry => ?_, playable.delivers covers⟩
  unfold ofRecords
  rw [planned]
  show replay.run service midnight registry >>= (fun progress => pure progress.result) = _
  cases replay.run service midnight registry <;> rfl

/-- A record of a flight that lands half an hour later. -/
def sampleRecord (time : Int) (callsign destination : String) : Record :=
  { time, callsign, destination
    typeCode := "B738"
    origin := "YMML"
    fix := none
    landing := time + 1800
    position := ⟨⟨-35.0, 149.0⟩, 24000, 420.0⟩ }

/-- Records out of order: two of one second, one before midnight and one for an unknown airport. -/
def sampleRecords : List Record :=
  [sampleRecord 90 "QFA1" "YSSY", sampleRecord 300 "VOZ2" "YXXX", sampleRecord (-30) "VOZ3" "YSSY",
    sampleRecord 90 "VOZ2" "YSSY"]

/-- The four records are delivered. -/
theorem ofRecords_delivers_sampleRecords :
    Playable Service.sampleStandard.settings .epoch sampleRecords
      ∧ ∃ replay, ofRecords? Service.sampleStandard.settings sampleRecords = .ok (some replay)
        ∧ (∀ registry, ofRecords Service.sampleStandard .epoch registry sampleRecords
          = (replay.run Service.sampleStandard .epoch registry).map Progress.result)
        ∧ replay.Delivers Service.sampleStandard .epoch sampleRecords := by
  have playable : Playable Service.sampleStandard.settings .epoch sampleRecords := by
    constructor
    case nonempty => exact List.cons_ne_nil _ _
    case paced => exact ⟨_, _, rfl, rfl⟩
    case fits => decide
    case dated =>
      simp only [sampleRecords, List.forall_mem_cons, List.not_mem_nil, false_implies, implies_true,
        and_true]
      exact ⟨⟨_, _, rfl, rfl⟩, ⟨_, _, rfl, rfl⟩, ⟨_, _, rfl, rfl⟩, ⟨_, _, rfl, rfl⟩⟩
  exact ⟨playable, ofRecords_delivers playable⟩

end ArrivalManager.Replay
