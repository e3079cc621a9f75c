import ArrivalManager.Proofs.Result
import ArrivalManager.Replay

/-! What a replay does, laid out as one list of events on its simulated clock. -/

namespace ArrivalManager.Replay

/-- One thing that a replay does. -/
inductive Event where
  /-- The simulated clock goes on to a second. -/
  | second (second : Int)
  /-- A record is handed on. -/
  | update (record : Record)
  /-- Every airport is recomputed. -/
  | recomputation

namespace Event

/-- The second that the clock goes on to, if it does. -/
def second? : Event → Option Int
  | .second reached => some reached
  | _ => none

/-- The record that is handed on, if one is. -/
def record? : Event → Option Record
  | .update record => some record
  | _ => none

end Event

/-- A replay after one more event, which takes place at the time that the clock shows. -/
def perform (service : Service) (midnight : Instant) (progress : Progress) :
    Event → Except Overflow Progress
  | .second second => .ok { progress with elapsed := second }
  | .update record => deliver service midnight progress record
  | .recomputation => .ok (tickAll service midnight progress)

/-- A replay after more events, one after the other. -/
def performAll (service : Service) (midnight : Instant) (progress : Progress)
    (steps : List Event) : Except Overflow Progress :=
  steps.foldlM (perform service midnight) progress

variable {service : Service} {midnight : Instant} {progress after : Progress} {event : Event}
  {steps earlier later : List Event} {record : Record} {records : List Record} {replay : Replay}

/-- To hand on a record does not move the clock. -/
theorem deliver_elapsed (done : deliver service midnight progress record = .ok after) :
    after.elapsed = progress.elapsed := by
  unfold deliver at done
  obtain ⟨now, _, done⟩ := bind_eq_ok.mp done
  obtain ⟨update, _, done⟩ := bind_eq_ok.mp done
  obtain ⟨reply, _, done⟩ := bind_eq_ok.mp done
  cases pure_eq_ok.mp done
  rfl

/-- To recompute an airport does not move the clock, even if the recomputation overflows. -/
theorem tick_elapsed (airport : String) :
    (tick service midnight progress airport).elapsed = progress.elapsed := by
  unfold tick
  split
  · rfl
  · split
    · rfl
    · split <;> rfl

/-- To recompute every airport does not move the clock. -/
theorem tickAll_elapsed : (tickAll service midnight progress).elapsed = progress.elapsed := by
  unfold tickAll
  -- Which airports there are does not matter, and so they are fixed before the induction.
  generalize progress.registry.airports = airports
  induction airports generalizing progress with
  | nil => rfl
  | cons airport rest ih =>
    rw [List.foldl_cons, ih]
    exact tick_elapsed airport

/-- Only the clock's own event moves the clock. -/
theorem perform_elapsed (done : perform service midnight progress event = .ok after) :
    after.elapsed = event.second?.getD progress.elapsed := by
  cases event with
  | second second =>
    cases done
    rfl
  | update record => exact deliver_elapsed done
  | recomputation =>
    cases done
    exact tickAll_elapsed

/-- Events after others take place in what those lead to. -/
theorem performAll_append : performAll service midnight progress (earlier ++ later)
    = (performAll service midnight progress earlier >>= fun reached =>
        performAll service midnight reached later) := List.foldlM_append

/-- While only other events take place, the clock stands still. -/
theorem performAll_elapsed (still : ∀ event ∈ steps, event.second? = none)
    (done : performAll service midnight progress steps = .ok after) :
    after.elapsed = progress.elapsed := by
  induction steps generalizing progress with
  | nil =>
    cases done
    rfl
  | cons event rest ih =>
    obtain ⟨reached, performed, done⟩ := bind_eq_ok.mp done
    rw [ih (fun other member => still other (List.mem_cons_of_mem _ member)) done,
      perform_elapsed performed, still event List.mem_cons_self]
    rfl

/-- Recomputations never overflow the replay, and are repeated as often as they come due. -/
theorem performAll_recomputations (count : Nat) :
    performAll service midnight progress (List.replicate count .recomputation)
      = .ok (Nat.repeat (tickAll service midnight) count progress) := by
  induction count with
  | zero => rfl
  | succ count ih =>
    rw [List.replicate_succ', performAll_append, ih]
    rfl

/-- The records that are handed on are those in front whose time has come. -/
theorem deliverDue_eq (waiting : List Record) :
    deliverDue service midnight waiting progress
      = (performAll service midnight progress
          ((waiting.takeWhile (·.time ≤ progress.elapsed)).map .update)).map
          (waiting.dropWhile (·.time ≤ progress.elapsed), ·) := by
  induction waiting generalizing progress with
  | nil => rfl
  | cons record rest ih =>
    unfold deliverDue
    by_cases due : record.time ≤ progress.elapsed
    · rw [if_pos due, List.takeWhile_cons_of_pos (by simpa using due),
        List.dropWhile_cons_of_pos (by simpa using due)]
      simp only [List.map_cons, performAll, List.foldlM_cons, perform]
      cases delivered : deliver service midnight progress record with
      | error overflow => rfl
      | ok reached =>
        -- The clock stands still, so the same records are due afterwards.
        have still := deliver_elapsed delivered
        simp only [Bind.bind, Except.bind]
        rw [ih, still]
        rfl
    · rw [if_neg due, List.takeWhile_cons_of_neg (by simpa using due),
        List.dropWhile_cons_of_neg (by simpa using due)]
      rfl

/-- A second that is lived through is the clock going on, then the updates due, then recomputations. -/
theorem live_eq (moment : Moment) (waiting : List Record) :
    live service midnight moment waiting progress
      = (performAll service midnight progress (.second moment.second ::
          ((waiting.takeWhile (·.time ≤ moment.second)).map .update
            ++ List.replicate moment.ticks .recomputation))).map
          (waiting.dropWhile (·.time ≤ moment.second), ·) := by
  unfold live
  rw [deliverDue_eq]
  show _ = (performAll service midnight { progress with elapsed := moment.second } _).map _
  rw [performAll_append]
  -- The updates overflow or not, and only in the latter case there are recomputations.
  cases performAll service midnight { progress with elapsed := moment.second }
      ((waiting.takeWhile (·.time ≤ moment.second)).map .update) with
  | error overflow => rfl
  | ok updated =>
    simp only [Bind.bind, Except.bind, performAll_recomputations]
    rfl

/-- Among records in the order of their times, those up to a second are the ones in front. -/
theorem takeWhile_of_ordered (ordered : records.Pairwise fun left right => left.time ≤ right.time)
    (second : Int) : records.takeWhile (·.time ≤ second) = records.filter (·.time ≤ second)
      ∧ records.dropWhile (·.time ≤ second) = records.filter (second < ·.time) := by
  induction records with
  | nil => exact ⟨rfl, rfl⟩
  | cons record rest ih =>
    obtain ⟨bound, tail⟩ := List.pairwise_cons.mp ordered
    obtain ⟨taken, dropped⟩ := ih tail
    by_cases due : record.time ≤ second
    · simp [due, taken, dropped]
    · -- Once a record is too late, so are all that follow it.
      have late : ∀ other ∈ record :: rest, second < other.time := by
        intro other member
        rcases List.mem_cons.mp member with rfl | behind
        · omega
        · have := bound other behind
          omega
      constructor
      · rw [List.takeWhile_cons_of_neg (by simpa using due)]
        refine (List.filter_eq_nil_iff.mpr fun other member => ?_).symm
        simpa using late other member
      · rw [List.dropWhile_cons_of_neg (by simpa using due)]
        exact (List.filter_eq_self.mpr fun other member => by simpa using late other member).symm

/-- Two filters after each other are one, by a condition that says the same as both of theirs. -/
theorem filter_filter_of_iff {first second both : Record → Prop} [DecidablePred first]
    [DecidablePred second] [DecidablePred both]
    (same : ∀ record, second record ∧ first record ↔ both record) :
    (records.filter (first ·)).filter (second ·) = records.filter (both ·) := by
  rw [List.filter_filter]
  refine List.filter_congr fun record _ => ?_
  rw [← Bool.decide_and, decide_eq_decide]
  exact same record

/-- The records whose time is the second at an offset. -/
def dueAt (replay : Replay) (offset : Nat) : List Record :=
  replay.records.filter (·.time = replay.first + offset)

/-- The records that wait for their time when the second at an offset begins. -/
def waitingAt (replay : Replay) (offset : Nat) : List Record :=
  replay.records.filter (replay.first + offset ≤ ·.time)

/-- What a replay does in the second at an offset. -/
def eventsAt (replay : Replay) (offset : Nat) : List Event :=
  .second (replay.first + offset) :: ((replay.dueAt offset).map .update
    ++ List.replicate (replay.moment offset).ticks .recomputation)

/-- What a replay does in so many seconds from an offset on. -/
def eventsFrom (replay : Replay) (offset seconds : Nat) : List Event :=
  (List.range' offset seconds).flatMap replay.eventsAt

/-- What a replay does from its first second to its last one. -/
def events (replay : Replay) : List Event := replay.eventsFrom 0 replay.seconds

/-- The records of a replay, in the order of their times and none of them before its first second. -/
structure Ordered (replay : Replay) : Prop where
  sorted : replay.records.Pairwise fun left right => left.time ≤ right.time
  begins : ∀ record ∈ replay.records, replay.first ≤ record.time

namespace Ordered

variable (ordered : replay.Ordered)
include ordered

/-- Of the records that wait, those due in a second are the ones of that second. -/
theorem takeWhile_waitingAt (offset : Nat) :
    (replay.waitingAt offset).takeWhile (·.time ≤ (replay.moment offset).second)
        = replay.dueAt offset
      ∧ (replay.waitingAt offset).dropWhile (·.time ≤ (replay.moment offset).second)
        = replay.waitingAt (offset + 1) := by
  have sorted : (replay.waitingAt offset).Pairwise fun left right => left.time ≤ right.time :=
    ordered.sorted.filter _
  have reached : (replay.moment offset).second = replay.first + offset := rfl
  obtain ⟨taken, dropped⟩ := takeWhile_of_ordered sorted (replay.moment offset).second
  rw [taken, dropped]
  -- Both sides are filters of all the records, by the same condition on a time.
  exact ⟨filter_filter_of_iff fun record => by omega, filter_filter_of_iff fun record => by omega⟩

/-- Seconds that are lived through are made up of their events. -/
theorem liveFrom_eq (seconds offset : Nat) :
    replay.liveFrom service midnight seconds offset (replay.waitingAt offset) progress
      = performAll service midnight progress (replay.eventsFrom offset seconds) := by
  -- The invariant of the loop is that exactly the records of later seconds still wait.
  induction seconds generalizing offset progress with
  | zero => rfl
  | succ seconds ih =>
    unfold liveFrom
    obtain ⟨due, left⟩ := ordered.takeWhile_waitingAt offset
    rw [live_eq, due, left, eventsFrom, List.range'_succ, List.flatMap_cons, performAll_append]
    show Except.map _ (performAll service midnight progress (replay.eventsAt offset)) >>= _ = _
    cases performAll service midnight progress (replay.eventsAt offset) with
    | error overflow => rfl
    | ok lived => exact ih (offset + 1)

/-- A replay is made up of its events, from its first second to its last one. -/
theorem run_eq (registry : Registry) : replay.run service midnight registry
    = performAll service midnight (replay.start registry) replay.events := by
  have waiting : replay.waitingAt 0 = replay.records :=
    List.filter_eq_self.mpr fun record listed => by simpa using ordered.begins record listed
  unfold run
  conv => lhs; rw [← waiting]
  exact ordered.liveFrom_eq replay.seconds 0

end Ordered

end ArrivalManager.Replay
