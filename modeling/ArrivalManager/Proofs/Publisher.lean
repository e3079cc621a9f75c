import ArrivalManager.Publisher

/-! A subscriber takes what was published for it, once and in order, whatever the others do. -/

namespace ArrivalManager

namespace Publisher

variable {publisher : Publisher} {subscription : Subscription} {events : List Event} {id other : Nat}
  {snapshot : Snapshot}

/-- What one event means for a subscription; those of other subscribers mean nothing. -/
def Event.meet (subscription : Subscription) : Event → Subscription
  | .subscribe => subscription
  | .unsubscribe id =>
    if subscription.id = id then { subscription with connected := false } else subscription
  | .abandon id =>
    if subscription.id = id then { subscription with listening := false, waiting := [] }
    else subscription
  | .publish snapshot => deliver snapshot subscription
  | .receive id => if subscription.id = id then { subscription with waiting := [] } else subscription

/-- The publisher after some events. -/
def performAll (publisher : Publisher) (events : List Event) : Publisher :=
  events.foldl (fun reached event => (reached.perform event).2) publisher

/-- What one subscriber takes when something happens: nothing, unless it is this one that receives. -/
def takenAt (id : Nat) (publisher : Publisher) : Event → List Snapshot
  | .receive other => if other = id then (publisher.receive other).1 else []
  | _ => []

/-- All that one subscriber takes in the course of some events. -/
def takenBy (id : Nat) (publisher : Publisher) : List Event → List Snapshot
  | [] => []
  | event :: rest => takenAt id publisher event ++ takenBy id (publisher.perform event).2 rest

/-- The snapshots that are published before a subscriber unsubscribes. -/
def publishedFor (id : Nat) : List Event → List Snapshot
  | [] => []
  | .publish snapshot :: rest => snapshot :: publishedFor id rest
  | .unsubscribe other :: rest => if other = id then [] else publishedFor id rest
  | _ :: rest => publishedFor id rest

/-- To send something to a subscription does not give it another number. -/
@[simp] theorem deliver_id (snapshot : Snapshot) (subscription : Subscription) :
    (deliver snapshot subscription).id = subscription.id := by
  unfold deliver
  split
  · rfl
  · split <;> rfl

/-- To send something to a subscription does not make its subscriber go away. -/
@[simp] theorem deliver_listening (snapshot : Snapshot) (subscription : Subscription) :
    (deliver snapshot subscription).listening = subscription.listening := by
  unfold deliver
  split
  · rfl
  · split <;> rfl

/-- An event does not give a subscription another number. -/
@[simp] theorem meet_id (event : Event) : (event.meet subscription).id = subscription.id := by
  cases event with
  | subscribe => rfl
  | publish snapshot => exact deliver_id snapshot subscription
  | unsubscribe id | abandon id | receive id =>
    unfold Event.meet
    dsimp only
    split <;> rfl

/-- An event changes a subscription as if it were the only one. -/
theorem subscription?_perform (found : publisher.subscription? id = some subscription)
    (event : Event) :
    (publisher.perform event).2.subscription? id = some (event.meet subscription) := by
  -- All events but a new subscription change each subscription by itself, and keep its number.
  have alone : (publisher.subscriptions.map event.meet).find? (·.id = id)
      = some (event.meet subscription) := by
    have numbers : ((fun held : Subscription => decide (held.id = id)) ∘ event.meet)
        = fun held => decide (held.id = id) := by
      funext held
      simp
    rw [List.find?_map, numbers, show publisher.subscriptions.find? _ = _ from found]
    rfl
  cases event with
  | subscribe => exact List.find?_append.trans (by rw [show List.find? _ _ = _ from found]; rfl)
  | unsubscribe other => exact alone
  | abandon other => exact alone
  | publish snapshot => exact alone
  | receive other => exact alone

/-- What a subscriber can take is what waits for it. -/
theorem receive_eq (found : publisher.subscription? id = some subscription) :
    (publisher.receive id).1 = subscription.waiting := by
  unfold receive
  rw [found]
  rfl

/-- As long as a subscriber does not go away, it listens. -/
theorem meet_listening {event : Event} (listens : subscription.listening = true)
    (stays : event ≠ .abandon subscription.id) : (event.meet subscription).listening = true := by
  cases event with
  | subscribe => exact listens
  | publish snapshot => exact (deliver_listening snapshot subscription).trans listens
  | abandon other =>
    have away : subscription.id ≠ other := fun same => stays (same ▸ rfl)
    rwa [Event.meet, if_neg away]
  | unsubscribe other | receive other =>
    unfold Event.meet
    dsimp only
    split <;> exact listens

/-- With one event, nothing that is published for a subscriber is lost, doubled or moved about. -/
theorem takenAt_append {event : Event} (found : publisher.subscription? id = some subscription)
    (listens : subscription.listening = true) (stays : event ≠ .abandon id) (later : List Event) :
    takenAt id publisher event ++ ((event.meet subscription).waiting
        ++ if (event.meet subscription).connected then publishedFor id later else [])
      = subscription.waiting
        ++ if subscription.connected then publishedFor id (event :: later) else [] := by
  obtain rfl : subscription.id = id := by simpa using List.find?_some found
  cases event with
  | subscribe => rfl
  | publish snapshot =>
    -- The snapshot is the next one to wait, unless the subscription was over before.
    cases connected : subscription.connected <;>
      simp [takenAt, Event.meet, deliver, publishedFor, connected, listens]
  | unsubscribe other =>
    by_cases own : subscription.id = other
    · simp [takenAt, Event.meet, publishedFor, own]
    · simp [takenAt, Event.meet, publishedFor, own, Ne.symm own]
  | abandon other =>
    have away : subscription.id ≠ other := fun same => stays (same ▸ rfl)
    simp [takenAt, Event.meet, publishedFor, away]
  | receive other =>
    by_cases own : other = subscription.id
    · -- All that waited is taken, and nothing of it waits any longer.
      subst own
      simp [takenAt, Event.meet, publishedFor, receive_eq found]
    · simp [takenAt, Event.meet, publishedFor, own, Ne.symm own]

/--
What a subscriber takes, and what waits for it in the end, is what was published for it.

Nothing is lost, doubled or put into another order, and no other subscriber makes a difference.
-/
theorem takenBy_append_receive (found : publisher.subscription? id = some subscription)
    (listens : subscription.listening = true) (stays : ∀ event ∈ events, event ≠ .abandon id) :
    takenBy id publisher events ++ ((publisher.performAll events).receive id).1
      = subscription.waiting
        ++ if subscription.connected then publishedFor id events else [] := by
  induction events generalizing publisher subscription with
  | nil =>
    rw [takenBy, publishedFor, ite_self, List.append_nil, List.nil_append]
    exact receive_eq found
  | cons event rest ih =>
    have named : subscription.id = id := by simpa using List.find?_some found
    have first : event ≠ .abandon id := stays event List.mem_cons_self
    have later := ih (subscription?_perform found event) (meet_listening listens (named ▸ first))
      fun other member => stays other (List.mem_cons_of_mem _ member)
    rw [← takenAt_append found listens first, ← later, ← List.append_assoc]
    rfl

/-- Once a subscriber went away, nothing is kept for it any more. -/
theorem receive_of_gone (found : publisher.subscription? id = some subscription)
    (gone : subscription.listening = false) (nothing : subscription.waiting = []) :
    ((publisher.performAll events).receive id).1 = [] := by
  induction events generalizing publisher subscription with
  | nil => exact (receive_eq found).trans nothing
  | cons event rest ih =>
    have still : (event.meet subscription).listening = false
        ∧ (event.meet subscription).waiting = [] := by
      cases event with
      | subscribe => exact ⟨gone, nothing⟩
      | publish snapshot =>
        unfold Event.meet deliver
        dsimp only
        rw [gone]
        split
        · exact ⟨gone, nothing⟩
        · exact ⟨rfl, nothing⟩
      | unsubscribe other | abandon other | receive other =>
        unfold Event.meet
        dsimp only
        split <;> simp [gone, nothing]
    exact ih (subscription?_perform found event) still.1 still.2

/-- With the next snapshot, the subscribers that went away are no longer counted. -/
theorem subscriberCount_publish (publisher : Publisher) (snapshot : Snapshot) :
    (publisher.publish snapshot).subscriberCount = publisher.subscriptions.countP
      fun subscription => subscription.connected && subscription.listening := by
  unfold publish subscriberCount
  rw [List.countP_map]
  congr 1
  funext subscription
  -- Of a subscription it only matters whether it is connected and whether somebody listens.
  cases connected : subscription.connected <;> cases listens : subscription.listening <;>
    simp [deliver, connected, listens]

/-- The subscriptions have numbers that were given out already. -/
def Numbered (publisher : Publisher) : Prop :=
  ∀ subscription ∈ publisher.subscriptions, subscription.id < publisher.subscriptions.length

/-- An event leaves no subscription with a number that is yet to be given out. -/
theorem Numbered.perform (numbered : publisher.Numbered) (event : Event) :
    (publisher.perform event).2.Numbered := by
  -- What changes the subscriptions each by itself keeps their numbers and how many there are.
  have alone : Numbered ⟨publisher.subscriptions.map event.meet⟩ := by
    intro subscription held
    obtain ⟨before, here, rfl⟩ := List.mem_map.mp held
    rw [meet_id, List.length_map]
    exact numbered before here
  cases event with
  | subscribe =>
    intro subscription held
    rw [show (publisher.perform .subscribe).2.subscriptions.length
      = publisher.subscriptions.length + 1 from List.length_append]
    rcases List.mem_append.mp held with before | new
    · exact Nat.lt_succ_of_lt (numbered subscription before)
    · rw [List.mem_singleton.mp new]
      exact Nat.lt_succ_self _
  | unsubscribe other => exact alone
  | abandon other => exact alone
  | publish snapshot => exact alone
  | receive other => exact alone

/-- In whatever way a publisher came about, its subscriptions are numbered. -/
theorem numbered_performAll (numbered : publisher.Numbered) :
    (publisher.performAll events).Numbered := by
  induction events generalizing publisher with
  | nil => exact numbered
  | cons event rest ih => exact ih (numbered.perform event)

/-- A new subscriber is found under its number, with nothing that waits for it. -/
theorem Numbered.subscription?_subscribe (numbered : publisher.Numbered) :
    publisher.subscribe.subscription? publisher.subscriptions.length
      = some ⟨publisher.subscriptions.length, true, true, []⟩ := by
  have unused : publisher.subscriptions.find? (·.id = publisher.subscriptions.length) = none := by
    refine List.find?_eq_none.mpr fun subscription held => ?_
    simpa using Nat.ne_of_lt (numbered subscription held)
  refine List.find?_append.trans ?_
  rw [unused]
  simp

/--
From when it subscribes on, a subscriber takes what is published until it unsubscribes.

Whatever happened before does not matter, and neither does what the other subscribers do.
-/
theorem subscribe_takes (earlier later : List Event) :
    let publisher := empty.performAll earlier
    let id := publisher.subscriptions.length
    (∀ event ∈ later, event ≠ .abandon id) →
      takenBy id publisher.subscribe later ++ ((publisher.subscribe.performAll later).receive id).1
        = publishedFor id later := by
  intro publisher id stays
  have numbered : publisher.Numbered := numbered_performAll fun _ held => nomatch held
  simpa using takenBy_append_receive numbered.subscription?_subscribe rfl stays

end Publisher

end ArrivalManager
