import ArrivalManager.Sequence

/-! Snapshots handed on to subscribers, none of which can hold up the others. -/

namespace ArrivalManager

/-- One subscriber and the snapshots that wait for it. -/
structure Subscription where
  id : Nat
  /-- Snapshots published from now on are sent here. -/
  connected : Bool
  /-- The subscriber still takes what is sent. -/
  listening : Bool
  /-- What was sent and not taken yet, oldest first. -/
  waiting : List Snapshot

/-- Every subscription ever made. -/
structure Publisher where
  subscriptions : List Subscription

namespace Publisher

/-- No subscription was made yet. -/
def empty : Publisher := ⟨[]⟩

/-- The publisher with one of its subscriptions changed. -/
def modify (publisher : Publisher) (id : Nat) (change : Subscription → Subscription) :
    Publisher :=
  ⟨publisher.subscriptions.map fun subscription =>
    if subscription.id = id then change subscription else subscription⟩

/-- Adds a subscription under the next number. -/
def subscribe (publisher : Publisher) : Publisher :=
  ⟨publisher.subscriptions ++ [⟨publisher.subscriptions.length, true, true, []⟩]⟩

/-- Ends a subscription; what was sent before can still be taken. -/
def unsubscribe (publisher : Publisher) (id : Nat) : Publisher :=
  publisher.modify id fun subscription => { subscription with connected := false }

/-- The subscriber goes away; the publisher notices when it publishes next. -/
def abandon (publisher : Publisher) (id : Nat) : Publisher :=
  publisher.modify id fun subscription =>
    { subscription with listening := false, waiting := [] }

/-- The subscriptions that snapshots are sent to. -/
def subscriberCount (publisher : Publisher) : Nat :=
  publisher.subscriptions.countP (·.connected)

/-- Sends a snapshot to one subscription, and disconnects it if nobody listens any more. -/
def deliver (snapshot : Snapshot) (subscription : Subscription) : Subscription :=
  if ¬ subscription.connected then subscription
  else if subscription.listening then
    { subscription with waiting := subscription.waiting ++ [snapshot] }
  else { subscription with connected := false }

/-- Sends a snapshot to every subscription. -/
def publish (publisher : Publisher) (snapshot : Snapshot) : Publisher :=
  ⟨publisher.subscriptions.map (deliver snapshot)⟩

/-- The subscription with this number. -/
def subscription? (publisher : Publisher) (id : Nat) : Option Subscription :=
  publisher.subscriptions.find? (·.id = id)

/-- Takes all that waits for a subscriber. -/
def receive (publisher : Publisher) (id : Nat) : List Snapshot × Publisher :=
  (((publisher.subscription? id).map (·.waiting)).getD [],
    publisher.modify id fun subscription => { subscription with waiting := [] })

/-- What can happen between a publisher and its subscribers, as data. -/
inductive Event where
  | subscribe
  | unsubscribe (id : Nat)
  | abandon (id : Nat)
  | publish (snapshot : Snapshot)
  | receive (id : Nat)

/-- Lets something happen; the answer is what a subscriber took, if it did. -/
def perform (publisher : Publisher) : Event → Option (List Snapshot) × Publisher
  | .subscribe => (none, publisher.subscribe)
  | .unsubscribe id => (none, publisher.unsubscribe id)
  | .abandon id => (none, publisher.abandon id)
  | .publish snapshot => (none, publisher.publish snapshot)
  | .receive id =>
    let (taken, rest) := publisher.receive id
    (some taken, rest)

end Publisher

end ArrivalManager
