import Ezpn.Lib.LossyStream
import Ezpn.Lib.Machine

/-!
# The event bus

Every subscriber has a bounded queue. A publish takes the bus lock and visits
the subscribers in turn; their consumers take events out of the queues at any
time, also while a publish is under way.
-/

set_option autoImplicit false

namespace Ezpn.Events

def maxQueueDepth : Nat := 1000

/-- `u64::MAX` -/
def u64Max : Nat := 2 ^ 64 - 1

/-- The event vocabulary; `ts` is in ticks of the clock. -/
inductive Event where
  | sessionCreated (session : String) (ts : Nat)
  | sessionDetached (session : String) (ts : Nat)
  | paneSpawned (session : String) (pane : Nat) (command : String) (cwd : Option String) (ts : Nat)
  | paneExited (session : String) (pane : Nat) (exitCode : Option Int) (ts : Nat)
  | paneFocused (session : String) (pane ts : Nat)
  | paneCwdChanged (session : String) (pane : Nat) (cwd : String) (ts : Nat)
  | panePrompt (session : String) (pane : Nat) (exitCode : Option Int) (ts : Nat)
  | tabAdded (session : String) (tab ts : Nat)
  | tabRenamed (session : String) (tab : Nat) (name : String) (ts : Nat)
  | configReloaded (ok : Bool) (ts : Nat)
  | snapshotSaved (session path : String) (ts : Nat)
  | eventsDropped (count ts : Nat)
  deriving DecidableEq, Repr

def Event.typeTag : Event → String
  | sessionCreated .. => "session.created"
  | sessionDetached .. => "session.detached"
  | paneSpawned .. => "pane.spawned"
  | paneExited .. => "pane.exited"
  | paneFocused .. => "pane.focused"
  | paneCwdChanged .. => "pane.cwd_changed"
  | panePrompt .. => "pane.prompt"
  | tabAdded .. => "tab.added"
  | tabRenamed .. => "tab.renamed"
  | configReloaded .. => "config.reloaded"
  | snapshotSaved .. => "snapshot.saved"
  | eventsDropped .. => "events.dropped"

def Event.session : Event → Option String
  | sessionCreated session _ | sessionDetached session _ | paneSpawned session _ _ _ _ | paneExited session _ _ _
  | paneFocused session _ _ | paneCwdChanged session _ _ _ | panePrompt session _ _ _ | tabAdded session _ _
  | tabRenamed session _ _ _ | snapshotSaved session _ _ => some session
  | configReloaded .. | eventsDropped .. => none

/-- What a send puts into a queue: the synthetic `events.dropped` with its time, or a published event
with the number of matching events before it. -/
abbrev Item : Type := LossyStream.Entry Event Nat

/-- The code does not tell the two apart. -/
def Item.event : Item → Event
  | .notice count ts => .eventsDropped count ts
  | .item event _ => event

/-- What the consumer has taken is kept beside the queue, and what was published beside both. -/
structure Subscriber where
  id : Nat
  sessionFilter : Option String
  typeFilter : Option (List String)
  dropped : Nat := 0
  preferPayload : Bool := false
  queue : List Item := []
  connected : Bool := true
  received : List Item := []
  /-- every event published since the subscription -/
  published : List Event := []

inductive TrySend where
  | ok
  | full
  | disconnected

namespace Subscriber

/-- `subscriber_matches` -/
def accepts (sub : Subscriber) (event : Event) : Bool :=
  (match sub.sessionFilter with
    | some filter => event.session = some filter
    | none => true) &&
  (match sub.typeFilter with
    | some types => types.any fun t => t = event.typeTag
    | none => true)

/-- The matching events published since the subscription. -/
def matching (sub : Subscriber) : List Event := sub.published.filter sub.accepts

/-- Everything delivered: received or still queued. -/
def log (sub : Subscriber) : List Item := sub.received ++ sub.queue

/-- `SyncSender::try_send` -/
def trySend (item : Item) (sub : Subscriber) : Subscriber × TrySend :=
  if !sub.connected then (sub, .disconnected)
  else if sub.queue.length < maxQueueDepth then ({ sub with queue := sub.queue ++ [item] }, .ok)
  else (sub, .full)

/-- The consumer takes that many events, as far as there are any. -/
def receive (n : Nat) (sub : Subscriber) : Subscriber :=
  { sub with received := sub.received ++ sub.queue.take n, queue := sub.queue.drop n }

def missed (sub : Subscriber) : Subscriber := { sub with dropped := min (sub.dropped + 1) u64Max }

/-- The event itself; `false` for a subscriber that is gone. -/
def sendPayload (event : Event) (serial : Nat) (sub : Subscriber) : Subscriber × Bool :=
  match sub.trySend (.item event serial) with
  | (sub, .ok) => ({ sub with preferPayload := false }, true)
  | (sub, .full) => (sub.missed, true)
  | (sub, .disconnected) => (sub, false)

def saw (event : Event) (sub : Subscriber) : Subscriber := { sub with published := sub.published ++ [event] }

/-- The body of the loop of `publish` for a matching event. The consumer takes `before` events before the
first attempt to send, and `between` events between the notice and the event. -/
def offerMatching (event : Event) (ts before between : Nat) (sub : Subscriber) : Subscriber × Bool :=
  let serial := sub.matching.length
  let sub := sub.receive before
  if sub.dropped > 0 && !sub.preferPayload then
    match sub.trySend (.notice sub.dropped ts) with
    | (sub, .ok) => ({ sub with dropped := 0, preferPayload := true }.receive between).sendPayload event serial
    | (sub, .full) => (sub.missed, true)
    | (sub, .disconnected) => (sub, false)
  else sub.sendPayload event serial

/-- One subscriber's part of `publish`. -/
def offer (event : Event) (ts before between : Nat) (sub : Subscriber) : Subscriber × Bool :=
  let (after, kept) := if sub.accepts event then sub.offerMatching event ts before between else (sub, true)
  (after.saw event, kept)

end Subscriber

structure EventBus where
  nextId : Nat := 1
  subs : List Subscriber := []

/-- What happens to the bus: calls that take the lock, and consumers. -/
inductive BusOp where
  | subscribe (sessionFilter : Option String) (typeFilter : Option (List String))
  | unsubscribe (id : Nat)
  /-- how many events each consumer takes while the publish reaches its subscriber -/
  | publish (event : Event) (ts : Nat) (takes : Nat → Nat × Nat)
  | receive (id n : Nat)
  /-- the receiver is gone -/
  | disconnect (id : Nat)

namespace EventBus

def subscribe (sessionFilter : Option String) (typeFilter : Option (List String)) (bus : EventBus) : EventBus :=
  { nextId := bus.nextId + 1, subs := bus.subs ++ [{ id := bus.nextId, sessionFilter, typeFilter }] }

def unsubscribe (id : Nat) (bus : EventBus) : EventBus := { bus with subs := bus.subs.filter fun sub => sub.id ≠ id }

def publish (event : Event) (ts : Nat) (takes : Nat → Nat × Nat) (bus : EventBus) : EventBus :=
  let offered := bus.subs.map fun sub => sub.offer event ts (takes sub.id).1 (takes sub.id).2
  let toRemove := (offered.filter fun entry => !entry.2).map fun entry => entry.1.id
  { bus with subs := (offered.map fun entry => entry.1).filter fun sub => !toRemove.contains sub.id }

def atSubscriber (id : Nat) (change : Subscriber → Subscriber) (bus : EventBus) : EventBus :=
  { bus with subs := bus.subs.map fun sub => if sub.id = id then change sub else sub }

def step (bus : EventBus) : BusOp → EventBus
  | .subscribe sessionFilter typeFilter => bus.subscribe sessionFilter typeFilter
  | .unsubscribe id => bus.unsubscribe id
  | .publish event ts takes => bus.publish event ts takes
  | .receive id n => bus.atSubscriber id (Subscriber.receive n)
  | .disconnect id => bus.atSubscriber id fun sub => { sub with connected := false }

end EventBus

end Ezpn.Events
