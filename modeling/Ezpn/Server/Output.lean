import Ezpn.Lib.Machine
import Ezpn.Protocol.Frame

/-!
# Client output queue

`QueuedWriter` of `connection.rs` and its worker thread. A step is one operation
on the mutex, the condition variable, an atomic or the transport, together with
the thread-local and lock-protected work that follows it.
-/

set_option autoImplicit false

namespace Ezpn

namespace Output

def queueBytes : Nat := Protocol.maxPayload + 5

def outputBlockBytes : Nat := 64 * 1024

abbrev Bytes : Type := List UInt8

/-- `AtomicUsize::fetch_sub`, which wraps around. -/
def fetchSub (n k : Nat) : Nat :=
  (n + 2 ^ 64 - k) % 2 ^ 64

/-- Where the owner of the writer stands. -/
inductive Producer where
  | idle
  /-- `flush` is about to lock the queue. -/
  | flushing
  /-- The queue is locked and open; the failure flag comes next. -/
  | checking
  /-- About to reserve room in `queued_bytes`. -/
  | reserving
  /-- The frame is queued; the lock is still held. -/
  | enqueued
  | notifying
  /-- In `fail`, with or without the lock; about to set the flag. -/
  | failing (locked : Bool)
  /-- About to shut the socket down and to return the error. -/
  | refusing (locked : Bool)
  | dropping
  | dropLocked
  | dropNotifying
  | dropped
  deriving DecidableEq, Repr

/-- Where the worker thread stands. -/
inductive Worker where
  /-- At the top of its loop. -/
  | locking
  | waiting
  /-- Holds the lock and the block it took. -/
  | popped (frame : Bytes)
  /-- In `write_all`, with `rest` still to be handed over. -/
  | writing (frame rest : Bytes)
  /-- About to take the block off `queued_bytes`. -/
  | accounting (frame : Bytes) (ok : Bool)
  /-- The queue was empty and closed; the lock is still held. -/
  | leaving
  | failing
  | closing
  | draining
  | drained
  | exited
  deriving DecidableEq, Repr

structure State where
  producer : Producer := .idle
  worker : Worker := .locking
  pending : Bytes := []
  blocks : List Bytes := []
  closed : Bool := false
  queuedBytes : Nat := 0
  failed : Bool := false
  shutdown : Bool := false
  /-- What the transport has taken. -/
  sent : Bytes := []
  /-- The frames that `flush` has queued. -/
  flushed : List Bytes := []
  /-- Some `write` or `flush` has returned an error. -/
  refused : Bool := false
  /-- Some frame did not fit. -/
  overflowed : Bool := false
  /-- The transport has failed. -/
  broken : Bool := false
  deriving DecidableEq, Repr

inductive Action where
  | write (buf : Bytes)
  | flush
  | drop
  /-- The next operation of a call in progress. -/
  | produce
  /-- The next operation of the worker. -/
  | work
  | send (n : Nat)
  | transportError
  /-- A wake-up without a notification. -/
  | wake
  deriving DecidableEq, Repr

/-- A small frame joins the last block. -/
def enqueue (blocks : List Bytes) (frame : Bytes) : List Bytes :=
  match blocks.getLast? with
  | some tail =>
      if tail.length + frame.length ≤ outputBlockBytes then blocks.dropLast ++ [tail ++ frame]
      else blocks ++ [frame]
  | none => blocks ++ [frame]

def Producer.locked : Producer → Bool
  | checking | reserving | enqueued | dropLocked => true
  | failing locked | refusing locked => locked
  | _ => false

def Worker.locked : Worker → Bool
  | popped _ | leaving | draining | drained => true
  | _ => false

/-- The block that counts as in flight. -/
def Worker.inFlight : Worker → Bytes
  | popped frame | writing frame _ | accounting frame _ => frame
  | _ => []

/-- The part of that block which the transport has not taken. -/
def Worker.unsent : Worker → Bytes
  | popped frame => frame
  | writing _ rest => rest
  | _ => []

def notifyOne : Worker → Worker
  | .waiting => .locking
  | worker => worker

namespace State

def write (buf : Bytes) (s : State) : State :=
  if s.failed || buf.length > queueBytes - s.pending.length then
    { s with producer := .failing false, overflowed := s.overflowed || !s.failed }
  else { s with pending := s.pending ++ buf }

def flush (s : State) : State :=
  if s.failed then { s with producer := .failing false }
  else if s.pending.isEmpty then s
  else { s with producer := .flushing }

/-- `fetch_update` on `queued_bytes`, and the frame queued where it succeeds. -/
def reserve (s : State) : State :=
  if s.queuedBytes + s.pending.length ≤ queueBytes then
    { s with
      producer := .enqueued
      queuedBytes := s.queuedBytes + s.pending.length
      blocks := enqueue s.blocks s.pending
      flushed := s.flushed ++ [s.pending]
      pending := [] }
  else { s with producer := .failing true, overflowed := true }

def produce (s : State) : State :=
  match s.producer with
  | .idle | .dropped => s
  | .flushing => { s with producer := if s.closed then .failing true else .checking }
  | .checking => { s with producer := if s.failed then .failing true else .reserving }
  | .reserving => s.reserve
  | .enqueued => { s with producer := .notifying }
  | .notifying => { s with producer := .idle, worker := notifyOne s.worker }
  | .failing locked => { s with producer := .refusing locked, failed := true }
  | .refusing _ => { s with producer := .idle, shutdown := true, refused := true }
  | .dropping => { s with producer := .dropLocked, closed := true }
  | .dropLocked => { s with producer := .dropNotifying }
  | .dropNotifying => { s with producer := .dropped, worker := notifyOne s.worker }

/-- The queue is locked: take a block, leave the loop, or wait with the lock released. -/
def take (s : State) : State :=
  match s.blocks with
  | frame :: blocks => { s with worker := .popped frame, blocks }
  | [] => { s with worker := if s.closed then .leaving else .waiting }

def work (s : State) : State :=
  match s.worker with
  | .waiting | .exited => s
  | .locking => s.take
  | .popped frame => { s with worker := .writing frame frame }
  | .writing frame _ => { s with worker := .accounting frame true }
  | .accounting frame ok =>
      { s with worker := if ok then .locking else .failing, queuedBytes := fetchSub s.queuedBytes frame.length }
  | .leaving => { s with worker := .failing }
  | .failing => { s with worker := .closing, failed := true }
  | .closing => { s with worker := .draining }
  | .draining =>
      { s with
        worker := .drained
        closed := true
        blocks := []
        queuedBytes := fetchSub s.queuedBytes (s.blocks.map List.length).sum }
  | .drained => { s with worker := .exited, shutdown := true }

/-- The transport takes `n` more bytes. -/
def send (n : Nat) (s : State) : State :=
  match s.worker with
  | .writing frame rest => { s with worker := .writing frame (rest.drop n), sent := s.sent ++ rest.take n }
  | _ => s

def transportError (s : State) : State :=
  match s.worker with
  | .writing frame _ => { s with worker := .accounting frame false, broken := true }
  | _ => s

end State

def step (s : State) : Action → State
  | .write buf => s.write buf
  | .flush => s.flush
  | .drop => { s with producer := .dropping }
  | .produce => s.produce
  | .work => s.work
  | .send n => s.send n
  | .transportError => s.transportError
  | .wake => { s with worker := .locking }

/-- The lock is free for a thread that waits for it; a transport that was shut down only fails. -/
def Allowed (s : State) : Action → Prop
  | .write _ | .flush | .drop => s.producer = .idle
  | .produce =>
      match s.producer with
      | .idle | .dropped => False
      | .flushing | .dropping => s.worker.locked = false
      | _ => True
  | .work =>
      match s.worker with
      | .waiting | .exited => False
      | .locking | .closing => s.producer.locked = false
      | .writing _ rest => rest = []
      | _ => True
  | .send n =>
      match s.worker with
      | .writing _ rest => 0 < n ∧ n ≤ rest.length ∧ s.shutdown = false
      | _ => False
  | .transportError =>
      match s.worker with
      | .writing _ rest => rest ≠ []
      | _ => False
  | .wake => s.worker = .waiting

/-- The states that some interleaving reaches. -/
def Reached (s : State) : Prop :=
  Machine.Run step Allowed {} s

end Output

end Ezpn
