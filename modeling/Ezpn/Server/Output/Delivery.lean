import Ezpn.Server.Output

/-!
# What the output queue delivers

Invariants of every interleaving of the writer and its worker, and from them
the order, the accounting and the delivery of frames.
-/

set_option autoImplicit false

namespace Ezpn

namespace Output

theorem enqueue_flatten (blocks : List Bytes) (frame : Bytes) : (enqueue blocks frame).flatten = blocks.flatten ++ frame := by
  unfold enqueue
  cases last : blocks.getLast? with
  | none => simp
  | some tail =>
      obtain ⟨front, rfl⟩ := List.getLast?_eq_some_iff.mp last
      simp only
      split
      · simp
      · simp

theorem fetchSub_eq {n k : Nat} (le : k ≤ n) (fits : n ≤ queueBytes) : fetchSub n k = n - k := by
  have small : queueBytes < 2 ^ 64 := by decide
  unfold fetchSub
  omega

/-! ## Mutual exclusion and accounting -/

structure Counted (s : State) : Prop where
  exclusive : s.producer.locked = true → s.worker.locked = false
  counted : s.queuedBytes = s.blocks.flatten.length + s.worker.inFlight.length
  bounded : s.queuedBytes ≤ queueBytes
  pending : s.pending.length ≤ queueBytes

theorem notifyOne_locked (worker : Worker) : (notifyOne worker).locked = worker.locked := by
  cases worker <;> rfl

theorem notifyOne_inFlight (worker : Worker) : (notifyOne worker).inFlight = worker.inFlight := by
  cases worker <;> rfl

theorem Counted.produce {s : State} (inv : Counted s) (allowed : Allowed s .produce) : Counted s.produce := by
  obtain ⟨exclusive, counted, bounded, pending⟩ := inv
  unfold Allowed at allowed
  unfold State.produce
  cases at_ : s.producer with
  | idle => exact ⟨exclusive, counted, bounded, pending⟩
  | dropped => exact ⟨exclusive, counted, bounded, pending⟩
  | flushing =>
      rw [at_] at allowed
      exact ⟨fun _ => allowed, counted, bounded, pending⟩
  | checking =>
      exact ⟨fun _ => exclusive (by rw [at_]; rfl), counted, bounded, pending⟩
  | reserving =>
      have free := exclusive (by rw [at_]; rfl)
      simp only [State.reserve]
      split
      · rename_i fits
        refine ⟨fun _ => free, ?_, fits, Nat.zero_le _⟩
        simp only [enqueue_flatten, List.length_append]
        omega
      · exact ⟨fun _ => free, counted, bounded, pending⟩
  | enqueued => exact ⟨fun held => (by cases held), counted, bounded, pending⟩
  | notifying =>
      refine ⟨fun held => (by cases held), ?_, bounded, pending⟩
      simp only [notifyOne_inFlight]
      exact counted
  | failing locked =>
      refine ⟨fun held => exclusive ?_, counted, bounded, pending⟩
      rw [at_]
      exact held
  | refusing locked => exact ⟨fun held => (by cases held), counted, bounded, pending⟩
  | dropping =>
      rw [at_] at allowed
      exact ⟨fun _ => allowed, counted, bounded, pending⟩
  | dropLocked => exact ⟨fun held => (by cases held), counted, bounded, pending⟩
  | dropNotifying =>
      refine ⟨fun held => (by cases held), ?_, bounded, pending⟩
      simp only [notifyOne_inFlight]
      exact counted

theorem Counted.work {s : State} (inv : Counted s) (allowed : Allowed s .work) : Counted s.work := by
  obtain ⟨exclusive, counted, bounded, pending⟩ := inv
  unfold Allowed at allowed
  unfold State.work
  cases at_ : s.worker with
  | waiting => exact ⟨exclusive, counted, bounded, pending⟩
  | exited => exact ⟨exclusive, counted, bounded, pending⟩
  | locking =>
      rw [at_] at allowed counted
      simp only [State.take]
      split
      · rename_i frame blocks queued
        rw [queued] at counted
        refine ⟨fun held => absurd (allowed.symm.trans held) Bool.false_ne_true, ?_, bounded, pending⟩
        simp only [List.flatten_cons, List.length_append, Worker.inFlight, List.length_nil] at counted ⊢
        omega
      · rename_i empty
        refine ⟨fun held => absurd (allowed.symm.trans held) Bool.false_ne_true, ?_, bounded, pending⟩
        rw [empty] at counted
        simp only [empty]
        rw [counted]
        split
        · rfl
        · rfl
  | popped frame =>
      rw [at_] at counted
      exact ⟨fun _ => rfl, counted, bounded, pending⟩
  | writing frame rest =>
      rw [at_] at counted
      exact ⟨fun _ => rfl, counted, bounded, pending⟩
  | accounting frame ok =>
      rw [at_] at counted
      simp only [Worker.inFlight] at counted
      have covered : frame.length ≤ s.queuedBytes := by omega
      have less := fetchSub_eq covered bounded
      refine ⟨fun _ => by cases ok <;> rfl, ?_, by simp only [less]; omega, pending⟩
      cases ok with
      | true =>
          simp only [less, Worker.inFlight, if_true, List.length_nil]
          omega
      | false =>
          simp only [less, Worker.inFlight, Bool.false_eq_true, if_false, List.length_nil]
          omega
  | leaving =>
      rw [at_] at counted
      exact ⟨fun _ => rfl, counted, bounded, pending⟩
  | failing =>
      rw [at_] at counted
      exact ⟨fun _ => rfl, counted, bounded, pending⟩
  | closing =>
      rw [at_] at counted allowed
      exact ⟨fun held => absurd (allowed.symm.trans held) Bool.false_ne_true, counted, bounded, pending⟩
  | draining =>
      rw [at_] at counted exclusive
      simp only [Worker.inFlight, List.length_nil, Nat.add_zero, List.length_flatten] at counted
      have covered : (s.blocks.map List.length).sum ≤ s.queuedBytes := by omega
      have less := fetchSub_eq covered bounded
      refine ⟨exclusive, ?_, by simp only [less]; omega, pending⟩
      simp only [less, List.flatten_nil, List.length_nil, Worker.inFlight]
      omega
  | drained =>
      rw [at_] at counted
      exact ⟨fun _ => rfl, counted, bounded, pending⟩

theorem Counted.step {s : State} {a : Action} (inv : Counted s) (allowed : Allowed s a) : Counted (step s a) := by
  cases a with
  | write buf =>
      obtain ⟨exclusive, counted, bounded, pending⟩ := inv
      simp only [Output.step, State.write]
      split
      · exact ⟨fun held => (by cases held), counted, bounded, pending⟩
      · rename_i fits
        simp only [Bool.or_eq_true, decide_eq_true_eq, not_or] at fits
        refine ⟨exclusive, counted, bounded, ?_⟩
        simp only [List.length_append]
        omega
  | flush =>
      obtain ⟨exclusive, counted, bounded, pending⟩ := inv
      simp only [Output.step, State.flush]
      split
      · exact ⟨fun held => (by cases held), counted, bounded, pending⟩
      · split
        · exact ⟨exclusive, counted, bounded, pending⟩
        · exact ⟨fun held => (by cases held), counted, bounded, pending⟩
  | drop => exact ⟨fun held => (by cases held), inv.counted, inv.bounded, inv.pending⟩
  | produce => exact inv.produce allowed
  | work => exact inv.work allowed
  | send n =>
      obtain ⟨exclusive, counted, bounded, pending⟩ := inv
      simp only [Output.step, State.send]
      split
      · rename_i frame rest here
        rw [here] at counted
        exact ⟨fun _ => rfl, counted, bounded, pending⟩
      · exact ⟨exclusive, counted, bounded, pending⟩
  | transportError =>
      obtain ⟨exclusive, counted, bounded, pending⟩ := inv
      simp only [Output.step, State.transportError]
      split
      · rename_i frame rest here
        rw [here] at counted
        exact ⟨fun _ => rfl, counted, bounded, pending⟩
      · exact ⟨exclusive, counted, bounded, pending⟩
  | wake =>
      obtain ⟨exclusive, counted, bounded, pending⟩ := inv
      have waiting : s.worker = .waiting := allowed
      rw [waiting] at counted
      exact ⟨fun _ => rfl, counted, bounded, pending⟩

/-! ## Order -/

/-- The worker is leaving its loop: its last look found the queue empty and closed, or the transport failed. -/
def Worker.ended : Worker → Bool
  | accounting _ false | leaving | failing | closing | draining | drained | exited => true
  | _ => false

/-- The worker has not seen the transport fail. -/
def Worker.live : Worker → Bool
  | locking | waiting | popped _ | writing _ _ | accounting _ true | leaving => true
  | _ => false

/-- What was sent, what was lost to a failed transport and what is queued make up the flushed frames. -/
structure Ordered (s : State) : Prop where
  ordered : ∃ lost, s.sent ++ (lost ++ s.blocks.flatten) = s.flushed.flatten ∧ (s.broken = false → lost = s.worker.unsent)
  opened : s.producer = .checking ∨ s.producer = .reserving → s.closed = false
  ended : s.broken = false → s.worker.ended = true → s.closed = true ∧ s.blocks = []
  live : s.worker.live = true → s.broken = false

theorem notifyOne_unsent (worker : Worker) : (notifyOne worker).unsent = worker.unsent := by
  cases worker <;> rfl

theorem notifyOne_ended (worker : Worker) : (notifyOne worker).ended = worker.ended := by
  cases worker <;> rfl

theorem notifyOne_live (worker : Worker) : (notifyOne worker).live = worker.live := by
  cases worker <;> rfl

/-- A step that moves only the producer, to a place where it does not rely on an open queue. -/
theorem Ordered.moved {s : State} (inv : Ordered s) {producer : Producer} (elsewhere : producer ≠ .checking ∧ producer ≠ .reserving) :
    Ordered { s with producer } :=
  ⟨inv.ordered, fun relies => relies.elim (absurd · elsewhere.1) (absurd · elsewhere.2), inv.ended, inv.live⟩

theorem Ordered.notified {s : State} (inv : Ordered s) : Ordered { s with worker := notifyOne s.worker } := by
  obtain ⟨ordered, opened, ended, live⟩ := inv
  refine ⟨?_, opened, ?_, ?_⟩
  · simp only [notifyOne_unsent]
    exact ordered
  · simp only [notifyOne_ended]
    exact ended
  · simp only [notifyOne_live]
    exact live

theorem Ordered.produce {s : State} (inv : Ordered s) : Ordered s.produce := by
  unfold State.produce
  cases at_ : s.producer with
  | idle => exact inv
  | dropped => exact inv
  | flushing =>
      refine ⟨inv.ordered, fun relies => ?_, inv.ended, inv.live⟩
      cases closed : s.closed with
      | true => simp [closed] at relies
      | false => rfl
  | checking =>
      have opened := inv.opened (.inl at_)
      refine ⟨inv.ordered, fun _ => opened, inv.ended, inv.live⟩
  | reserving =>
      have opened := inv.opened (.inr at_)
      simp only [State.reserve]
      split
      · obtain ⟨lost, whole, same⟩ := inv.ordered
        refine ⟨⟨lost, ?_, same⟩, fun relies => opened, fun intact ended => ?_, inv.live⟩
        · simp only [enqueue_flatten, List.flatten_append, List.flatten_cons, List.flatten_nil, List.append_nil, ← whole,
            List.append_assoc]
        · have closed := (inv.ended intact ended).1
          rw [opened] at closed
          cases closed
      · exact ⟨inv.ordered, fun _ => opened, inv.ended, inv.live⟩
  | enqueued => exact inv.moved (by simp)
  | notifying => exact inv.notified.moved (by simp)
  | failing locked => exact ⟨inv.ordered, fun relies => by simp at relies, inv.ended, inv.live⟩
  | refusing locked => exact ⟨inv.ordered, fun relies => by simp at relies, inv.ended, inv.live⟩
  | dropping =>
      exact ⟨inv.ordered, fun relies => by simp at relies, fun intact ended => ⟨rfl, (inv.ended intact ended).2⟩, inv.live⟩
  | dropLocked => exact inv.moved (by simp)
  | dropNotifying => exact inv.notified.moved (by simp)

theorem Ordered.work {s : State} (inv : Ordered s) (counted : Counted s) (allowed : Allowed s .work) : Ordered s.work := by
  obtain ⟨⟨lost, whole, same⟩, opened, ended, live⟩ := inv
  unfold Allowed at allowed
  unfold State.work
  cases at_ : s.worker with
  | waiting => exact ⟨⟨lost, whole, same⟩, opened, ended, live⟩
  | exited => exact ⟨⟨lost, whole, same⟩, opened, ended, live⟩
  | locking =>
      have intact : s.broken = false := live (by rw [at_]; rfl)
      have nothing : lost = [] := by rw [same intact, at_]; rfl
      subst nothing
      simp only [State.take]
      split
      · rename_i frame blocks queued
        refine ⟨⟨frame, ?_, fun _ => rfl⟩, opened, fun _ ended => (by cases ended), fun _ => intact⟩
        rw [queued] at whole
        simpa using whole
      · rename_i empty
        rw [empty] at whole
        refine ⟨⟨[], by rw [empty]; exact whole, fun _ => ?_⟩, opened, fun _ ended => ?_, fun _ => intact⟩
        · cases s.closed <;> rfl
        · cases closed : s.closed with
          | true => exact ⟨rfl, empty⟩
          | false =>
              simp only [closed] at ended
              cases ended
  | popped frame =>
      rw [at_] at same live
      exact ⟨⟨lost, whole, same⟩, opened, fun _ ended => (by cases ended), live⟩
  | writing frame rest =>
      rw [at_] at same live allowed
      simp only at allowed
      rw [allowed] at same
      exact ⟨⟨lost, whole, same⟩, opened, fun _ ended => (by cases ended), live⟩
  | accounting frame ok =>
      rw [at_] at same ended live
      cases ok with
      | true => exact ⟨⟨lost, whole, same⟩, opened, fun _ ended => (by cases ended), live⟩
      | false => exact ⟨⟨lost, whole, same⟩, opened, fun intact _ => ended intact rfl, fun live => (by cases live)⟩
  | leaving =>
      rw [at_] at same ended live
      exact ⟨⟨lost, whole, same⟩, opened, ended, fun live => (by cases live)⟩
  | failing =>
      rw [at_] at same ended live
      exact ⟨⟨lost, whole, same⟩, opened, ended, fun live => (by cases live)⟩
  | closing =>
      rw [at_] at same ended live
      exact ⟨⟨lost, whole, same⟩, opened, ended, fun live => (by cases live)⟩
  | draining =>
      rw [at_] at same ended live
      refine ⟨⟨lost ++ s.blocks.flatten, by simpa using whole, fun intact => ?_⟩, fun relies => ?_, fun _ _ => ⟨rfl, rfl⟩,
        fun live => (by cases live)⟩
      · rw [same intact, (ended intact rfl).2]
        rfl
      · have held : s.worker.locked = true := by rw [at_]; rfl
        have free : s.worker.locked = false := counted.exclusive (by rcases relies with here | here <;> rw [here] <;> rfl)
        rw [held] at free
        cases free
  | drained =>
      rw [at_] at same ended live
      exact ⟨⟨lost, whole, same⟩, opened, ended, fun live => (by cases live)⟩

theorem Ordered.step {s : State} {a : Action} (inv : Ordered s) (counted : Counted s) (allowed : Allowed s a) :
    Ordered (step s a) := by
  cases a with
  | write buf =>
      simp only [Output.step, State.write]
      split
      · exact ⟨inv.ordered, fun relies => by simp at relies, inv.ended, inv.live⟩
      · exact ⟨inv.ordered, inv.opened, inv.ended, inv.live⟩
  | flush =>
      simp only [Output.step, State.flush]
      split
      · exact inv.moved (by simp)
      · split
        · exact inv
        · exact inv.moved (by simp)
  | drop => exact inv.moved (by simp)
  | produce => exact inv.produce
  | work => exact inv.work counted allowed
  | send n =>
      obtain ⟨⟨lost, whole, same⟩, opened, ended, live⟩ := inv
      simp only [Output.step, State.send]
      split
      · rename_i frame rest here
        rw [here] at same live
        have unsent : lost = rest := same (live rfl)
        refine ⟨⟨rest.drop n, ?_, fun _ => rfl⟩, opened, fun _ ended => (by cases ended), live⟩
        rw [← whole, unsent, List.append_assoc, ← List.append_assoc (rest.take n), List.take_append_drop]
      · exact ⟨⟨lost, whole, same⟩, opened, ended, live⟩
  | transportError =>
      obtain ⟨⟨lost, whole, same⟩, opened, ended, live⟩ := inv
      simp only [Output.step, State.transportError]
      split
      · exact ⟨⟨lost, whole, fun intact => (by cases intact)⟩, opened, fun intact => (by cases intact), fun live => (by cases live)⟩
      · exact ⟨⟨lost, whole, same⟩, opened, ended, live⟩
  | wake =>
      obtain ⟨⟨lost, whole, same⟩, opened, ended, live⟩ := inv
      have waiting : s.worker = .waiting := allowed
      rw [waiting] at same live
      exact ⟨⟨lost, whole, same⟩, opened, fun _ ended => (by cases ended), live⟩

/-! ## Refusal -/

/-- A call in progress that may still queue a frame. -/
def Producer.accepting : Producer → Bool
  | flushing | checking | reserving => true
  | _ => false

structure Refusing (s : State) : Prop where
  stored : ∀ locked, s.producer = .refusing locked → s.failed = true
  refused : s.refused = true → s.failed = true ∧ s.producer.accepting = false

theorem Refusing.clear {s : State} (inv : Refusing s) (accepting : s.producer.accepting = true) : s.refused ≠ true := by
  intro was
  rw [(inv.refused was).2] at accepting
  cases accepting

theorem Refusing.produce {s : State} (inv : Refusing s) : Refusing s.produce := by
  unfold State.produce
  cases at_ : s.producer with
  | idle => exact inv
  | dropped => exact inv
  | flushing =>
      refine ⟨fun locked moved => ?_, fun was => absurd was (inv.clear (by rw [at_]; rfl))⟩
      cases closed : s.closed <;> simp [closed] at moved
  | checking =>
      refine ⟨fun locked moved => ?_, fun was => absurd was (inv.clear (by rw [at_]; rfl))⟩
      cases failed : s.failed <;> simp [failed] at moved
  | reserving =>
      have clear := inv.clear (by rw [at_]; rfl)
      simp only [State.reserve]
      split
      · exact ⟨fun locked moved => (by cases moved), fun was => absurd was clear⟩
      · exact ⟨fun locked moved => (by cases moved), fun was => absurd was clear⟩
  | enqueued => exact ⟨fun locked moved => (by cases moved), fun was => ⟨(inv.refused was).1, rfl⟩⟩
  | notifying => exact ⟨fun locked moved => (by cases moved), fun was => ⟨(inv.refused was).1, rfl⟩⟩
  | failing locked => exact ⟨fun _ _ => rfl, fun _ => ⟨rfl, rfl⟩⟩
  | refusing locked => exact ⟨fun _ moved => (by cases moved), fun _ => ⟨inv.stored locked at_, rfl⟩⟩
  | dropping => exact ⟨fun locked moved => (by cases moved), fun was => ⟨(inv.refused was).1, rfl⟩⟩
  | dropLocked => exact ⟨fun locked moved => (by cases moved), fun was => ⟨(inv.refused was).1, rfl⟩⟩
  | dropNotifying => exact ⟨fun locked moved => (by cases moved), fun was => ⟨(inv.refused was).1, rfl⟩⟩

/-- The worker's steps leave the producer's side alone, except that they may set the flag. -/
theorem work_side (s : State) :
    s.work.producer = s.producer ∧ s.work.refused = s.refused ∧ s.work.flushed = s.flushed ∧ s.work.pending = s.pending ∧
      s.work.overflowed = s.overflowed ∧ s.work.broken = s.broken ∧ (s.failed = true → s.work.failed = true) := by
  unfold State.work
  split
  · simp
  · simp
  · unfold State.take
    split
    · simp
    · simp
  all_goals simp

theorem Refusing.step {s : State} {a : Action} (inv : Refusing s) (allowed : Allowed s a) : Refusing (step s a) := by
  cases a with
  | write buf =>
      simp only [Output.step, State.write]
      split
      · exact ⟨fun locked moved => (by cases moved), fun was => ⟨(inv.refused was).1, rfl⟩⟩
      · exact ⟨inv.stored, inv.refused⟩
  | flush =>
      simp only [Output.step, State.flush]
      split
      · exact ⟨fun locked moved => (by cases moved), fun was => ⟨(inv.refused was).1, rfl⟩⟩
      · rename_i working
        split
        · exact inv
        · exact ⟨fun locked moved => (by cases moved), fun was => absurd (inv.refused was).1 working⟩
  | drop => exact ⟨fun locked moved => (by cases moved), fun was => ⟨(inv.refused was).1, rfl⟩⟩
  | produce => exact inv.produce
  | work =>
      obtain ⟨producer, refused, _, _, _, _, failed⟩ := work_side s
      refine ⟨fun locked here => failed (inv.stored locked (producer ▸ here)), fun was => ?_⟩
      rw [Output.step, producer]
      exact ⟨failed (inv.refused (refused ▸ was)).1, (inv.refused (refused ▸ was)).2⟩
  | send n =>
      simp only [Output.step, State.send]
      split
      · exact ⟨inv.stored, inv.refused⟩
      · exact inv
  | transportError =>
      simp only [Output.step, State.transportError]
      split
      · exact ⟨inv.stored, inv.refused⟩
      · exact inv
  | wake => exact ⟨inv.stored, inv.refused⟩

/-- After a refusal nothing more is accepted. -/
theorem nothing_accepted {s : State} {a : Action} (inv : Refusing s) (refused : s.refused = true) :
    (step s a).flushed = s.flushed ∧ (step s a).pending = s.pending ∧ (step s a).refused = true := by
  obtain ⟨failed, elsewhere⟩ := inv.refused refused
  cases a with
  | write buf => simp [Output.step, State.write, failed, refused]
  | flush => simp [Output.step, State.flush, failed, refused]
  | drop => exact ⟨rfl, rfl, refused⟩
  | produce =>
      simp only [Output.step, State.produce]
      split
      case h_5 reserving =>
        rw [reserving] at elsewhere
        cases elsewhere
      all_goals simp [refused]
  | work =>
      obtain ⟨_, same, flushed, pending, _⟩ := work_side s
      exact ⟨flushed, pending, same.trans refused⟩
  | send n =>
      simp only [Output.step, State.send]
      split
      · exact ⟨rfl, rfl, refused⟩
      · exact ⟨rfl, rfl, refused⟩
  | transportError =>
      simp only [Output.step, State.transportError]
      split
      · exact ⟨rfl, rfl, refused⟩
      · exact ⟨rfl, rfl, refused⟩
  | wake => exact ⟨rfl, rfl, refused⟩

/-! ## Delivery -/

/-- The owner has closed the queue. -/
def Producer.closing : Producer → Bool
  | dropLocked | dropNotifying | dropped => true
  | _ => false

/-- A notification is on its way. -/
def Producer.announcing : Producer → Bool
  | enqueued | notifying | dropLocked | dropNotifying => true
  | _ => false

def Producer.refuses : Producer → Bool
  | failing _ | refusing _ => true
  | _ => false

/-- The failure flag is set. -/
def Worker.past : Worker → Bool
  | closing | draining | drained | exited => true
  | _ => false

/-- Short of an overflow and a transport error nothing fails before the owner closes the queue. -/
structure Healthy (s : State) : Prop where
  accepted : s.producer.refuses = false
  failed : s.failed = true → s.worker.past = true
  shutdown : s.shutdown = true → s.worker = .exited
  closed : s.closed = true → s.producer.closing = true

/-- A worker that waits has nothing to do, or a notification is on its way. -/
structure Awake (s : State) : Prop where
  waiting : s.worker = .waiting → s.blocks = [] ∧ s.closed = false ∨ s.producer.announcing = true
  closing : s.producer.closing = true → s.closed = true

theorem Worker.ended_of_past {worker : Worker} (past : worker.past = true) : worker.ended = true := by
  cases worker <;> first | rfl | cases past

theorem notifyOne_past (worker : Worker) : (notifyOne worker).past = worker.past := by
  cases worker <;> rfl

theorem notifyOne_exited {worker : Worker} (exited : worker = .exited) : notifyOne worker = .exited := by
  rw [exited]
  rfl

theorem notifyOne_not_waiting (worker : Worker) : notifyOne worker ≠ .waiting := by
  cases worker <;> simp [notifyOne]

/-- In a healthy state a set failure flag means that the owner is done. -/
theorem Healthy.failed_closing {s : State} (inv : Healthy s) (ordered : Ordered s) (intact : s.broken = false)
    (failed : s.failed = true) : s.producer.closing = true :=
  inv.closed (ordered.ended intact (Worker.ended_of_past (inv.failed failed))).1

theorem Healthy.produce {s : State} (inv : Healthy s) (ordered : Ordered s) (intact : s.broken = false)
    (fitting : s.produce.overflowed = false) : Healthy s.produce := by
  obtain ⟨accepted, failed, shutdown, closed⟩ := id inv
  unfold State.produce at fitting ⊢
  cases at_ : s.producer with
  | idle => exact inv
  | dropped => exact inv
  | flushing =>
      have opened : s.closed = false := Bool.eq_false_iff.mpr fun was => by simp [at_, Producer.closing] at closed; simp [closed] at was
      exact ⟨by simp [opened, Producer.refuses], failed, shutdown, fun was => absurd was (by simp [opened])⟩
  | checking =>
      have opened := ordered.opened (.inl at_)
      have clear : s.failed = false := Bool.eq_false_iff.mpr fun was => by
        have closing := inv.failed_closing ordered intact was
        rw [at_] at closing
        cases closing
      exact ⟨by simp [clear, Producer.refuses], failed, shutdown, fun was => absurd was (by simp [opened])⟩
  | reserving =>
      rw [at_] at fitting
      have opened := ordered.opened (.inr at_)
      simp only [State.reserve] at fitting ⊢
      split
      · exact ⟨rfl, failed, shutdown, fun was => absurd was (by simp [opened])⟩
      · rename_i full
        rw [if_neg full] at fitting
        cases fitting
  | enqueued => exact ⟨rfl, failed, shutdown, fun was => by have c := closed was; rw [at_] at c; cases c⟩
  | notifying =>
      refine ⟨rfl, fun was => ?_, fun was => notifyOne_exited (shutdown was), fun was => by have c := closed was; rw [at_] at c; cases c⟩
      simp only [notifyOne_past]
      exact failed was
  | failing locked =>
      rw [at_] at accepted
      cases accepted
  | refusing locked =>
      rw [at_] at accepted
      cases accepted
  | dropping => exact ⟨rfl, failed, shutdown, fun _ => rfl⟩
  | dropLocked => exact ⟨rfl, failed, shutdown, fun _ => rfl⟩
  | dropNotifying =>
      refine ⟨rfl, fun was => ?_, fun was => notifyOne_exited (shutdown was), fun _ => rfl⟩
      simp only [notifyOne_past]
      exact failed was

theorem Healthy.work {s : State} (inv : Healthy s) (ordered : Ordered s) (intact : s.broken = false) : Healthy s.work := by
  obtain ⟨accepted, failed, shutdown, closed⟩ := id inv
  unfold State.work
  cases at_ : s.worker with
  | waiting => exact inv
  | exited => exact inv
  | locking =>
      rw [at_] at failed shutdown
      simp only [State.take]
      split
      · exact ⟨accepted, fun was => absurd (failed was) (by simp [Worker.past]), fun was => absurd (shutdown was) (by simp), closed⟩
      · exact ⟨accepted, fun was => absurd (failed was) (by simp [Worker.past]), fun was => absurd (shutdown was) (by simp), closed⟩
  | popped frame =>
      rw [at_] at failed shutdown
      exact ⟨accepted, failed, fun was => absurd (shutdown was) (by simp), closed⟩
  | writing frame rest =>
      rw [at_] at failed shutdown
      exact ⟨accepted, failed, fun was => absurd (shutdown was) (by simp), closed⟩
  | accounting frame ok =>
      rw [at_] at failed shutdown
      exact ⟨accepted, fun was => absurd (failed was) (by simp [Worker.past]), fun was => absurd (shutdown was) (by simp), closed⟩
  | leaving =>
      rw [at_] at failed shutdown
      exact ⟨accepted, failed, fun was => absurd (shutdown was) (by simp), closed⟩
  | failing =>
      rw [at_] at shutdown
      exact ⟨accepted, fun _ => rfl, fun was => absurd (shutdown was) (by simp), closed⟩
  | closing =>
      rw [at_] at shutdown
      exact ⟨accepted, fun _ => rfl, fun was => absurd (shutdown was) (by simp), closed⟩
  | draining =>
      rw [at_] at shutdown
      have was := (ordered.ended intact (by rw [at_]; rfl)).1
      exact ⟨accepted, fun _ => rfl, fun was => absurd (shutdown was) (by simp), fun _ => closed was⟩
  | drained => exact ⟨accepted, fun _ => rfl, fun _ => rfl, closed⟩

theorem Healthy.step {s : State} {a : Action} (inv : Healthy s) (ordered : Ordered s) (intact : s.broken = false)
    (allowed : Allowed s a) (fitting : (Output.step s a).overflowed = false) : Healthy (Output.step s a) := by
  have idle_clear (idle : s.producer = .idle) : s.failed = false := Bool.eq_false_iff.mpr fun was => by
    have closing := inv.failed_closing ordered intact was
    rw [idle] at closing
    cases closing
  have idle_open (idle : s.producer = .idle) : s.closed ≠ true := fun was => by
    have closing := inv.closed was
    rw [idle] at closing
    cases closing
  cases a with
  | write buf =>
      have clear := idle_clear allowed
      simp only [Output.step, State.write] at fitting ⊢
      split
      · rename_i refused
        rw [if_pos refused] at fitting
        simp [clear] at fitting
      · exact ⟨inv.accepted, inv.failed, inv.shutdown, inv.closed⟩
  | flush =>
      have clear := idle_clear allowed
      simp only [Output.step, State.flush]
      split
      · rename_i was
        rw [clear] at was
        cases was
      · split
        · exact inv
        · exact ⟨rfl, inv.failed, inv.shutdown, fun was => absurd was (idle_open allowed)⟩
  | drop => exact ⟨rfl, inv.failed, inv.shutdown, fun was => absurd was (idle_open allowed)⟩
  | produce => exact inv.produce ordered intact fitting
  | work => exact inv.work ordered intact
  | send n =>
      simp only [Output.step, State.send]
      split
      · rename_i frame rest here
        obtain ⟨accepted, failed, shutdown, closed⟩ := inv
        rw [here] at failed shutdown
        exact ⟨accepted, failed, fun was => absurd (shutdown was) (by simp), closed⟩
      · exact inv
  | transportError =>
      simp only [Output.step, State.transportError]
      split
      · rename_i frame rest here
        obtain ⟨accepted, failed, shutdown, closed⟩ := inv
        rw [here] at failed shutdown
        exact ⟨accepted, failed, fun was => absurd (shutdown was) (by simp), closed⟩
      · exact inv
  | wake =>
      have waiting : s.worker = .waiting := allowed
      obtain ⟨accepted, failed, shutdown, closed⟩ := inv
      rw [waiting] at failed shutdown
      exact ⟨accepted, failed, fun was => absurd (shutdown was) (by simp), closed⟩

theorem Awake.produce {s : State} (inv : Awake s) : Awake s.produce := by
  obtain ⟨waiting, closing⟩ := id inv
  unfold State.produce
  cases at_ : s.producer with
  | idle => exact inv
  | dropped => exact inv
  | flushing =>
      rw [at_] at waiting
      refine ⟨fun here => .inl ((waiting here).resolve_right (by simp [Producer.announcing])), fun was => ?_⟩
      cases closed : s.closed <;> simp [closed, Producer.closing] at was
  | checking =>
      rw [at_] at waiting
      refine ⟨fun here => .inl ((waiting here).resolve_right (by simp [Producer.announcing])), fun was => ?_⟩
      cases failed : s.failed <;> simp [failed, Producer.closing] at was
  | reserving =>
      rw [at_] at waiting
      simp only [State.reserve]
      split
      · exact ⟨fun _ => .inr rfl, fun was => (by cases was)⟩
      · exact ⟨fun here => .inl ((waiting here).resolve_right (by simp [Producer.announcing])), fun was => (by cases was)⟩
  | enqueued => exact ⟨fun _ => .inr rfl, fun was => (by cases was)⟩
  | notifying => exact ⟨fun here => absurd here (notifyOne_not_waiting _), fun was => (by cases was)⟩
  | failing locked =>
      rw [at_] at waiting
      exact ⟨fun here => .inl ((waiting here).resolve_right (by simp [Producer.announcing])), fun was => (by cases was)⟩
  | refusing locked =>
      rw [at_] at waiting
      exact ⟨fun here => .inl ((waiting here).resolve_right (by simp [Producer.announcing])), fun was => (by cases was)⟩
  | dropping => exact ⟨fun _ => .inr rfl, fun _ => rfl⟩
  | dropLocked => exact ⟨fun _ => .inr rfl, fun _ => closing (by rw [at_]; rfl)⟩
  | dropNotifying => exact ⟨fun here => absurd here (notifyOne_not_waiting _), fun _ => closing (by rw [at_]; rfl)⟩

theorem Awake.work {s : State} (inv : Awake s) : Awake s.work := by
  obtain ⟨waiting, closing⟩ := id inv
  unfold State.work
  cases at_ : s.worker with
  | waiting => exact inv
  | exited => exact inv
  | locking =>
      simp only [State.take]
      split
      · exact ⟨fun here => (by cases here), closing⟩
      · rename_i empty
        refine ⟨fun here => .inl ⟨empty, ?_⟩, closing⟩
        cases closed : s.closed with
        | true => simp [closed] at here
        | false => rfl
  | popped frame => exact ⟨fun here => (by cases here), closing⟩
  | writing frame rest => exact ⟨fun here => (by cases here), closing⟩
  | accounting frame ok => exact ⟨fun here => (by cases ok <;> cases here), closing⟩
  | leaving => exact ⟨fun here => (by cases here), closing⟩
  | failing => exact ⟨fun here => (by cases here), closing⟩
  | closing => exact ⟨fun here => (by cases here), closing⟩
  | draining => exact ⟨fun here => (by cases here), fun _ => rfl⟩
  | drained => exact ⟨fun here => (by cases here), closing⟩

theorem Awake.step {s : State} {a : Action} (inv : Awake s) (allowed : Allowed s a) : Awake (step s a) := by
  have idle_waiting (idle : s.producer = .idle) (here : s.worker = .waiting) : s.blocks = [] ∧ s.closed = false :=
    (inv.waiting here).resolve_right (by simp [idle, Producer.announcing])
  cases a with
  | write buf =>
      simp only [Output.step, State.write]
      split
      · exact ⟨fun here => .inl (idle_waiting allowed here), fun was => (by cases was)⟩
      · exact ⟨inv.waiting, inv.closing⟩
  | flush =>
      simp only [Output.step, State.flush]
      split
      · exact ⟨fun here => .inl (idle_waiting allowed here), fun was => (by cases was)⟩
      · split
        · exact inv
        · exact ⟨fun here => .inl (idle_waiting allowed here), fun was => (by cases was)⟩
  | drop => exact ⟨fun here => .inl (idle_waiting allowed here), fun was => (by cases was)⟩
  | produce => exact inv.produce
  | work => exact inv.work
  | send n =>
      simp only [Output.step, State.send]
      split
      · exact ⟨fun here => (by cases here), inv.closing⟩
      · exact inv
  | transportError =>
      simp only [Output.step, State.transportError]
      split
      · exact ⟨fun here => (by cases here), inv.closing⟩
      · exact inv
  | wake => exact ⟨fun here => (by cases here), inv.closing⟩

/-- Faults stay. -/
theorem step_faults (s : State) (a : Action) :
    (s.broken = true → (step s a).broken = true) ∧ (s.overflowed = true → (step s a).overflowed = true) := by
  cases a with
  | write buf =>
      simp only [step, State.write]
      split
      · exact ⟨id, fun was => by simp [was]⟩
      · exact ⟨id, id⟩
  | flush =>
      simp only [step, State.flush]
      split
      · exact ⟨id, id⟩
      · split <;> exact ⟨id, id⟩
  | drop => exact ⟨id, id⟩
  | produce =>
      simp only [step, State.produce, State.reserve]
      split
      case h_5 =>
        split
        · exact ⟨id, id⟩
        · exact ⟨id, fun _ => rfl⟩
      all_goals exact ⟨id, id⟩
  | work =>
      obtain ⟨_, _, _, _, overflowed, broken, _⟩ := work_side s
      exact ⟨fun was => broken.trans was, fun was => overflowed.trans was⟩
  | send n =>
      simp only [step, State.send]
      split <;> exact ⟨id, id⟩
  | transportError =>
      simp only [step, State.transportError]
      split
      · exact ⟨fun _ => rfl, id⟩
      · exact ⟨id, id⟩
  | wake => exact ⟨id, id⟩

structure Sound (s : State) : Prop where
  counted : Counted s
  ordered : Ordered s
  refusing : Refusing s
  awake : Awake s
  healthy : s.broken = false → s.overflowed = false → Healthy s

theorem sound_start : Sound {} where
  counted := ⟨fun held => (by cases held), rfl, Nat.zero_le _, Nat.zero_le _⟩
  ordered := ⟨⟨[], rfl, fun _ => rfl⟩, fun _ => rfl, fun _ ended => (by cases ended), fun _ => rfl⟩
  refusing := ⟨fun _ here => (by cases here), fun was => (by cases was)⟩
  awake := ⟨fun here => (by cases here), fun was => (by cases was)⟩
  healthy := fun _ _ => ⟨rfl, fun was => (by cases was), fun was => (by cases was), fun was => (by cases was)⟩

theorem Sound.step {s : State} (a : Action) (inv : Sound s) (allowed : Allowed s a) : Sound (step s a) where
  counted := inv.counted.step allowed
  ordered := inv.ordered.step inv.counted allowed
  refusing := inv.refusing.step allowed
  awake := inv.awake.step allowed
  healthy := fun intact fitting => by
    have before := step_faults s a
    have wasIntact : s.broken = false := Bool.eq_false_iff.mpr fun was => by simp [before.1 was] at intact
    have wasFitting : s.overflowed = false := Bool.eq_false_iff.mpr fun was => by simp [before.2 was] at fitting
    exact (inv.healthy wasIntact wasFitting).step inv.ordered wasIntact allowed fitting

theorem Reached.sound {s : State} (reached : Reached s) : Sound s :=
  reached.invariant (fun _ a inv allowed => inv.step a allowed) sound_start

/-- Operations the worker still needs, at most. -/
def Worker.todo : Worker → Nat
  | exited => 0
  | drained => 1
  | draining => 2
  | closing => 3
  | failing => 4
  | leaving => 5
  | locking => 6
  | waiting => 7
  | accounting _ _ => 7
  | writing _ rest => 8 + rest.length
  | popped frame => 9 + frame.length

def State.todo (s : State) : Nat :=
  (s.blocks.map fun block => block.length + 10).sum + s.worker.todo

/-- The owner is gone and nothing has failed. -/
structure Draining (s : State) : Prop where
  sound : Sound s
  dropped : s.producer = .dropped
  intact : s.broken = false
  fitting : s.overflowed = false

/-- A step that the transport lets happen. -/
def Transported (s : State) (a : Action) : Prop :=
  Allowed s a ∧ a ≠ .transportError

theorem Draining.step {s : State} {a : Action} (inv : Draining s) (allowed : Transported s a) :
    Draining (step s a) ∧ (step s a).flushed = s.flushed ∧ (step s a).todo < s.todo := by
  obtain ⟨sound, dropped, intact, fitting⟩ := inv
  have after := sound.step a allowed.1
  obtain ⟨allowed, working⟩ := allowed
  cases a with
  | write buf => simp [Allowed, dropped] at allowed
  | flush => simp [Allowed, dropped] at allowed
  | drop => simp [Allowed, dropped] at allowed
  | produce => simp [Allowed, dropped] at allowed
  | transportError => exact absurd rfl working
  | wake =>
      have waiting : s.worker = .waiting := allowed
      refine ⟨⟨after, dropped, intact, fitting⟩, rfl, ?_⟩
      simp only [Output.step, State.todo, waiting, Worker.todo]
      omega
  | send n =>
      unfold Allowed at allowed
      cases at_ : s.worker with
      | writing frame rest =>
          rw [at_] at allowed
          simp only at allowed
          simp only [Output.step, State.send, at_] at after ⊢
          refine ⟨⟨after, dropped, intact, fitting⟩, trivial, ?_⟩
          simp only [State.todo, at_, Worker.todo, List.length_drop]
          omega
      | _ => simp [at_] at allowed
  | work =>
      obtain ⟨producer, _, flushed, _, overflowed, broken, _⟩ := work_side s
      refine ⟨⟨after, producer.trans dropped, broken.trans intact, overflowed.trans fitting⟩, flushed, ?_⟩
      simp only [Output.step, State.todo]
      unfold Allowed at allowed
      unfold State.work
      cases at_ : s.worker with
      | locking =>
          simp only [State.take]
          split
          · rename_i frame blocks queued
            simp only [queued, List.map_cons, List.sum_cons, Worker.todo]
            omega
          · split
            · simp only [Worker.todo]
              omega
            · rename_i opened
              exact absurd (sound.awake.closing (by rw [dropped]; rfl)) opened
      | accounting frame ok => cases ok <;> simp [Worker.todo]
      | writing frame rest =>
          simp only [Worker.todo]
          omega
      | waiting => simp [at_] at allowed
      | exited => simp [at_] at allowed
      | draining =>
          simp only [List.map_nil, List.sum_nil, Worker.todo]
          omega
      | _ => simp [Worker.todo]

theorem Draining.progress {s : State} (inv : Draining s) :
    (s.worker = .exited ∧ s.sent = s.flushed.flatten) ∨ ∃ a, Transported s a := by
  obtain ⟨sound, dropped, intact, fitting⟩ := inv
  have unlocked : s.producer.locked = false := by rw [dropped]; rfl
  cases at_ : s.worker with
  | exited =>
      obtain ⟨lost, whole, same⟩ := sound.ordered.ordered
      have empty := (sound.ordered.ended intact (by rw [at_]; rfl)).2
      rw [same intact, empty, at_] at whole
      exact .inl ⟨rfl, by simpa [Worker.unsent] using whole⟩
  | waiting =>
      have closed := sound.awake.closing (by rw [dropped]; rfl)
      rcases sound.awake.waiting at_ with ⟨_, opened⟩ | announced
      · rw [closed] at opened
        cases opened
      · rw [dropped] at announced
        cases announced
  | writing frame rest =>
      cases rest with
      | nil => exact .inr ⟨.work, by simp [Allowed, at_], by simp⟩
      | cons byte rest =>
          have up : s.shutdown = false := Bool.eq_false_iff.mpr fun was => by
            have exited := (sound.healthy intact fitting).shutdown was
            rw [at_] at exited
            cases exited
          exact .inr ⟨.send 1, by simp [Allowed, at_, up], by simp⟩
  | _ => exact .inr ⟨.work, by simp [Allowed, at_, unlocked], by simp⟩

/-- The same bytes accepted from the owner. -/
def SameAccepted (s t : State) : Prop :=
  t.flushed = s.flushed ∧ t.pending = s.pending

/-- Order, accounting, delivery and refusal in every interleaving of the writer and its worker. -/
theorem queue_delivers {s : State} (reached : Reached s) :
    s.sent ++ s.worker.unsent <+: s.flushed.flatten ∧
    s.queuedBytes = (s.blocks.map List.length).sum + s.worker.inFlight.length ∧ s.queuedBytes ≤ queueBytes ∧
    (∀ frame ok, s.worker = .accounting frame ok → frame.length ≤ s.queuedBytes) ∧
    (s.worker = .draining → (s.blocks.map List.length).sum ≤ s.queuedBytes) ∧
    (s.producer = .dropped → s.broken = false → s.overflowed = false →
      Machine.Inevitable step Transported (fun t => t.worker = .exited ∧ t.sent = s.flushed.flatten) s) ∧
    (s.refused = true → ∀ t, Machine.Run step Allowed s t → t.flushed = s.flushed ∧ t.pending = s.pending) := by
  have sound := reached.sound
  have counted := sound.counted.counted
  rw [List.length_flatten] at counted
  refine ⟨?_, counted, sound.counted.bounded, fun frame ok here => ?_, fun _ => by omega, fun dropped intact fitting => ?_,
    fun refused t later => ?_⟩
  · obtain ⟨lost, whole, same⟩ := sound.ordered.ordered
    rw [← whole]
    cases live : s.worker.live with
    | true =>
        rw [same (sound.ordered.live live), ← List.append_assoc]
        exact List.prefix_append _ _
    | false =>
        have nothing : s.worker.unsent = [] := by
          cases at_ : s.worker <;> first | rfl | (rw [at_] at live; cases live)
        rw [nothing, List.append_nil]
        exact List.prefix_append _ _
  · rw [here] at counted
    simp only [Worker.inFlight] at counted
    omega
  · have preserved : ∀ t a, Draining t ∧ t.flushed = s.flushed → Transported t a →
        Draining (step t a) ∧ (step t a).flushed = s.flushed := by
      rintro t a ⟨inv, same⟩ allowed
      obtain ⟨next, flushed, _⟩ := inv.step allowed
      exact ⟨next, flushed.trans same⟩
    refine Machine.Inevitable.of_measure State.todo preserved ?_ ⟨⟨sound, dropped, intact, fitting⟩, rfl⟩
    rintro t ⟨inv, same⟩
    rcases inv.progress with ⟨exited, sent⟩ | possible
    · exact .inl ⟨exited, same ▸ sent⟩
    · exact .inr ⟨possible, fun a allowed => (inv.step allowed).2.2⟩
  · have preserved : ∀ t a, Sound t ∧ t.refused = true → Allowed t a → Sound (step t a) ∧ (step t a).refused = true :=
      fun t a inv allowed => ⟨inv.1.step a allowed, (nothing_accepted inv.1.refusing inv.2).2.2⟩
    have follows : ∀ t a, Sound t ∧ t.refused = true → Allowed t a → SameAccepted t (step t a) :=
      fun t a inv _ => ⟨(nothing_accepted inv.1.refusing inv.2).1, (nothing_accepted inv.1.refusing inv.2).2.1⟩
    exact later.related preserved (fun _ => ⟨rfl, rfl⟩)
      (fun _ _ _ first second => ⟨second.1.trans first.1, second.2.trans first.2⟩) follows ⟨sound, refused⟩

/-- One frame is flushed, sent and drained after the writer is gone. -/
theorem oneFrame_delivered :
    let s := [Action.write [65], .flush, .produce, .produce, .produce, .produce, .work, .produce, .work].foldl step {}
    s.sent ++ s.worker.unsent <+: s.flushed.flatten ∧ s.queuedBytes = 1 := by
  have initial : Machine.Run step Allowed {} {} := .start
  have flushing := (initial.step (.write [65]) rfl).step .flush rfl
  have queued := (((flushing.step .produce rfl).step .produce trivial).step .produce trivial).step .produce trivial
  have reached := ((queued.step .work rfl).step .produce trivial).step .work trivial
  obtain ⟨order, counted, _⟩ := queue_delivers reached
  exact ⟨order, counted⟩

end Output

end Ezpn
