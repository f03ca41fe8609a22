import Ezpn.Events

/-!
# Loss accounting on the event bus

Seen from one subscriber, a publish is a move of the subscriber's ledger: the
queue and what was taken from it are the log, the matching events the offers.
-/

set_option autoImplicit false

namespace Ezpn.Events

open LossyStream

namespace Subscriber
variable {sub : Subscriber}

def ledger (sub : Subscriber) : Ledger Event Nat :=
  { log := sub.log, offered := sub.matching, dropped := sub.dropped, owed := sub.preferPayload }

/-- Matching events that the queue has taken in. -/
def delivered (sub : Subscriber) : Nat := (sub.log.filterMap Entry.serial?).length

/-- The sum of the counts of all notices. -/
def announced (sub : Subscriber) : Nat := (sub.log.map Entry.count).sum

structure Accounted (sub : Subscriber) : Prop where
  room : sub.queue.length ≤ maxQueueDepth
  sound : sub.ledger.Sound u64Max

/-! ## Ledgers -/

theorem receive_log (n : Nat) (sub : Subscriber) : (sub.receive n).log = sub.log := by
  simp [receive, log]

theorem receive_accounted (n : Nat) (accounted : sub.Accounted) : (sub.receive n).Accounted := by
  refine ⟨?_, ?_⟩
  · have room := accounted.room
    simp only [receive, List.length_drop]
    omega
  · have same : (sub.receive n).ledger = sub.ledger :=
      congrArg (fun log => ({ sub.ledger with log } : Ledger Event Nat)) (receive_log n sub)
    rw [same]
    exact accounted.sound

theorem saw_matching (event : Event) (accepts : sub.accepts event = true) :
    (sub.saw event).matching = sub.matching ++ [event] := by
  have filtered : (sub.saw event).matching = (sub.published ++ [event]).filter sub.accepts := rfl
  rw [filtered, List.filter_append, List.filter_cons_of_pos accepts, List.filter_nil, matching]

theorem saw_matching_other (event : Event) (rejects : sub.accepts event = false) :
    (sub.saw event).matching = sub.matching := by
  have filtered : (sub.saw event).matching = (sub.published ++ [event]).filter sub.accepts := rfl
  rw [filtered, List.filter_append, List.filter_cons_of_neg (by simp [rejects]), List.filter_nil, List.append_nil,
    matching]

theorem missed_accounted (accounted : sub.Accounted) {event : Event} (accepts : sub.accepts event = true) :
    (sub.missed.saw event).Accounted := by
  refine ⟨accounted.room, ?_⟩
  have moved : (sub.missed.saw event).ledger = sub.ledger.lose u64Max event :=
    congrArg (fun offered => ({ sub.ledger with offered, dropped := min (sub.dropped + 1) u64Max } : Ledger Event Nat))
      (saw_matching event accepts)
  rw [moved]
  exact accounted.sound.lose (by decide) event

/-! ## Sends -/

theorem trySend_cases (item : Item) (sub : Subscriber) :
    sub.trySend item = (sub, .disconnected) ∨ sub.trySend item = (sub, .full) ∨
      sub.queue.length < maxQueueDepth ∧ sub.trySend item = ({ sub with queue := sub.queue ++ [item] }, .ok) := by
  simp only [trySend]
  split
  · exact .inl rfl
  · split
    · rename_i room
      exact .inr (.inr ⟨room, rfl⟩)
    · exact .inr (.inl rfl)

/-- The event is sent after a notice, or when nothing has been lost. -/
theorem sendPayload_accounted (accounted : sub.Accounted) {event : Event} (accepts : sub.accepts event = true)
    (current : sub.preferPayload = true ∨ sub.dropped = 0)
    (kept : (sub.sendPayload event sub.matching.length).2 = true) :
    ((sub.sendPayload event sub.matching.length).1.saw event).Accounted := by
  rcases sub.trySend_cases (.item event sub.matching.length) with gone | full | ⟨room, sent⟩
  · simp only [sendPayload, gone, Bool.false_eq_true] at kept
  · simp only [sendPayload, full]
    exact missed_accounted accounted accepts
  · simp only [sendPayload, sent]
    refine ⟨?_, ?_⟩
    · simp only [saw, List.length_append, List.length_singleton]
      omega
    · have delivered := accounted.sound.deliver event current
      simp only [Ledger.deliver, ledger, log, List.append_assoc] at delivered
      rw [← saw_matching event accepts] at delivered
      exact delivered

theorem offerMatching_accounted (accounted : sub.Accounted) {event : Event} (accepts : sub.accepts event = true)
    {ts before between : Nat} (kept : (sub.offerMatching event ts before between).2 = true) :
    ((sub.offerMatching event ts before between).1.saw event).Accounted := by
  have ready := receive_accounted before accounted
  have serial : sub.matching.length = (sub.receive before).matching.length := rfl
  have accepts : (sub.receive before).accepts event = true := accepts
  simp only [offerMatching, serial] at kept ⊢
  generalize sub.receive before = sub at ready accepts kept ⊢
  cases due : decide (sub.dropped > 0) && !sub.preferPayload with
  | false =>
      simp only [due, Bool.false_eq_true, if_false] at kept ⊢
      refine sendPayload_accounted ready accepts ?_ kept
      simp only [Bool.and_eq_false_iff, decide_eq_false_iff_not, Bool.not_eq_false'] at due
      rcases due with none | preferred
      · exact .inr (by omega)
      · exact .inl preferred
  | true =>
      simp only [Bool.and_eq_true, decide_eq_true_eq, Bool.not_eq_true'] at due
      simp only [due.1, due.2, Bool.not_false, decide_true, Bool.and_self, if_true] at kept ⊢
      rcases sub.trySend_cases (.notice sub.dropped ts) with gone | full | ⟨room, sent⟩
      · simp only [gone, Bool.false_eq_true] at kept
      · simp only [full]
        exact missed_accounted ready accepts
      · simp only [sent] at kept ⊢
        -- the notice has left, and the event gets the next slot
        let noticed : Subscriber :=
          { sub with queue := sub.queue ++ [.notice sub.dropped ts], dropped := 0, preferPayload := true }
        have accounted : noticed.Accounted := by
          refine ⟨?_, ?_⟩
          · simp only [noticed, List.length_append, List.length_singleton]
            omega
          · have announced := ready.sound.announce ts due.2
            simp only [Ledger.announce, ledger, log, List.append_assoc] at announced
            exact announced
        exact sendPayload_accounted (receive_accounted between accounted) accepts (.inl rfl) kept

theorem offer_accounted (accounted : sub.Accounted) {event : Event} {ts before between : Nat}
    (kept : (sub.offer event ts before between).2 = true) : (sub.offer event ts before between).1.Accounted := by
  cases accepts : sub.accepts event with
  | true =>
      simp only [offer, accepts, if_true] at kept ⊢
      exact offerMatching_accounted accounted accepts kept
  | false =>
      simp only [offer, accepts, Bool.false_eq_true, if_false]
      refine ⟨accounted.room, ?_⟩
      have same : (sub.saw event).ledger = sub.ledger :=
        congrArg (fun offered => ({ sub.ledger with offered } : Ledger Event Nat)) (saw_matching_other event accepts)
      rw [same]
      exact accounted.sound

end Subscriber

/-! ## The bus -/

namespace EventBus

def Accounted (bus : EventBus) : Prop := ∀ sub ∈ bus.subs, sub.Accounted

theorem step_accounted {bus : EventBus} (accounted : bus.Accounted) (op : BusOp) : (bus.step op).Accounted := by
  cases op with
  | subscribe sessionFilter typeFilter =>
      intro sub member
      rcases List.mem_append.mp member with old | new
      · exact accounted sub old
      · rw [List.mem_singleton.mp new]
        exact ⟨Nat.zero_le _, Ledger.sound_empty _⟩
  | unsubscribe id =>
      intro sub member
      exact accounted sub (List.mem_of_mem_filter member)
  | publish event ts takes =>
      intro sub member
      obtain ⟨offered, notRemoved⟩ := List.mem_filter.mp member
      simp only [List.map_map] at offered
      obtain ⟨old, present, rfl⟩ := List.mem_map.mp offered
      -- a subscriber that is gone is on the list of removals
      refine Subscriber.offer_accounted (accounted old present) ?_
      by_contra gone
      rw [Bool.not_eq_true', List.contains_eq_mem, decide_eq_false_iff_not] at notRemoved
      apply notRemoved
      refine List.mem_map.mpr ⟨_, List.mem_filter.mpr ⟨List.mem_map.mpr ⟨old, present, rfl⟩, ?_⟩, rfl⟩
      simpa using gone
  | receive id n =>
      intro sub member
      obtain ⟨old, present, rfl⟩ := List.mem_map.mp member
      split
      · exact Subscriber.receive_accounted n (accounted old present)
      · exact accounted old present
  | disconnect id =>
      intro sub member
      obtain ⟨old, present, rfl⟩ := List.mem_map.mp member
      dsimp only
      split
      · exact ⟨(accounted old present).room, (accounted old present).sound⟩
      · exact accounted old present

theorem run_accounted {bus : EventBus} (run : Machine.Run step (fun _ _ => True) {} bus) : bus.Accounted :=
  run.invariant (fun bus op (accounted : Accounted bus) _ => step_accounted accounted op) (by nofun)

/-- What holds of every subscriber at any time. -/
theorem losses_accounted {bus : EventBus} (run : Machine.Run step (fun _ _ => True) {} bus) {sub : Subscriber}
    (member : sub ∈ bus.subs) :
    sub.queue.length ≤ maxQueueDepth ∧
      -- the payloads are a subsequence of the matching events, each at a place of its own
      (sub.log.filterMap Entry.item?).Sublist sub.matching ∧
      (∀ event serial, .item event serial ∈ sub.log → sub.matching[serial]? = some event) ∧
      (sub.log.filterMap Entry.serial?).Pairwise (· < ·) ∧
      -- neighbours without a notice between them were published one after the other, and no two notices meet
      sub.log.IsChain Entry.Adjacent ∧
      (sub.matching.length ≤ u64Max → sub.delivered + sub.announced + sub.dropped = sub.matching.length) := by
  obtain ⟨room, sound⟩ := run_accounted run sub member
  exact ⟨room, sound.kept, sound.genuine, sound.ordered, sound.adjacent, sound.counted⟩

/-- Two events reach a subscriber of one session; the consumer has taken the first of them. -/
def twoEvents : List BusOp :=
  [.subscribe (some "work") none, .publish (.paneFocused "work" 1 5) 5 fun _ => (0, 0),
    .publish (.paneFocused "home" 2 6) 6 fun _ => (0, 0), .publish (.paneFocused "work" 2 7) 7 fun _ => (1, 0)]

theorem twoEvents_accounted :
    ∃ sub ∈ (twoEvents.foldl step {}).subs,
      sub.log.IsChain Entry.Adjacent ∧ sub.delivered + sub.announced + sub.dropped = sub.matching.length := by
  have subscribed : (twoEvents.foldl step {}).subs ≠ [] := by decide
  obtain ⟨sub, member⟩ := List.exists_mem_of_ne_nil _ subscribed
  have accounts := losses_accounted (Machine.Run.of_labels step {} twoEvents) member
  have few : ∀ sub ∈ (twoEvents.foldl step {}).subs, sub.matching.length ≤ u64Max := by decide
  exact ⟨sub, member, accounts.2.2.2.2.1, accounts.2.2.2.2.2 (few sub member)⟩

/-! ## The limit of the counter -/

def reloaded : Event := .configReloaded true 0

/-- A subscriber without filters that never read one of `n` events. -/
structure Flooded (n : Nat) (sub : Subscriber) : Prop where
  unfiltered : sub.sessionFilter = none ∧ sub.typeFilter = none
  connected : sub.connected = true
  notPreferred : sub.preferPayload = false
  unread : sub.received = []
  matched : sub.matching.length = n
  queued : sub.queue.length = min n maxQueueDepth
  dropped : sub.dropped = min (n - maxQueueDepth) u64Max
  delivered : sub.delivered = min n maxQueueDepth
  announced : sub.announced = 0

theorem Flooded.offer {n : Nat} {sub : Subscriber} (flooded : Flooded n sub) :
    (sub.offer reloaded 0 0 0).2 = true ∧ Flooded (n + 1) (sub.offer reloaded 0 0 0).1 := by
  have accepts : sub.accepts reloaded = true := by
    rw [Subscriber.accepts, flooded.unfiltered.1, flooded.unfiltered.2]
    rfl
  have idle : sub.receive 0 = sub := by simp [Subscriber.receive]
  have matched : (sub.matching ++ [reloaded]).length = n + 1 := by
    rw [List.length_append, flooded.matched, List.length_singleton]
  have counted := flooded.dropped
  have queued := flooded.queued
  have delivered := flooded.delivered
  have announced := flooded.announced
  have limit : 0 < u64Max := by decide
  by_cases room : n < maxQueueDepth
  · have none : sub.dropped = 0 := by omega
    have free : sub.queue.length < maxQueueDepth := by omega
    have sent : sub.offer reloaded 0 0 0 =
        ({ sub with queue := sub.queue ++ [Entry.item reloaded sub.matching.length], preferPayload := false }.saw reloaded,
          true) := by
      simp [Subscriber.offer, accepts, Subscriber.offerMatching, idle, none, Subscriber.sendPayload, Subscriber.trySend,
        flooded.connected, free]
    rw [sent]
    refine ⟨rfl, flooded.unfiltered, flooded.connected, rfl, flooded.unread, ?_, ?_, ?_, ?_, ?_⟩
    · exact (congrArg List.length (Subscriber.saw_matching reloaded accepts)).trans matched
    · simp only [Subscriber.saw, List.length_append, List.length_singleton]
      omega
    · simp only [Subscriber.saw]
      omega
    · simp only [Subscriber.saw, Subscriber.delivered, Subscriber.log, ← List.append_assoc, List.filterMap_append,
        List.length_append] at delivered ⊢
      simp only [List.filterMap_cons, Entry.serial?, List.filterMap_nil, List.length_singleton]
      omega
    · simp only [Subscriber.saw, Subscriber.announced, Subscriber.log, List.map_append, List.sum_append, List.map_cons,
        Entry.count, List.map_nil, List.sum_cons, List.sum_nil] at announced ⊢
      omega
  · have full : ¬sub.queue.length < maxQueueDepth := by omega
    have missed : sub.offer reloaded 0 0 0 = (sub.missed.saw reloaded, true) := by
      simp only [Subscriber.offer, accepts, if_true, Subscriber.offerMatching, idle, flooded.notPreferred, Bool.not_false,
        Bool.and_true, Subscriber.sendPayload, Subscriber.trySend, flooded.connected, full]
      split <;> simp
    have saturated (limit : Nat) (counted : sub.dropped = min (n - maxQueueDepth) limit) :
        min (sub.dropped + 1) limit = min (n + 1 - maxQueueDepth) limit := by
      omega
    rw [missed]
    refine ⟨rfl, flooded.unfiltered, flooded.connected, flooded.notPreferred, flooded.unread, ?_, ?_, ?_, ?_, announced⟩
    · have added : (sub.missed.saw reloaded).matching = _ := Subscriber.saw_matching reloaded accepts
      rw [added]
      exact matched
    · simp only [Subscriber.saw, Subscriber.missed]
      omega
    · exact saturated u64Max counted
    · have same : (sub.missed.saw reloaded).delivered = sub.delivered := rfl
      rw [same, delivered]
      omega

/-- So many events are published to one subscriber that never reads. -/
theorem flood (n : Nat) :
    ∃ bus, Machine.Run step (fun _ _ => True) {} bus ∧ ∃ sub, bus.subs = [sub] ∧ Flooded n sub := by
  induction n with
  | zero =>
      refine ⟨_, .step .start (.subscribe none none) trivial, _, rfl, ?_⟩
      exact ⟨⟨rfl, rfl⟩, rfl, rfl, rfl, rfl, rfl, rfl, rfl, rfl⟩
  | succ n ih =>
      obtain ⟨bus, run, sub, alone, flooded⟩ := ih
      obtain ⟨kept, flooded⟩ := flooded.offer
      refine ⟨_, run.step (.publish reloaded 0 fun _ => (0, 0)) trivial, (sub.offer reloaded 0 0 0).1, ?_, flooded⟩
      simp [step, publish, alone, kept]

theorem saturated_unaccounted :
    ¬∀ bus : EventBus, Machine.Run step (fun _ _ => True) {} bus → ∀ sub ∈ bus.subs,
      sub.delivered + sub.announced + sub.dropped = sub.matching.length := by
  intro claimed
  obtain ⟨bus, run, sub, alone, flooded⟩ := flood (maxQueueDepth + 2 ^ 64)
  have counts := claimed bus run sub (by rw [alone]; exact List.mem_singleton_self sub)
  rw [flooded.delivered, flooded.announced, flooded.dropped, flooded.matched] at counts
  simp only [maxQueueDepth, u64Max] at counts
  omega

end EventBus

end Ezpn.Events
