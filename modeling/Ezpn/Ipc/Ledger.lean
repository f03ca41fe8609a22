import Ezpn.Ipc.Requests
import Ezpn.Lib.Machine

/-!
# Requests and their channels

Every command that reaches the main loop belongs to one request of one connection:
its channel has one place, and what the main loop executes or answers goes there.
-/

set_option autoImplicit false

namespace Ezpn

namespace ControlWorker
variable {σ L E P : Type} {service : IpcService σ L E P} {w : ControlWorker L E P}

/-- The responses that are settled, sent or not. -/
def decided (w : ControlWorker L E P) : List (Exchange P) :=
  w.exchanges ++ w.unsent ++ match w.phase with
    | .writing exchange _ => [exchange]
    | _ => []

/-- An answer that the worker gives by itself. -/
def Invalid (service : IpcService σ L E P) (x : Exchange P) : Prop :=
  x.verdict = .invalid ∧ ∃ message, parseCommand service x.line = .error message ∧ x.response = .failure message

/-- What the end of a read can leave the worker in. -/
def HasRead (service : IpcService σ L E P) : ControlPhase L E P → Prop
  | .reading | .closed _ => True
  | .submitting text command => parseCommand service text = .ok command
  | .writing exchange _ => Invalid service exchange
  | .waiting .. => False

/-- A step of a worker that hands nothing to the main loop and takes nothing from it. -/
structure Follows (service : IpcService σ L E P) (w w' : ControlWorker L E P) : Prop where
  sound : w.Sound → w'.Sound
  parsed : ∀ text command, w'.phase = .submitting text command →
    w.phase = .submitting text command ∨ parseCommand service text = .ok command
  decided : ∀ x ∈ w'.decided, x ∈ w.decided ∨ Invalid service x
  slots : ∀ (j : Nat) (text : String) (channel : Nat),
    w'.slots[j]? = some (text, some channel) ↔ w.slots[j]? = some (text, some channel)

theorem handle_hasRead (text : String) (w : ControlWorker L E P) :
    (w.handle service text).exchanges = w.exchanges ∧ (w.handle service text).unsent = w.unsent ∧
      HasRead service (w.handle service text).phase := by
  unfold handle
  split
  · exact ⟨rfl, rfl, trivial⟩
  · cases parsed : parseCommand service text with
    | error message => exact ⟨rfl, rfl, rfl, message, parsed, rfl⟩
    | ok command => exact ⟨rfl, rfl, parsed⟩

theorem finishLine_hasRead (w : ControlWorker L E P) :
    (w.finishLine service).exchanges = w.exchanges ∧ (w.finishLine service).unsent = w.unsent ∧
      HasRead service (w.finishLine service).phase := by
  unfold finishLine
  split
  · exact ⟨rfl, rfl, trivial⟩
  · exact handle_hasRead _ _

theorem readRequestLine_hasRead (reading : w.phase = .reading) (n : Nat) :
    (w.readRequestLine service n).exchanges = w.exchanges ∧ (w.readRequestLine service n).unsent = w.unsent ∧
      HasRead service (w.readRequestLine service n).phase := by
  obtain ⟨buffer, inbound, filled, _⟩ := fillBuf_same n w
  have stays : HasRead service w.phase := by
    rw [reading]
    trivial
  simp only [readRequestLine, filled]
  split
  · split
    · exact ⟨rfl, rfl, stays⟩
    · split
      · exact ⟨rfl, rfl, trivial⟩
      · exact finishLine_hasRead _
  · generalize buffer.findIdx? (· == 10) = stop
    cases stop with
    | none =>
        simp only [Option.isSome_none, Bool.false_eq_true, if_false]
        split
        · exact ⟨rfl, rfl, trivial⟩
        · exact ⟨rfl, rfl, stays⟩
    | some i =>
        simp only [Option.isSome_some, if_true]
        split
        · exact ⟨rfl, rfl, trivial⟩
        · exact finishLine_hasRead _

/-- A request without a channel adds no channel. -/
theorem getElem?_unclaimed {slots : List (String × Option Nat)} {slot : String × Option Nat} (unclaimed : slot.2 = none)
    {j : Nat} {text : String} {channel : Nat} :
    (slots ++ [slot])[j]? = some (text, some channel) ↔ slots[j]? = some (text, some channel) := by
  rw [List.getElem?_append]
  split
  · rfl
  · rename_i past
    rw [List.getElem?_eq_none (Nat.le_of_not_lt past)]
    refine iff_of_false (fun found => ?_) nofun
    have same := List.mem_singleton.mp (List.mem_of_getElem? found)
    rw [← same] at unclaimed
    cases unclaimed

theorem Follows.of_phase {w' : ControlWorker L E P} (sound : w.Sound → w'.Sound)
    (exchanges : w'.exchanges = w.exchanges) (unsent : w'.unsent = w.unsent) (phase : w'.phase = w.phase) :
    Follows service w w' where
  sound := sound
  parsed text command submitting := .inl (phase ▸ submitting)
  decided x member := .inl (by simpa only [ControlWorker.decided, exchanges, unsent, phase] using member)
  slots j text channel := by simp only [ControlWorker.slots, exchanges, unsent, phase]

theorem Follows.read (n : Nat) : Follows service w (w.read service n) := by
  cases reading : w.phase with
  | reading =>
      have unfolded : w.read service n = w.readRequestLine service n := by rw [ControlWorker.read, reading]
      obtain ⟨exchanges, unsent, hasRead⟩ := readRequestLine_hasRead reading n
      refine ⟨fun sound => sound.read n, ?_, ?_, ?_⟩
      · intro text command submitting
        rw [unfolded] at submitting
        rw [submitting] at hasRead
        exact .inr hasRead
      · intro x member
        rw [unfolded, ControlWorker.decided, exchanges, unsent, List.mem_append] at member
        rcases member with old | new
        · exact .inl (by simpa [ControlWorker.decided, reading] using old)
        · refine .inr ?_
          split at new
          · rename_i writing
            rw [writing] at hasRead
            rw [List.mem_singleton.mp new]
            exact hasRead
          · cases new
      · intro j text channel
        rw [unfolded]
        simp only [ControlWorker.slots, exchanges, unsent, reading]
        cases after : (w.readRequestLine service n).phase with
        | reading => rfl
        | closed ending => rfl
        | waiting text channel =>
            rw [after] at hasRead
            exact hasRead.elim
        | submitting text' command =>
            rw [ControlPhase.slot, ControlPhase.slot, List.append_nil]
            exact getElem?_unclaimed rfl
        | writing exchange last =>
            rw [after] at hasRead
            rw [ControlPhase.slot, ControlPhase.slot, List.append_nil]
            refine getElem?_unclaimed ?_
            rw [Exchange.slot, hasRead.1]
            rfl
  | _ =>
      have unfolded : w.read service n = w := by rw [ControlWorker.read, reading]
      rw [unfolded]
      exact .of_phase id rfl rfl rfl

theorem Follows.arrive (bytes : ControlBytes) : Follows service w (w.arrive bytes) := by
  refine .of_phase (fun sound => sound.arrive bytes) ?_ ?_ ?_ <;>
    · unfold ControlWorker.arrive
      split <;> rfl

theorem Follows.hangUp : Follows service w w.hangUp := .of_phase (fun sound => sound.hangUp) rfl rfl rfl

theorem Follows.expire : Follows service w w.expire := by
  cases reading : w.phase with
  | reading =>
      have unfolded : w.expire = { w with phase := .closed .late } := by rw [ControlWorker.expire, reading]
      rw [unfolded]
      refine ⟨fun sound => unfolded ▸ sound.expire, nofun, fun x member => .inl ?_, fun j text channel => ?_⟩
      · simpa [ControlWorker.decided, reading] using member
      · simp only [ControlWorker.slots, reading, ControlPhase.slot]
  | _ =>
      have unfolded : w.expire = w := by rw [ControlWorker.expire, reading]
      rw [unfolded]
      exact .of_phase id rfl rfl rfl

theorem Follows.write (sound : w.Sound) (sent : Bool) : Follows service w (w.write sent) := by
  cases writing : w.phase with
  | writing exchange last =>
      have unsent := sound.unsent (by simp [writing])
      refine ⟨fun sound => sound.write sent, ?_, fun x member => .inl ?_, fun j text channel => ?_⟩
      · intro text command submitting
        simp only [ControlWorker.write, writing] at submitting
        cases sent <;> cases last <;> cases submitting
      · cases sent <;> cases last <;>
          simpa [ControlWorker.write, ControlWorker.decided, writing, unsent] using member
      · cases sent <;> cases last <;>
          simp [ControlWorker.write, ControlWorker.slots, writing, unsent, ControlPhase.slot]
  | _ =>
      have unfolded : w.write sent = w := by rw [ControlWorker.write, writing]
      rw [unfolded]
      exact .of_phase id rfl rfl rfl

end ControlWorker

/-! ## The books -/

namespace Control
variable {σ L E P : Type} {service : IpcService σ L E P} {s : Control σ L E P}

/-- Why a response is what it is. -/
def Justified (service : IpcService σ L E P) (s : Control σ L E P) (x : Exchange P) : Prop :=
  match x.verdict with
  | .invalid => ∃ message, parseCommand service x.line = .error message ∧ x.response = .failure message
  | .busy => x.response = .busy
  | .replied channel => ∃ e ∈ s.executions, e.channel = channel ∧ e.response = x.response
  | .timedOut _ => x.response = .timedOut

structure Sound (service : IpcService σ L E P) (s : Control σ L E P) : Prop where
  workers : ∀ (i : Nat) (w : ControlWorker L E P), s.workers[i]? = some w → w.Sound
  parsed : ∀ (i : Nat) (w : ControlWorker L E P) (text : String) (command : IpcCommand L E),
    s.workers[i]? = some w → w.phase = .submitting text command → parseCommand service text = .ok command
  justified : ∀ (i : Nat) (w : ControlWorker L E P), s.workers[i]? = some w → ∀ x ∈ w.decided, s.Justified service x
  /-- a request's channel has the request's place -/
  linked : ∀ (i : Nat) (w : ControlWorker L E P) (j : Nat) (text : String) (channel : Nat), s.workers[i]? = some w →
    w.slots[j]? = some (text, some channel) →
    ∃ c, s.channels[channel]? = some c ∧ c.conn = i ∧ c.position = j ∧ parseCommand service text = .ok c.command
  /-- and no other channel has it -/
  owned : ∀ (channel : Nat) (c : ReplyChannel L E P), s.channels[channel]? = some c →
    ∃ w text, s.workers[c.conn]? = some w ∧ w.slots[c.position]? = some (text, some channel)
  once : (s.executions.map (·.channel) ++ s.queue.map (·.2)).Nodup
  queued : ∀ entry ∈ s.queue, ∃ c, s.channels[entry.2]? = some c ∧ c.command = entry.1
  executed : ∀ e ∈ s.executions, ∃ c, s.channels[e.channel]? = some c ∧ c.command = e.command
  replied : ∀ (channel : Nat) (c : ReplyChannel L E P) (response : IpcResponse P), s.channels[channel]? = some c →
    c.reply = some response → ∃ e ∈ s.executions, e.channel = channel ∧ e.response = response

theorem sound_new (loop : σ) : Sound service ({ loop } : Control σ L E P) where
  workers i w found := by cases found
  parsed i w text command found := by cases found
  justified i w found := by cases found
  linked i w j text channel found := by cases found
  owned channel c found := by cases found
  once := List.nodup_nil
  queued entry member := by cases member
  executed e member := by cases member
  replied channel c response found := by cases found

theorem Justified.mono {next : Control σ L E P} (grows : ∀ e ∈ s.executions, e ∈ next.executions) {x : Exchange P}
    (justified : s.Justified service x) : next.Justified service x := by
  unfold Justified at justified ⊢
  split at justified
  · exact justified
  · exact justified
  · obtain ⟨e, member, same⟩ := justified
    exact ⟨e, grows e member, same⟩
  · exact justified

theorem getElem?_setWorker {i : Nat} {w w' : ControlWorker L E P} (found : s.workers[i]? = some w) (k : Nat) :
    (s.setWorker i w').workers[k]? = if k = i then some w' else s.workers[k]? := by
  obtain ⟨bound, _⟩ := List.getElem?_eq_some_iff.mp found
  simp only [setWorker, List.getElem?_set]
  by_cases same : i = k
  · subst same
    simp [bound]
  · rw [if_neg same, if_neg (Ne.symm same)]

/-- A worker is replaced by one with the same channels. -/
theorem Sound.setWorker (sound : s.Sound service) {i : Nat} {w w' : ControlWorker L E P} (found : s.workers[i]? = some w)
    (kept : w'.Sound)
    (parsed : ∀ text command, w'.phase = .submitting text command → parseCommand service text = .ok command)
    (justified : ∀ x ∈ w'.decided, s.Justified service x)
    (slots : ∀ (j : Nat) (text : String) (channel : Nat),
      w'.slots[j]? = some (text, some channel) ↔ w.slots[j]? = some (text, some channel)) :
    (s.setWorker i w').Sound service where
  workers k v present := by
    rw [getElem?_setWorker found] at present
    split at present
    · cases present
      exact kept
    · exact sound.workers k v present
  parsed k v text command present := by
    rw [getElem?_setWorker found] at present
    split at present
    · cases present
      exact parsed text command
    · exact sound.parsed k v text command present
  justified k v present := by
    rw [getElem?_setWorker found] at present
    split at present
    · cases present
      exact justified
    · exact sound.justified k v present
  linked k v j text channel present place := by
    rw [getElem?_setWorker found] at present
    split at present
    · rename_i here
      cases present
      exact here ▸ sound.linked i w j text channel found ((slots j text channel).mp place)
    · exact sound.linked k v j text channel present place
  owned channel c present := by
    obtain ⟨v, text, had, place⟩ := sound.owned channel c present
    rw [getElem?_setWorker found]
    split
    · rename_i here
      rw [here, found] at had
      cases had
      exact ⟨w', text, rfl, (slots _ text channel).mpr place⟩
    · exact ⟨v, text, had, place⟩
  once := sound.once
  queued := sound.queued
  executed := sound.executed
  replied := sound.replied

theorem Sound.updateWorker (sound : s.Sound service) {i : Nat} {f : ControlWorker L E P → ControlWorker L E P}
    (follows : ∀ w : ControlWorker L E P, w.Sound → ControlWorker.Follows service w (f w)) :
    (s.updateWorker i f).Sound service := by
  unfold Control.updateWorker
  split
  · exact sound
  · rename_i w found
    have good := sound.workers i w found
    have step := follows w good
    refine sound.setWorker found (step.sound good) (fun text command submitting => ?_) (fun x member => ?_) step.slots
    · rcases step.parsed text command submitting with before | parsed
      · exact sound.parsed i w text command found before
      · exact parsed
    · rcases step.decided x member with old | ⟨verdict, message, parsed, response⟩
      · exact sound.justified i w found x old
      · rw [Justified, verdict]
        exact ⟨message, parsed, response⟩

end Control

end Ezpn
