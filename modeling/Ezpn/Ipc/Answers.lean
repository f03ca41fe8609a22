import Ezpn.Ipc.Ledger

/-!
# Replies

What reaches a control connection, over whole runs of the socket and the main loop.
-/

set_option autoImplicit false

namespace Ezpn

namespace Control
variable {σ L E P : Type} {service : IpcService σ L E P} {s : Control σ L E P}

theorem Sound.channel_lt (sound : s.Sound service) {channel : Nat}
    (used : channel ∈ s.executions.map (·.channel) ++ s.queue.map (·.2)) : channel < s.channels.length := by
  have present : ∃ c, s.channels[channel]? = some c := by
    rcases List.mem_append.mp used with executed | queued
    · obtain ⟨e, member, rfl⟩ := List.mem_map.mp executed
      obtain ⟨c, found, _⟩ := sound.executed e member
      exact ⟨c, found⟩
    · obtain ⟨entry, member, rfl⟩ := List.mem_map.mp queued
      obtain ⟨c, found, _⟩ := sound.queued entry member
      exact ⟨c, found⟩
  obtain ⟨c, found⟩ := present
  exact (List.getElem?_eq_some_iff.mp found).1

/-! ## The steps between the parties -/

theorem Sound.accept (sound : s.Sound service) : s.accept.Sound service := by
  simp only [Control.accept]
  generalize accepted :
    (if (s.workers.filter (·.isActive)).length < maxControlWorkers then {} else { phase := .closed .declined } :
      ControlWorker L E P) = fresh
  have new : fresh.Sound ∧ fresh.slots = [] ∧ fresh.decided = [] ∧ ∀ text command, fresh.phase ≠ .submitting text command := by
    split at accepted <;> subst accepted
    · refine ⟨⟨rfl, nofun, rfl, .inl nofun, fun _ => ⟨List.not_mem_nil, Nat.zero_le _⟩, nofun, nofun, fun _ => rfl⟩, rfl, rfl, nofun⟩
    · refine ⟨⟨rfl, nofun, rfl, .inl nofun, fun _ => ⟨List.not_mem_nil, Nat.zero_le _⟩, nofun, nofun, fun _ => rfl⟩, rfl, rfl, nofun⟩
  obtain ⟨good, slots, decided, phase⟩ := new
  have old {i : Nat} {w : ControlWorker L E P} (found : (s.workers ++ [fresh])[i]? = some w) :
      s.workers[i]? = some w ∨ w = fresh := by
    rw [List.getElem?_append] at found
    split at found
    · exact .inl found
    · exact .inr (List.mem_singleton.mp (List.mem_of_getElem? found))
  refine { sound with workers := ?_, parsed := ?_, justified := ?_, linked := ?_, owned := ?_ }
  · intro i w found
    rcases old found with before | rfl
    · exact sound.workers i w before
    · exact good
  · intro i w text command found submitting
    rcases old found with before | rfl
    · exact sound.parsed i w text command before submitting
    · exact absurd submitting (phase text command)
  · intro i w found x member
    rcases old found with before | rfl
    · exact sound.justified i w before x member
    · rw [decided] at member
      cases member
  · intro i w j text channel found place
    rcases old found with before | rfl
    · exact sound.linked i w j text channel before place
    · rw [slots] at place
      cases place
  · intro channel c found
    obtain ⟨w, text, before, place⟩ := sound.owned channel c found
    refine ⟨w, text, ?_, place⟩
    rw [List.getElem?_append_left (List.getElem?_eq_some_iff.mp before).1]
    exact before

/-- A worker settles the request at hand. -/
theorem Sound.settle (sound : s.Sound service) {i : Nat} {w : ControlWorker L E P} (found : s.workers[i]? = some w)
    {text : String} {channel : Option Nat} (slot : w.phase.slot = [(text, channel)])
    (active : ∀ ending, w.phase ≠ .closed ending) {x : Exchange P} {last : Bool} (line : x.slot = (text, channel))
    (justified : s.Justified service x) : (s.setWorker i { w with phase := .writing x last }).Sound service := by
  have good := sound.workers i w found
  refine sound.setWorker found (good.rephase active nofun nofun ?_) nofun (fun y member => ?_) fun j text channel => ?_
  · rw [slot]
    simp [ControlPhase.slot, line]
  · rcases List.mem_append.mp member with old | new
    · exact sound.justified i w found y (List.mem_append_left _ old)
    · exact List.mem_singleton.mp new ▸ justified
  · simp only [ControlWorker.slots, slot]
    rw [ControlPhase.slot, line]

/-- The command goes into the channel, with a reply channel of its own. -/
theorem Sound.enqueue (sound : s.Sound service) {i : Nat} {w : ControlWorker L E P} (found : s.workers[i]? = some w)
    {text : String} {command : IpcCommand L E} (submitting : w.phase = .submitting text command)
    (parsed : parseCommand service text = .ok command) :
    (Control.setWorker i { w with phase := .waiting text s.channels.length }
      { s with
        queue := s.queue ++ [(command, s.channels.length)]
        channels := s.channels ++ [{ conn := i, command, position := w.exchanges.length }] }).Sound service := by
  have good := sound.workers i w found
  have unsent := good.unsent (by simp [submitting])
  have before : w.slots = w.exchanges.map (·.slot) ++ [(text, none)] := by
    simp [ControlWorker.slots, unsent, submitting, ControlPhase.slot]
  have after : ({ w with phase := .waiting text s.channels.length } : ControlWorker L E P).slots =
      w.exchanges.map (·.slot) ++ [(text, some s.channels.length)] := by
    simp [ControlWorker.slots, unsent, ControlPhase.slot]
  have waits : ({ w with phase := .waiting text s.channels.length } : ControlWorker L E P).Sound :=
    good.rephase (by simp [submitting]) (by rintro ⟨⟩) (by rintro ⟨⟩) (by simp [submitting, ControlPhase.slot])
  have old {channel : Nat} {c : ReplyChannel L E P} (present : s.channels[channel]? = some c) (new : ReplyChannel L E P) :
      (s.channels ++ [new])[channel]? = some c := by
    rw [List.getElem?_append_left (List.getElem?_eq_some_iff.mp present).1]
    exact present
  have replaced (k : Nat) {v : ControlWorker L E P} :
      (Control.setWorker i v
        { s with
          queue := s.queue ++ [(command, s.channels.length)]
          channels := s.channels ++ [{ conn := i, command, position := w.exchanges.length }] }).workers[k]? =
        if k = i then some v else s.workers[k]? :=
    getElem?_setWorker found k
  refine ⟨?_, ?_, ?_, ?_, ?_, ?_, ?_, ?_, ?_⟩
  · intro k v present
    rw [replaced] at present
    split at present
    · cases present
      exact waits
    · exact sound.workers k v present
  · intro k v text' command' present
    rw [replaced] at present
    split at present
    · cases present
      rintro ⟨⟩
    · exact sound.parsed k v text' command' present
  · intro k v present x member
    rw [replaced] at present
    split at present
    · cases present
      refine sound.justified i w found x (List.mem_append_left _ ?_)
      simpa [ControlWorker.decided] using member
    · exact sound.justified k v present x member
  · intro k v j text' channel present place
    rw [replaced] at present
    split at present
    · rename_i here
      cases present
      rw [after, List.getElem?_append] at place
      split at place
      · rename_i earlier
        have placed : w.slots[j]? = some (text', some channel) := by
          rw [before, List.getElem?_append_left earlier]
          exact place
        obtain ⟨c, had, linked⟩ := sound.linked i w j text' channel found placed
        exact ⟨c, old had _, here ▸ linked⟩
      · rename_i last
        obtain ⟨single, same⟩ := List.getElem?_eq_some_iff.mp place
        rw [List.length_singleton] at single
        simp only [List.getElem_singleton, Prod.mk.injEq, Option.some.injEq] at same
        obtain ⟨rfl, rfl⟩ := same
        rw [List.length_map] at last single
        exact ⟨_, List.getElem?_concat_length, here.symm, by dsimp only; omega, parsed⟩
    · obtain ⟨c, had, linked⟩ := sound.linked k v j text' channel present place
      exact ⟨c, old had _, linked⟩
  · intro channel c present
    rw [Control.setWorker, List.getElem?_append] at present
    split at present
    · obtain ⟨v, text', had, place⟩ := sound.owned channel c present
      rw [replaced]
      split
      · rename_i here
        rw [here, found] at had
        cases had
        rw [before, ControlWorker.getElem?_unclaimed rfl] at place
        refine ⟨_, text', rfl, ?_⟩
        rw [after, List.getElem?_append_left (List.getElem?_eq_some_iff.mp place).1]
        exact place
      · exact ⟨v, text', had, place⟩
    · rename_i past
      obtain ⟨single, same⟩ := List.getElem?_eq_some_iff.mp present
      rw [List.length_singleton] at single
      rw [List.getElem_singleton] at same
      subst same
      refine ⟨_, text, by rw [replaced, if_pos rfl], ?_⟩
      have last : channel = s.channels.length := by omega
      have place := List.getElem?_concat_length (l := w.exchanges.map (·.slot)) (a := (text, some channel))
      rw [List.length_map] at place
      rw [after, ← last]
      exact place
  · have fresh : s.channels.length ∉ s.executions.map (·.channel) ++ s.queue.map (·.2) :=
      fun used => absurd (sound.channel_lt used) (Nat.lt_irrefl _)
    simp only [Control.setWorker, List.map_append, ← List.append_assoc]
    refine List.nodup_append.mpr ⟨sound.once, List.pairwise_singleton _ _, fun channel used other new same => ?_⟩
    rw [same, List.mem_singleton.mp new] at used
    exact fresh used
  · intro entry member
    rcases List.mem_append.mp member with queued | new
    · obtain ⟨c, had, same⟩ := sound.queued entry queued
      exact ⟨c, old had _, same⟩
    · rw [List.mem_singleton.mp new]
      exact ⟨_, List.getElem?_concat_length, rfl⟩
  · intro e member
    obtain ⟨c, had, same⟩ := sound.executed e member
    exact ⟨c, old had _, same⟩
  · intro channel c response present replied
    rw [Control.setWorker, List.getElem?_append] at present
    split at present
    · exact sound.replied channel c response present replied
    · rw [List.mem_singleton.mp (List.mem_of_getElem? present)] at replied
      cases replied

theorem Sound.submit (sound : s.Sound service) (i : Nat) : (s.submit i).Sound service := by
  unfold Control.submit
  split
  · rename_i w found
    split
    · rename_i text command submitting
      split
      · exact sound.enqueue found submitting (sound.parsed i w text command found submitting)
      · exact sound.settle found (by rw [submitting]; rfl) (by simp [submitting]) rfl rfl
    · exact sound
  · exact sound

theorem Sound.receive (sound : s.Sound service) (i : Nat) : (s.receive i).Sound service := by
  unfold Control.receive
  split
  · rename_i w found
    split
    · rename_i text channel waiting
      have slot : w.phase.slot = [(text, some channel)] := by
        rw [waiting]
        rfl
      split
      · rename_i response reply
        refine sound.settle found slot (by simp [waiting]) rfl ?_
        obtain ⟨c, had, replied⟩ := Option.bind_eq_some_iff.mp reply
        exact sound.replied channel c response had replied
      · split
        · exact sound
        · exact sound.settle found slot (by simp [waiting]) rfl rfl
    · exact sound
  · exact sound

/-- A channel changes only in what it says about the reply. -/
theorem Sound.modifyChannel (sound : s.Sound service) {channel : Nat} {f : ReplyChannel L E P → ReplyChannel L E P}
    (keeps : ∀ c, (f c).conn = c.conn ∧ (f c).position = c.position ∧ (f c).command = c.command)
    (replies : ∀ c response, s.channels[channel]? = some c → (f c).reply = some response →
      ∃ e ∈ s.executions, e.channel = channel ∧ e.response = response) :
    { s with channels := s.channels.modify channel f }.Sound service := by
  have forward {k : Nat} {c : ReplyChannel L E P} (found : s.channels[k]? = some c) :
      ∃ c', (s.channels.modify channel f)[k]? = some c' ∧ c'.conn = c.conn ∧ c'.position = c.position ∧
        c'.command = c.command := by
    rw [List.getElem?_modify, found]
    refine ⟨_, rfl, ?_⟩
    split
    · exact keeps c
    · exact ⟨rfl, rfl, rfl⟩
  have backward {k : Nat} {c' : ReplyChannel L E P} (found : (s.channels.modify channel f)[k]? = some c') :
      ∃ c, s.channels[k]? = some c ∧ c' = if channel = k then f c else c := by
    rw [List.getElem?_modify] at found
    obtain ⟨c, had, same⟩ := Option.map_eq_some_iff.mp found
    exact ⟨c, had, same.symm⟩
  refine { sound with linked := ?_, owned := ?_, queued := ?_, executed := ?_, replied := ?_ }
  · intro i w j text k found place
    obtain ⟨c, had, conn, position, parsed⟩ := sound.linked i w j text k found place
    obtain ⟨c', has, conn', position', command⟩ := forward had
    exact ⟨c', has, conn'.trans conn, position'.trans position, command ▸ parsed⟩
  · intro k c' found
    obtain ⟨c, had, rfl⟩ := backward found
    obtain ⟨w, text, present, place⟩ := sound.owned k c had
    obtain ⟨conn, position, _⟩ := keeps c
    refine ⟨w, text, ?_⟩
    split
    · rw [conn, position]
      exact ⟨present, place⟩
    · exact ⟨present, place⟩
  · intro entry member
    obtain ⟨c, had, same⟩ := sound.queued entry member
    obtain ⟨c', has, _, _, command⟩ := forward had
    exact ⟨c', has, command.trans same⟩
  · intro e member
    obtain ⟨c, had, same⟩ := sound.executed e member
    obtain ⟨c', has, _, _, command⟩ := forward had
    exact ⟨c', has, command.trans same⟩
  · intro k c' response found replied
    obtain ⟨c, had, rfl⟩ := backward found
    split at replied
    · rename_i here
      subst here
      exact replies c response had replied
    · exact sound.replied k c response had replied

theorem Sound.timeout (sound : s.Sound service) (i : Nat) : (s.timeout i).Sound service := by
  unfold Control.timeout
  split
  · rename_i w found
    split
    · rename_i text channel waiting
      split
      · exact sound
      · have dropped : { s with channels := s.channels.modify channel fun c => { c with listening := false } }.Sound service :=
          sound.modifyChannel (fun _ => ⟨rfl, rfl, rfl⟩) (sound.replied channel)
        exact dropped.settle found (by rw [waiting]; rfl) (by simp [waiting]) rfl rfl
    · exact sound
  · exact sound

theorem Sound.execute (sound : s.Sound service) : (s.execute service).Sound service := by
  unfold Control.execute
  split
  · exact sound
  · rename_i command channel queue queued
    generalize service.dispatch s.loop command = served
    obtain ⟨loop, response⟩ := served
    have grows (e : Execution L E P) (member : e ∈ s.executions) : e ∈ s.executions ++ [⟨command, channel, response⟩] :=
      List.mem_append_left _ member
    have popped : Control.Sound service
        { s with loop, queue, executions := s.executions ++ [⟨command, channel, response⟩] } := by
      refine { sound with justified := ?_, once := ?_, queued := ?_, executed := ?_, replied := ?_ }
      · intro i w found x member
        exact (sound.justified i w found x member).mono grows
      · have once := sound.once
        rw [queued, List.map_cons] at once
        rw [List.map_append, List.append_assoc]
        exact once
      · intro entry member
        exact sound.queued entry (queued ▸ List.mem_cons_of_mem _ member)
      · intro e member
        rcases List.mem_append.mp member with old | new
        · exact sound.executed e old
        · rw [List.mem_singleton.mp new]
          exact sound.queued (command, channel) (queued ▸ List.mem_cons_self)
      · intro k c reply found replied
        obtain ⟨e, member, same⟩ := sound.replied k c reply found replied
        exact ⟨e, grows e member, same⟩
    refine popped.modifyChannel (fun c => ?_) fun c reply found replied => ?_
    · unfold ReplyChannel.send
      split
      · exact ⟨rfl, rfl, rfl⟩
      · exact ⟨rfl, rfl, rfl⟩
    · unfold ReplyChannel.send at replied
      split at replied
      · cases replied
        exact ⟨⟨command, channel, response⟩, List.mem_append_right _ (List.mem_singleton_self _), rfl, rfl⟩
      · exact popped.replied channel c reply found replied

theorem Sound.stop (sound : s.Sound service) : { s with running := false, queue := [] }.Sound service := by
  refine { sound with once := ?_, queued := nofun }
  rw [List.map_nil, List.append_nil]
  exact (List.nodup_append.mp sound.once).1

theorem Sound.step (sound : s.Sound service) (action : ControlAction) : (s.step service action).Sound service := by
  cases action with
  | accept => exact sound.accept
  | arrive conn bytes => exact sound.updateWorker fun w _ => .arrive bytes
  | hangUp conn => exact sound.updateWorker fun w _ => .hangUp
  | read conn n => exact sound.updateWorker fun w _ => .read n
  | expire conn => exact sound.updateWorker fun w _ => .expire
  | submit conn => exact sound.submit conn
  | receive conn => exact sound.receive conn
  | timeout conn => exact sound.timeout conn
  | write conn sent => exact sound.updateWorker fun w good => .write good sent
  | execute => exact sound.execute
  | stop => exact sound.stop

end Control

end Ezpn
