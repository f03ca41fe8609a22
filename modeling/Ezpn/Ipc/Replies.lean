import Ezpn.Ipc.Answers
import Ezpn.Ipc.Progress
import Mathlib.Data.List.TakeWhile

/-!
# What clients of the control socket can rely on
-/

set_option autoImplicit false

namespace Ezpn

namespace Control
variable {σ L E P : Type} {service : IpcService σ L E P} {s : Control σ L E P}

/-- The executions of one request of a connection. -/
def executionsOf (conn position : Nat) (s : Control σ L E P) : List (Execution L E P) :=
  s.executions.filter fun e =>
    match s.channels[e.channel]? with
    | none => false
    | some c => c.conn == conn && c.position == position

theorem mem_executionsOf {conn position : Nat} {e : Execution L E P} :
    e ∈ s.executionsOf conn position ↔
      e ∈ s.executions ∧ ∃ c, s.channels[e.channel]? = some c ∧ c.conn = conn ∧ c.position = position := by
  rw [executionsOf, List.mem_filter]
  refine and_congr_right fun _ => ?_
  cases s.channels[e.channel]? with
  | none => simp
  | some c => simp

/-- Executions are of requests, each through its own channel. -/
theorem Sound.execution (sound : s.Sound service) {conn position : Nat} {e : Execution L E P}
    (member : e ∈ s.executionsOf conn position) :
    ∃ w text, s.workers[conn]? = some w ∧ w.slots[position]? = some (text, some e.channel) ∧
      parseCommand service text = .ok e.command := by
  obtain ⟨executed, c, found, rfl, rfl⟩ := mem_executionsOf.mp member
  obtain ⟨w, text, present, place⟩ := sound.owned e.channel c found
  obtain ⟨c', had, _, _, parsed⟩ := sound.linked _ w _ text e.channel present place
  obtain ⟨c'', has, command⟩ := sound.executed e executed
  rw [had] at has
  cases has
  exact ⟨w, text, present, place, command ▸ parsed⟩

theorem Sound.executions_once (sound : s.Sound service) (conn position : Nat) :
    (s.executionsOf conn position).length ≤ 1 := by
  have distinct : ((s.executionsOf conn position).map (·.channel)).Nodup :=
    (List.nodup_append.mp sound.once).1.sublist (List.filter_sublist.map _)
  match executions : s.executionsOf conn position with
  | [] => exact Nat.zero_le _
  | [_] => exact Nat.le_refl _
  | e :: e' :: others =>
      obtain ⟨w, text, present, place, _⟩ := sound.execution (e := e) (executions ▸ List.mem_cons_self)
      obtain ⟨w', text', present', place', _⟩ :=
        sound.execution (e := e') (executions ▸ List.mem_cons_of_mem _ List.mem_cons_self)
      rw [present] at present'
      cases present'
      rw [place] at place'
      have same : e.channel = e'.channel := by simpa using (congrArg (·.map Prod.snd) place')
      rw [executions] at distinct
      simp [same] at distinct

/-- Why the client gets the response it gets for a request. -/
def Genuine (service : IpcService σ L E P) (s : Control σ L E P) (conn position : Nat) (x : Exchange P) : Prop :=
  match x.verdict with
  | .invalid =>
      (∃ message, parseCommand service x.line = .error message ∧ x.response = .failure message) ∧
        s.executionsOf conn position = []
  | .busy => x.response = .busy ∧ s.executionsOf conn position = []
  | .replied _ => ∃ e, s.executionsOf conn position = [e] ∧ x.response = e.response
  | .timedOut _ => x.response = .timedOut

theorem Sound.genuine (sound : s.Sound service) {conn position : Nat} {w : ControlWorker L E P} {x : Exchange P}
    (found : s.workers[conn]? = some w) (sent : w.exchanges[position]? = some x) : Genuine service s conn position x := by
  have settled : x ∈ w.decided :=
    List.mem_append_left _ (List.mem_append_left _ (List.mem_of_getElem? sent))
  have justified := sound.justified conn w found x settled
  have place : w.slots[position]? = some x.slot := by
    have inside : position < (w.exchanges.map (·.slot)).length := by
      rw [List.length_map]
      exact (List.getElem?_eq_some_iff.mp sent).1
    rw [ControlWorker.slots, List.append_assoc, List.getElem?_append_left inside, List.getElem?_map, sent]
    rfl
  have unexecuted (unclaimed : x.verdict.channel? = none) : s.executionsOf conn position = [] := by
    refine List.eq_nil_iff_forall_not_mem.mpr fun e member => ?_
    obtain ⟨w', text, present, claimed, _⟩ := sound.execution member
    rw [found] at present
    cases present
    rw [place, Exchange.slot, unclaimed] at claimed
    cases claimed
  unfold Genuine
  unfold Justified at justified
  cases verdict : x.verdict with
  | invalid =>
      rw [verdict] at justified
      exact ⟨justified, unexecuted (by rw [verdict]; rfl)⟩
  | busy =>
      rw [verdict] at justified
      exact ⟨justified, unexecuted (by rw [verdict]; rfl)⟩
  | replied channel =>
      rw [verdict] at justified
      obtain ⟨e, executed, rfl, response⟩ := justified
      have claimed : w.slots[position]? = some (x.line, some e.channel) := by
        rw [place, Exchange.slot, verdict]
        rfl
      obtain ⟨c, had, here, there, _⟩ := sound.linked conn w position x.line e.channel found claimed
      have member : e ∈ s.executionsOf conn position := mem_executionsOf.mpr ⟨executed, c, had, here, there⟩
      have once := sound.executions_once conn position
      refine ⟨e, ?_, response.symm⟩
      cases executions : s.executionsOf conn position with
      | nil =>
          rw [executions] at member
          cases member
      | cons first others =>
          rw [executions] at member once
          cases List.eq_nil_of_length_eq_zero (Nat.le_zero.mp (Nat.le_of_succ_le_succ once))
          rw [List.mem_singleton.mp member]
  | timedOut channel =>
      rw [verdict] at justified
      exact justified

/-- What is left when a worker has ended: all it was to answer has been answered. -/
def Complete (w : ControlWorker L E P) : Prop :=
  match w.phase with
  | .closed .ended => w.exchanges.map (·.line) = requests true w.stream
  | .closed .broken => w.exchanges.map (·.line) = requests w.hungUp w.stream
  | .closed .late =>
      ∃ front line unread, w.stream = front ++ (line ++ unread) ∧ 10 ∉ line ∧
        w.exchanges.map (·.line) = requests w.hungUp front
  | _ => True

theorem complete_of_sound {w : ControlWorker L E P} (sound : w.Sound) : Complete w := by
  have asks := sound.requests
  have slots (closed : ∃ ending, w.phase = .closed ending ∧ ending ≠ .unsent) :
      w.slots.map Prod.fst = w.exchanges.map (·.line) := by
    obtain ⟨ending, phase, sent⟩ := closed
    rw [ControlWorker.slots, sound.unsent (by rw [phase]; simpa using sent), phase]
    simp [ControlPhase.slot, Exchange.slot]
  unfold Complete
  split
  · rename_i phase
    obtain ⟨hungUp, rest⟩ := sound.ended phase
    rw [hungUp, slots ⟨_, phase, by rintro ⟨⟩⟩, rest] at asks
    rw [asks]
    exact (List.append_nil _).symm
  · rename_i phase
    have none := sound.broken phase w.hungUp [] fun hungUp => ⟨hungUp, rfl⟩
    rw [List.append_nil] at none
    rw [asks, slots ⟨_, phase, by rintro ⟨⟩⟩, requests, none]
    exact (List.append_nil _).symm
  · rename_i phase
    refine ⟨w.handled.flatten, w.line, w.buffer ++ w.inbound, sound.bytes, (sound.line (by simp [phase])).1, ?_⟩
    have pieces : Lines.pieces 10 w.hungUp w.handled.flatten = w.handled := by
      rcases sound.cut with terminated | ⟨hungUp, rest, _⟩
      · have cut : Lines.pieces 10 w.hungUp (w.handled.flatten ++ []) = _ := Lines.pieces_flatten terminated
        rwa [Lines.pieces_nil, List.append_nil, List.append_nil] at cut
      · have cut := sound.cut.pieces
        rwa [rest, Lines.pieces_nil, List.append_nil, List.append_nil] at cut
    have good := readable_append sound.good []
    rw [List.append_nil] at good
    rw [requests, pieces, good, ← slots ⟨_, phase, by rintro ⟨⟩⟩, ← sound.slots]
    simp [readable]
  · trivial

/-- What holds of a connection at any moment of a run. -/
structure Answered (service : IpcService σ L E P) (s : Control σ L E P) (conn : Nat) (w : ControlWorker L E P) : Prop where
  ordered : w.exchanges.map (·.line) <+: requests w.hungUp w.stream
  complete : Complete w
  genuine : ∀ (position : Nat) (x : Exchange P), w.exchanges[position]? = some x → Genuine service s conn position x
  once : ∀ position : Nat, (s.executionsOf conn position).length ≤ 1
  /-- what is executed is a request of the connection, whole -/
  asked : ∀ (position : Nat) (e : Execution L E P), e ∈ s.executionsOf conn position →
    ∃ text, (requests w.hungUp w.stream)[position]? = some text ∧ parseCommand service text = .ok e.command ∧
      ∀ more command, parseCommand service (text ++ more) = .ok command → isBlankLine more = true
  ends : Machine.Inevitable (step service) (Own conn) (Closed conn) s

/-- JSON texts do not begin each other, but for white space after them. -/
def WholeJson (service : IpcService σ L E P) : Prop :=
  ∀ text more command command', parseCommand service text = .ok command → parseCommand service (text ++ more) = .ok command' →
    isBlankLine more = true

theorem Sound.answered (sound : s.Sound service) (json : WholeJson service) {conn : Nat} {w : ControlWorker L E P}
    (found : s.workers[conn]? = some w) : Answered service s conn w where
  ordered := by
    rw [(sound.workers conn w found).requests, ControlWorker.slots, List.append_assoc, List.map_append, List.append_assoc,
      List.map_map]
    exact List.prefix_append _ _
  complete := complete_of_sound (sound.workers conn w found)
  genuine position x sent := sound.genuine found sent
  once position := sound.executions_once conn position
  asked position e member := by
    obtain ⟨w', text, present, place, parsed⟩ := sound.execution member
    rw [found] at present
    cases present
    refine ⟨text, ?_, parsed, fun more command => json text more e.command command parsed⟩
    have inside := (List.getElem?_eq_some_iff.mp place).1
    rw [(sound.workers conn w found).requests, List.getElem?_append_left (by rwa [List.length_map]), List.getElem?_map, place]
    rfl
  ends := closes found

/-- Whatever the clients send, however it is cut, and however the workers, the main loop, the deadlines and the
disconnections interleave. -/
theorem control_answered (service : IpcService σ L E P) (json : WholeJson service) (loop : σ) (s : Control σ L E P)
    (run : Machine.Run (step service) (fun _ _ => True) { loop } s) (conn : Nat) (w : ControlWorker L E P)
    (found : s.workers[conn]? = some w) : Answered service s conn w :=
  (run.invariant (fun _ action sound _ => sound.step action) (sound_new loop)).answered json found

/-! ## Two runs -/

/-- A service that knows one request, and counts what it executes. -/
def listService : IpcService Nat Unit Unit Unit where
  cmdTag _ := some "list"
  legacy line :=
    if line.toList.filter (fun c => !Text.isWhitespace c) = "\x7b\"cmd\":\"list\"\x7d".toList then .ok () else .error "expected value"
  ext _ := .error "unknown variant"
  dispatch executed _ := (executed + 1, .success "listed")

theorem listService_whole : WholeJson listService := by
  intro text more command command' accepted longer
  have filtered {line : String} {command : IpcCommand Unit Unit} (accepted : parseCommand listService line = .ok command) :
      line.toList.filter (fun c => !Text.isWhitespace c) = "\x7b\"cmd\":\"list\"\x7d".toList := by
    have legacy : isExtCommand listService line = false := rfl
    rw [parseCommand, legacy, if_neg Bool.false_ne_true, listService] at accepted
    by_cases known : line.toList.filter (fun c => !Text.isWhitespace c) = "\x7b\"cmd\":\"list\"\x7d".toList
    · exact known
    · simp only [if_neg known] at accepted
      cases accepted
  have whole := filtered longer
  rw [String.toList_append, List.filter_append, filtered accepted] at whole
  have none := List.append_cancel_left (whole.trans (List.append_nil _).symm)
  have white (c : Char) (member : c ∈ more.toList) : Text.isWhitespace c = true := by
    simpa using List.filter_eq_nil_iff.mp none c member
  have trimmed : Text.trimStart more.toList = [] := List.dropWhile_eq_nil_iff.mpr white
  rw [isBlankLine, Text.trim, trimmed]
  rfl

def listLine : ControlBytes := "\x7b\"cmd\":\"list\"\x7d\n".toUTF8.toList

/-- A request in two pieces, the beginning of another, and the end of the connection. -/
def cutOff : Control Nat Unit Unit Unit :=
  [.accept, .arrive 0 (listLine.take 5), .read 0 9, .arrive 0 (listLine.drop 5 ++ listLine.take 7), .hangUp 0, .read 0 30,
    .submit 0, .execute, .receive 0, .write 0 true, .read 0 0, .read 0 0, .write 0 true, .read 0 0].foldl
    (step listService) { loop := 0 }

theorem cutOff_answered : ∃ w, cutOff.workers[0]? = some w ∧ w.phase = .closed .ended ∧ cutOff.loop = 1 ∧
    w.exchanges.map (·.response) = [.success "listed", .failure "invalid request: expected value"] ∧
    Answered listService cutOff 0 w := by
  have present : cutOff.workers[0]?.isSome = true := by decide +kernel
  obtain ⟨w, found⟩ := Option.isSome_iff_exists.mp present
  have ended : cutOff.workers[0]?.map (·.phase) = some (.closed .ended) := by decide +kernel
  have responses : cutOff.workers[0]?.map (·.exchanges.map (·.response)) =
      some [.success "listed", .failure "invalid request: expected value"] := by decide +kernel
  rw [found, Option.map_some, Option.some.injEq] at ended responses
  exact ⟨w, found, ended, by decide +kernel, responses,
    control_answered listService listService_whole 0 cutOff (.of_labels _ _ _) 0 w found⟩

/-- One connection too many. -/
def crowded : Control Nat Unit Unit Unit :=
  (List.replicate 17 ControlAction.accept ++ [ControlAction.arrive 16 listLine, ControlAction.hangUp 16]).foldl (step listService) { loop := 0 }

/-- Its request gets no response, though none failed to be sent and none was refused. -/
theorem crowded_unanswered : ∃ w, crowded.workers[16]? = some w ∧ w.isActive = false ∧ w.exchanges = [] ∧ w.unsent = [] ∧
    requests w.hungUp w.stream = ["\x7b\"cmd\":\"list\"\x7d\n"] := by
  have found : crowded.workers[16]? =
      some { phase := .closed .declined, hungUp := true, inbound := listLine, stream := listLine } := by decide +kernel
  exact ⟨_, found, rfl, rfl, rfl, by decide +kernel⟩

end Control

end Ezpn
