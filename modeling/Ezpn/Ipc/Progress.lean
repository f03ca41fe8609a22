import Ezpn.Ipc.Ledger

/-!
# Progress of a control worker

With no more bytes than have been sent, and whatever becomes of its requests, a
worker comes to its end in a bounded number of its own steps.
-/

set_option autoImplicit false

namespace Ezpn

namespace ControlPhase
variable {L E P : Type}

/-- Steps to the end of the request at hand. -/
def rank : ControlPhase L E P → Nat
  | closed _ => 0
  | reading => 1
  | writing .. => 2
  | waiting .. => 3
  | submitting .. => 4

theorem rank_closed (ending : Ending) : (closed ending : ControlPhase L E P).rank = 0 := rfl

theorem rank_le (phase : ControlPhase L E P) : phase.rank ≤ 4 := by
  cases phase <;> simp [rank]

end ControlPhase

namespace ControlWorker
variable {σ L E P : Type} {service : IpcService σ L E P} {w : ControlWorker L E P}

/-- A byte counts more while it is unread. -/
def measure (w : ControlWorker L E P) : Nat :=
  8 * (w.buffer ++ w.inbound).length + 7 * w.line.length + w.phase.rank

theorem rank_reading (reading : w.phase = .reading) : w.phase.rank = 1 := by
  rw [reading]
  rfl

theorem finishLine_measure (reading : w.phase = .reading) (nonempty : w.line ≠ []) :
    (w.finishLine service).measure < w.measure := by
  have positive := List.length_pos_iff.mpr nonempty
  unfold finishLine
  split
  · simp only [measure, rank_reading reading, ControlPhase.rank_closed]
    omega
  · obtain ⟨phase, handled, _⟩ := handle_phase service _ _
    rw [handled]
    have bound := phase.rank_le
    simp only [measure, rank_reading reading, List.length_nil]
    omega

/-- Bytes that become part of the line. -/
theorem measure_move {line buffer : ControlBytes} (bytes : line.length + buffer.length = w.line.length + w.buffer.length)
    (grows : w.line.length < line.length) : { w with line, buffer }.measure < w.measure := by
  simp only [measure, List.length_append]
  omega

theorem readRequestLine_measure (reading : w.phase = .reading) (n : Nat)
    (ready : w.buffer ++ w.inbound ≠ [] ∨ w.hungUp = true) : (w.readRequestLine service n).measure < w.measure := by
  obtain ⟨buffer, inbound, filled, same, drained⟩ := fillBuf_same n w
  have still : { w with buffer, inbound }.measure = w.measure := by
    simp only [measure, same]
  have closes (ending : Ending) :
      ({ w with buffer, inbound, phase := .closed ending } : ControlWorker L E P).measure < w.measure := by
    rw [← still]
    simp only [measure, rank_reading reading, ControlPhase.rank_closed]
    omega
  rw [← still]
  rw [← still] at closes
  simp only [readRequestLine, filled]
  split
  · rename_i empty
    have empty : buffer = [] := List.isEmpty_iff.mp empty
    rw [← same, empty, drained empty] at ready
    split
    · rename_i listening
      simp only [List.append_nil, ne_eq, not_true, false_or] at ready
      simp [ready] at listening
    · split
      · exact closes .ended
      · rename_i nonempty
        exact finishLine_measure reading (by simpa using nonempty)
  · rename_i nonempty
    have nonempty : buffer ≠ [] := by simpa using nonempty
    have positive := List.length_pos_iff.mpr nonempty
    rcases findIdx_cut buffer with ⟨i, body, found, _, taken⟩ | ⟨absent, _⟩
    · simp only [found, Option.isSome_some, if_true]
      split
      · exact closes .broken
      · have whole := List.take_append_drop (i + 1) buffer
        have counted := congrArg List.length whole
        rw [List.length_append] at counted
        refine lt_trans (finishLine_measure reading ?_) (measure_move (w := { w with buffer, inbound }) ?_ ?_)
        · simp [taken]
        · simp only [List.length_append]
          omega
        · simp [taken]
    · simp only [absent, Option.isSome_none, Bool.false_eq_true, if_false]
      split
      · exact closes .broken
      · refine measure_move (w := { w with buffer, inbound }) ?_ ?_
        · simp
        · simpa using positive

end ControlWorker

namespace Control
variable {σ L E P : Type} {service : IpcService σ L E P} {s : Control σ L E P}

/-- A step that the worker of a connection can take by itself. -/
def Own (conn : Nat) (s : Control σ L E P) (action : ControlAction) : Prop :=
  ∃ w, s.workers[conn]? = some w ∧ match action, w.phase with
    | .read i _, .reading => i = conn ∧ (w.buffer ++ w.inbound ≠ [] ∨ w.hungUp = true)
    | .expire i, .reading => i = conn
    | .submit i, .submitting .. => i = conn
    | .receive i, .waiting _ channel => i = conn ∧ ((s.replyTo channel).isSome ∨ s.running = false)
    | .timeout i, .waiting _ channel => i = conn ∧ s.replyTo channel = none
    | .write i _, .writing .. => i = conn
    | _, _ => False

/-- The worker of a connection has ended. -/
def Closed (conn : Nat) (s : Control σ L E P) : Prop :=
  ∃ w, s.workers[conn]? = some w ∧ w.isActive = false

def Known (conn : Nat) (s : Control σ L E P) : Prop := ∃ w, s.workers[conn]? = some w

def workerMeasure (conn : Nat) (s : Control σ L E P) : Nat :=
  match s.workers[conn]? with
  | none => 0
  | some w => w.measure

/-- The worker is replaced, by one nearer to its end. -/
structure Nearer (conn : Nat) (w : ControlWorker L E P) (next : Control σ L E P) : Prop where
  step : ∃ w', next.workers[conn]? = some w' ∧ w'.measure < w.measure

theorem Nearer.setWorker {next : Control σ L E P} {conn : Nat} {w w' : ControlWorker L E P}
    (found : next.workers[conn]? = some w) (lower : w'.measure < w.measure) : Nearer conn w (next.setWorker conn w') where
  step := ⟨w', by rw [getElem?_setWorker found, if_pos rfl], lower⟩

theorem own_nearer (service : IpcService σ L E P) {conn : Nat} {action : ControlAction} (own : s.Own conn action) :
    ∃ w, s.workers[conn]? = some w ∧ Nearer conn w (s.step service action) := by
  obtain ⟨w, found, possible⟩ := own
  refine ⟨w, found, ?_⟩
  have updated {f : ControlWorker L E P → ControlWorker L E P} (lower : (f w).measure < w.measure) :
      Nearer conn w (s.updateWorker conn f) := by
    rw [Control.updateWorker, found]
    exact .setWorker found lower
  have rephased {phase : ControlPhase L E P} (lower : phase.rank < w.phase.rank) :
      { w with phase }.measure < w.measure := by
    simp only [ControlWorker.measure]
    omega
  cases phase : w.phase with
  | reading =>
      simp only [phase] at possible
      cases action with
      | read i n =>
          obtain ⟨rfl, ready⟩ := possible
          refine updated ?_
          rw [ControlWorker.read, phase]
          exact ControlWorker.readRequestLine_measure phase n ready
      | expire i =>
          subst possible
          refine updated ?_
          simp only [ControlWorker.expire, phase]
          exact rephased (by rw [phase]; simp [ControlPhase.rank])
      | _ => exact possible.elim
  | submitting text command =>
      simp only [phase] at possible
      cases action with
      | submit i =>
          subst possible
          simp only [step, submit, found, phase]
          split
          · exact .setWorker found (rephased (by rw [phase]; simp [ControlPhase.rank]))
          · exact .setWorker found (rephased (by rw [phase]; simp [ControlPhase.rank]))
      | _ => exact possible.elim
  | waiting text channel =>
      simp only [phase] at possible
      cases action with
      | receive i =>
          obtain ⟨rfl, ready⟩ := possible
          simp only [step, receive, found, phase]
          split
          · exact .setWorker found (rephased (by rw [phase]; simp [ControlPhase.rank]))
          · rename_i none
            simp only [none, Option.isSome_none, Bool.false_eq_true, false_or] at ready
            rw [if_neg (by simp [ready])]
            exact .setWorker found (rephased (by rw [phase]; simp [ControlPhase.rank]))
      | timeout i =>
          obtain ⟨rfl, none⟩ := possible
          simp only [step, timeout, found, phase, none, Option.isSome_none, Bool.false_eq_true, if_false]
          exact .setWorker found (rephased (by rw [phase]; simp [ControlPhase.rank]))
      | _ => exact possible.elim
  | writing exchange last =>
      simp only [phase] at possible
      cases action with
      | write i sent =>
          subst possible
          refine updated ?_
          simp only [ControlWorker.write, phase]
          split
          · exact rephased (by rw [phase]; simp [ControlPhase.rank])
          · refine rephased ?_
            rw [phase]
            cases last <;> simp [ControlPhase.rank]
      | _ => exact possible.elim
  | closed ending =>
      simp only [phase] at possible

theorem exists_own {conn : Nat} {w : ControlWorker L E P} (found : s.workers[conn]? = some w) (active : w.isActive = true) :
    ∃ action, s.Own conn action := by
  cases phase : w.phase with
  | reading => exact ⟨.expire conn, w, found, by simp only [phase]⟩
  | submitting text command => exact ⟨.submit conn, w, found, by simp only [phase]⟩
  | waiting text channel =>
      cases reply : s.replyTo channel with
      | none => exact ⟨.timeout conn, w, found, by simp only [phase]; exact ⟨trivial, reply⟩⟩
      | some response => exact ⟨.receive conn, w, found, by simp only [phase]; exact ⟨trivial, .inl (by rw [reply]; rfl)⟩⟩
  | writing exchange last => exact ⟨.write conn true, w, found, by simp only [phase]⟩
  | closed ending =>
      rw [ControlWorker.isActive, phase] at active
      cases active

/-- However a worker's steps go, they end. -/
theorem closes {conn : Nat} {w : ControlWorker L E P} (found : s.workers[conn]? = some w) :
    Machine.Inevitable (step service) (Own conn) (Closed conn) s := by
  have known : Known conn s := ⟨w, found⟩
  refine .of_measure (workerMeasure conn) ?_ ?_ known
  · intro s action _ own
    obtain ⟨_, _, w', next, _⟩ := own_nearer service own
    exact ⟨w', next⟩
  · rintro s ⟨w, found⟩
    cases active : w.isActive with
    | false => exact .inl ⟨w, found, active⟩
    | true =>
        refine .inr ⟨exists_own found active, fun action own => ?_⟩
        obtain ⟨v, had, w', next, lower⟩ := own_nearer service own
        rw [workerMeasure, next, workerMeasure, had]
        exact lower

end Control

end Ezpn
