import Ezpn.Terminal.Display

/-!
# The OSC 52 gate of the interceptor

What one byte, and so any stretch of a child's output, can do to the two OSC 52
queues and to the pane's decision.
-/

set_option autoImplicit false

namespace Ezpn

/-! ## Envelopes -/

/-- `ESC ]52; selection ; data BEL`. -/
def osc52Bytes (selection data : Bytes) : Bytes := ascii "\x1b]52;" ++ selection ++ 0x3B :: (data ++ [0x07])

structure ValidEnvelope (policy : ClipboardPolicy) (envelope : Envelope) (selection data : Bytes) : Prop where
  bytes : envelope.bytes = osc52Bytes selection data
  selection : ∀ b ∈ selection, isSelection b = true
  data : data = ascii "?" ∨
    ((∀ b ∈ data, isBase64 b = true) ∧ data.length ≤ min policy.maxBytes oscPayloadMax)

theorem isSelection_printable {b : UInt8} (selects : isSelection b = true) : 0x20 ≤ b ∧ b ≤ 0x7E := by
  have listed : ∀ x ∈ ascii "cpqs01234567", 0x20 ≤ x ∧ x ≤ 0x7E := by decide +kernel
  exact listed b (by simpa [isSelection] using selects)

theorem isBase64_printable {b : UInt8} (encodes : isBase64 b = true) : 0x20 ≤ b ∧ b ≤ 0x7E := by
  have listed : ∀ x ∈ ascii "+/=", 0x20 ≤ x ∧ x ≤ 0x7E := by decide +kernel
  simp only [isBase64, isAsciiDigit, Bool.or_eq_true, Bool.and_eq_true, decide_eq_true_eq] at encodes
  rcases encodes with ((upper | lower) | digit) | symbol
  · grind
  · grind
  · grind
  · exact listed b (by simpa using symbol)

/-- No control byte lies between the introducer and the final BEL. -/
theorem ValidEnvelope.printable {policy : ClipboardPolicy} {envelope : Envelope} {selection data : Bytes}
    (valid : ValidEnvelope policy envelope selection data) : ∀ b ∈ selection ++ data, 0x20 ≤ b ∧ b ≤ 0x7E := by
  intro b member
  rcases List.mem_append.mp member with inSelection | inData
  · exact isSelection_printable (valid.selection b inSelection)
  · rcases valid.data with query | ⟨encoded, _⟩
    · have listed : ∀ x ∈ ascii "?", 0x20 ≤ x ∧ x ≤ 0x7E := by decide +kernel
      exact listed b (query ▸ inData)
    · exact isBase64_printable (encoded b inData)

/-- When an envelope may be placed on the forward queue. -/
def Permitted (policy : ClipboardPolicy) (decision : Osc52Decision) (data : Bytes) : Prop :=
  if data = ascii "?" then policy.get = .allow
  else policy.set ≠ .deny ∧ decision ≠ .denied ∧ (decision = .allowed ∨ policy.set = .allow)

/-! ## Queues -/

structure QueueBounded (queue : List Envelope) : Prop where
  entries : queue.length ≤ oscQueueMax
  bytes : queueBytes queue ≤ oscQueueBytesMax

theorem QueueBounded.nil : QueueBounded [] := ⟨by simp, by simp [queueBytes]⟩

theorem enqueueOsc_cases (queue : List Envelope) {envelope : Envelope} (nonempty : 0 < envelope.bytes.length) :
    enqueueOsc queue envelope = queue ∨
      (enqueueOsc queue envelope = queue ++ [envelope] ∧ QueueBounded (queue ++ [envelope])) := by
  by_cases room : (queue.length < oscQueueMax && envelope.bytes.length ≤ oscQueueBytesMax - queueBytes queue) = true
  · right
    simp only [Bool.and_eq_true, decide_eq_true_eq] at room
    have total : queueBytes (queue ++ [envelope]) = queueBytes queue + envelope.bytes.length := by
      simp [queueBytes]
    refine ⟨by simp [enqueueOsc, room], ?_, by omega⟩
    simp only [List.length_append, List.length_singleton]
    omega
  · exact .inl (by simp only [enqueueOsc, room, Bool.false_eq_true, ↓reduceIte])

/-- Requeued payloads are bounded like any other. -/
theorem foldl_enqueueOsc {payloads queue : List Envelope} (nonempty : ∀ e ∈ payloads, 0 < e.bytes.length)
    (bounded : QueueBounded queue) :
    QueueBounded (payloads.foldl enqueueOsc queue) ∧
      ∀ e ∈ payloads.foldl enqueueOsc queue, e ∈ queue ∨ e ∈ payloads := by
  induction payloads generalizing queue with
  | nil => exact ⟨bounded, fun e member => .inl member⟩
  | cons payload payloads ih =>
      have rest := fun e member => nonempty e (List.mem_cons_of_mem payload member)
      rcases enqueueOsc_cases queue (nonempty payload List.mem_cons_self) with same | ⟨added, fits⟩
      · obtain ⟨bounded, from_⟩ := ih rest bounded
        simp only [List.foldl_cons, same]
        exact ⟨bounded, fun e member => (from_ e member).imp_right (List.mem_cons_of_mem payload)⟩
      · obtain ⟨bounded, from_⟩ := ih rest fits
        simp only [List.foldl_cons, added]
        refine ⟨bounded, fun e member => ?_⟩
        rcases from_ e member with inQueue | inRest
        · rcases List.mem_append.mp inQueue with old | new
          · exact .inl old
          · exact .inr (List.mem_singleton.mp new ▸ List.mem_cons_self)
        · exact .inr (List.mem_cons_of_mem payload inRest)

/-! ## Stretches of output -/

/-- What a stretch of output may do under a policy: keep the decision, append to
the forward queue what the policy and the decision permit, and append sets to the
confirm queue only while the question is open. -/
structure Gated (process : Nat) (policy : ClipboardPolicy) (decision : Osc52Decision) (ctx ctx' : InterceptCtx) : Prop where
  keeps : ctx'.state.osc52Decision = ctx.state.osc52Decision
  forward : ∃ added, ctx'.osc52Pending = ctx.osc52Pending ++ added ∧
    (added = [] ∨ QueueBounded ctx'.osc52Pending) ∧
    ∀ e ∈ added, ∃ selection data, ValidEnvelope policy e selection data ∧ Permitted policy decision data
  confirm : ∃ added, ctx'.state.osc52PendingConfirm = ctx.state.osc52PendingConfirm ++ added ∧
    (added = [] ∨ QueueBounded ctx'.state.osc52PendingConfirm) ∧
    ∀ e ∈ added, e.origin = process ∧ policy.set = .confirm ∧ decision = .pending ∧
      ∃ selection data, ValidEnvelope policy e selection data ∧ data ≠ ascii "?"

theorem Gated.of_same {process : Nat} {policy : ClipboardPolicy} {decision : Osc52Decision} {ctx ctx' : InterceptCtx}
    (sameDecision : ctx'.state.osc52Decision = ctx.state.osc52Decision)
    (sameForward : ctx'.osc52Pending = ctx.osc52Pending)
    (sameConfirm : ctx'.state.osc52PendingConfirm = ctx.state.osc52PendingConfirm) :
    Gated process policy decision ctx ctx' :=
  ⟨sameDecision, ⟨[], by simp [sameForward]⟩, ⟨[], by simp [sameConfirm]⟩⟩

private theorem appended_trans {queue queue' queue'' first second : List Envelope} {P : Envelope → Prop}
    (left : queue' = queue ++ first ∧ (first = [] ∨ QueueBounded queue') ∧ ∀ e ∈ first, P e)
    (right : queue'' = queue' ++ second ∧ (second = [] ∨ QueueBounded queue'') ∧ ∀ e ∈ second, P e) :
    queue'' = queue ++ (first ++ second) ∧ (first ++ second = [] ∨ QueueBounded queue'') ∧
      ∀ e ∈ first ++ second, P e := by
  obtain ⟨grown, fits, permits⟩ := left
  obtain ⟨grown', fits', permits'⟩ := right
  refine ⟨by rw [grown', grown, List.append_assoc], ?_, ?_⟩
  · rcases fits' with rfl | fits'
    · rcases fits with rfl | fits
      · exact .inl rfl
      · rw [List.append_nil] at grown'
        exact .inr (grown' ▸ fits)
    · exact .inr fits'
  · intro e member
    rcases List.mem_append.mp member with member | member
    · exact permits e member
    · exact permits' e member

theorem Gated.trans {process : Nat} {policy : ClipboardPolicy} {decision : Osc52Decision} {ctx mid ctx' : InterceptCtx}
    (first : Gated process policy decision ctx mid) (second : Gated process policy decision mid ctx') :
    Gated process policy decision ctx ctx' := by
  obtain ⟨forward, forwarded⟩ := first.forward
  obtain ⟨forward', forwarded'⟩ := second.forward
  obtain ⟨confirm, confirmed⟩ := first.confirm
  obtain ⟨confirm', confirmed'⟩ := second.confirm
  exact ⟨second.keeps.trans first.keeps, ⟨_, appended_trans forwarded forwarded'⟩,
    ⟨_, appended_trans confirmed confirmed'⟩⟩

/-! ## Handlers -/

theorem stripPrefix_eq_some {lead payload rest : Bytes} (stripped : stripPrefix lead payload = some rest) :
    payload = lead ++ rest := by
  simp only [stripPrefix] at stripped
  split at stripped
  · rename_i leads
    obtain ⟨tail, rfl⟩ := List.isPrefixOf_iff_prefix.mp leads
    simpa using stripped
  · cases stripped

theorem effectiveSet_allow {policy : ClipboardPolicy} {decision : Osc52Decision}
    (allowed : effectiveSet policy decision = .allow) :
    policy.set ≠ .deny ∧ decision ≠ .denied ∧ (decision = .allowed ∨ policy.set = .allow) := by
  simp only [effectiveSet] at allowed
  split at allowed
  · cases allowed
  · rename_i notDenied
    simp only [Bool.or_eq_true, decide_eq_true_eq, not_or] at notDenied
    split at allowed
    · rename_i accepted
      exact ⟨notDenied.1, notDenied.2, .inl accepted⟩
    · exact ⟨notDenied.1, notDenied.2, .inr allowed⟩

theorem effectiveSet_confirm {policy : ClipboardPolicy} {decision : Osc52Decision}
    (asks : effectiveSet policy decision = .confirm) : policy.set = .confirm ∧ decision = .pending := by
  simp only [effectiveSet] at asks
  split at asks
  · cases asks
  · rename_i notDenied
    simp only [Bool.or_eq_true, decide_eq_true_eq, not_or] at notDenied
    split at asks
    · cases asks
    · rename_i notAllowed
      refine ⟨asks, ?_⟩
      cases decision with
      | pending => rfl
      | allowed => exact absurd rfl notAllowed
      | denied => exact absurd rfl notDenied.2

theorem handleOsc52_gated (env : InterceptEnv) (ctx : InterceptCtx) {payload rest : Bytes}
    (command : payload = ascii "52;" ++ rest) :
    Gated env.process env.policy ctx.state.osc52Decision ctx (handleOsc52 env ctx payload rest) := by
  simp only [handleOsc52]
  split
  · exact .of_same rfl rfl rfl
  · rename_i separator data tail
    have whole : rest = rest.takeWhile (· != 0x3B) ++ separator :: data := by
      rw [← tail]
      exact List.takeWhile_append_dropWhile.symm
    have semicolon : separator = 0x3B := by
      have head := List.head?_dropWhile_not (· != 0x3B) rest
      rw [tail] at head
      simpa using head
    generalize rest.takeWhile (· != 0x3B) = selection at whole ⊢
    have bytes : osc52Envelope payload = osc52Bytes selection data := by
      rw [command, osc52Envelope, osc52Bytes, whole, semicolon]
      simp [ascii]
    have nonempty : 0 < (Envelope.mk env.process (osc52Envelope payload)).bytes.length := by
      simp [osc52Envelope]
    generalize same : Envelope.mk env.process (osc52Envelope payload) = envelope at nonempty ⊢
    have bytes : envelope.bytes = osc52Bytes selection data := by rw [← same, bytes]
    split
    · exact .of_same rfl rfl rfl
    · rename_i selects
      have selects : ∀ b ∈ selection, isSelection b = true := by simpa using selects
      split
      · rename_i query
        cases get : env.policy.get with
        | deny => exact .of_same rfl rfl rfl
        | allow =>
            have valid : ValidEnvelope env.policy envelope selection data := ⟨bytes, selects, .inl query⟩
            rcases enqueueOsc_cases ctx.osc52Pending nonempty with full | ⟨added, fits⟩
            · exact .of_same rfl full rfl
            · refine ⟨rfl, ⟨[envelope], added, .inr (added ▸ fits), ?_⟩, ⟨[], by simp⟩⟩
              intro e member
              rw [List.mem_singleton.mp member]
              exact ⟨selection, data, valid, by simp [Permitted, query, get]⟩
      · rename_i notQuery
        split
        · exact .of_same rfl rfl rfl
        · rename_i fitsPolicy
          split
          · exact .of_same rfl rfl rfl
          · rename_i encoded
            have encoded : ∀ b ∈ data, isBase64 b = true := by simpa using encoded
            have valid : ValidEnvelope env.policy envelope selection data :=
              ⟨bytes, selects, .inr ⟨encoded, Nat.le_of_not_lt fitsPolicy⟩⟩
            cases effective : effectiveSet env.policy ctx.state.osc52Decision with
            | deny => exact .of_same rfl rfl rfl
            | allow =>
                rcases enqueueOsc_cases ctx.osc52Pending nonempty with full | ⟨added, fits⟩
                · exact .of_same rfl full rfl
                · refine ⟨rfl, ⟨[envelope], added, .inr (added ▸ fits), ?_⟩, ⟨[], by simp⟩⟩
                  intro e member
                  rw [List.mem_singleton.mp member]
                  exact ⟨selection, data, valid, by simpa [Permitted, notQuery] using effectiveSet_allow effective⟩
            | confirm =>
                rcases enqueueOsc_cases ctx.state.osc52PendingConfirm nonempty with full | ⟨added, fits⟩
                · exact .of_same rfl rfl full
                · refine ⟨rfl, ⟨[], by simp⟩, ⟨[envelope], added, .inr (added ▸ fits), ?_⟩⟩
                  intro e member
                  rw [List.mem_singleton.mp member]
                  obtain ⟨asks, undecided⟩ := effectiveSet_confirm effective
                  exact ⟨by rw [← same], asks, undecided, selection, data, valid, notQuery⟩

/-- The parts of the terminal state the gate is about. -/
def SameAnswers (state state' : PaneTerminalState) : Prop :=
  state'.osc52Decision = state.osc52Decision ∧ state'.osc52PendingConfirm = state.osc52PendingConfirm

theorem applyDecset_sameAnswers (now : Nat) (state : PaneTerminalState) (num : Nat) (on : Bool) :
    SameAnswers state (applyDecset now state num on) := by
  simp only [applyDecset, PaneTerminalState.setAlternateScreen, toggleProtocol, toggleEncoding]
  repeat' split
  all_goals exact ⟨rfl, rfl⟩

theorem applyDecParams_sameAnswers (now : Nat) (final : UInt8) (params : List Bytes) (state : PaneTerminalState) :
    SameAnswers state (applyDecParams now final params state).1 := by
  induction params generalizing state with
  | nil => exact ⟨rfl, rfl⟩
  | cons param rest ih =>
      simp only [applyDecParams]
      cases parseU32 param with
      | none => exact ih state
      | some num =>
          obtain ⟨decision, confirm⟩ := applyDecset_sameAnswers now state num (final == 0x68)
          obtain ⟨decision', confirm'⟩ := ih (applyDecset now state num (final == 0x68))
          exact ⟨decision'.trans decision, confirm'.trans confirm⟩

theorem interceptDecModes_sameAnswers {now : Nat} {state state' : PaneTerminalState} {body output : Bytes}
    {final : UInt8} (owned : interceptDecModes now state body final = some (state', output)) :
    SameAnswers state state' := by
  simp only [interceptDecModes] at owned
  split at owned
  · cases owned
  · split at owned
    · cases owned
    · have same := applyDecParams_sameAnswers now final (List.splitOn 0x3B ‹Bytes›) state
      rw [Option.some.inj owned] at same
      exact same

theorem handleCsiU_gated (process : Nat) (policy : ClipboardPolicy) (decision : Osc52Decision) (ctx : InterceptCtx) (body : Bytes) :
    Gated process policy decision ctx (handleCsiU ctx body) := by
  cases body with
  | nil => exact .of_same rfl rfl rfl
  | cons sigil rest =>
      simp only [handleCsiU]
      repeat' split
      all_goals exact .of_same rfl rfl rfl

theorem handleOsc_gated (env : InterceptEnv) (ctx : InterceptCtx) (payload : Bytes) :
    Gated env.process env.policy ctx.state.osc52Decision ctx (handleOsc env ctx payload) := by
  simp only [handleOsc]
  split
  · simp only [handleTitle]
    repeat' split
    all_goals exact .of_same rfl rfl rfl
  · split
    · rename_i command
      exact handleOsc52_gated env ctx (stripPrefix_eq_some command)
    · simp only [handleOsc7, handleOscColor, handleOsc4]
      repeat' split
      all_goals exact .of_same rfl rfl rfl

/-! ## The step -/

theorem finishOsc_gated (env : InterceptEnv) (ctx : InterceptCtx) (mode : ControlMode) :
    Gated env.process env.policy ctx.state.osc52Decision ctx (finishOsc env ctx mode).1 := by
  simp only [finishOsc]
  split
  · exact .of_same rfl rfl rfl
  · exact (handleOsc_gated env ctx ctx.parser.buffer).trans (.of_same rfl rfl rfl)

theorem finishCsi_gated (env : InterceptEnv) (ctx : InterceptCtx) (final : UInt8) :
    Gated env.process env.policy ctx.state.osc52Decision ctx (finishCsi env ctx final).1 := by
  simp only [finishCsi]
  split
  · exact .of_same rfl rfl rfl
  · have handled : Gated env.process env.policy ctx.state.osc52Decision ctx
        (if final = 0x75 then handleCsiU ctx ctx.parser.buffer else ctx) := by
      split
      · exact handleCsiU_gated _ _ _ _ _
      · exact .of_same rfl rfl rfl
    generalize (if final = 0x75 then handleCsiU ctx ctx.parser.buffer else ctx) = mid at handled ⊢
    split
    · rename_i owned
      obtain ⟨decision, confirm⟩ := interceptDecModes_sameAnswers owned
      exact handled.trans (.of_same decision rfl confirm)
    · exact handled.trans (.of_same rfl rfl rfl)

theorem interceptByte_gated (env : InterceptEnv) (ctx : InterceptCtx) (byte : UInt8) :
    Gated env.process env.policy ctx.state.osc52Decision ctx (interceptByte env ctx byte).1 := by
  simp only [interceptByte]
  split
  · exact .of_same rfl rfl rfl
  · cases ctx.parser.mode with
    | ground =>
        simp only
        split <;> exact .of_same rfl rfl rfl
    | escape =>
        simp only [stepEscape]
        repeat' split
        all_goals exact .of_same rfl rfl rfl
    | escapeIntermediate =>
        simp only [stepIntermediate]
        repeat' split
        all_goals exact .of_same rfl rfl rfl
    | csi =>
        simp only [stepCsi]
        repeat' split
        all_goals first | exact finishCsi_gated _ _ _ | exact .of_same rfl rfl rfl
    | osc =>
        simp only [stepOsc]
        repeat' split
        all_goals first | exact finishOsc_gated _ _ _ | exact .of_same rfl rfl rfl
    | string =>
        simp only [stepString]
        repeat' split
        all_goals exact .of_same rfl rfl rfl
    | stringEscape => exact .of_same rfl rfl rfl

theorem interceptChunk_gated (env : InterceptEnv) (ctx : InterceptCtx) (chunk : Bytes) :
    Gated env.process env.policy ctx.state.osc52Decision ctx (interceptChunk env ctx chunk).1 := by
  refine Transducer.run_invariant (fun ctx' => Gated env.process env.policy ctx.state.osc52Decision ctx ctx') ?_
    (.of_same rfl rfl rfl) chunk
  intro mid byte reached
  have step := interceptByte_gated env mid byte
  rw [reached.keeps] at step
  exact reached.trans step

end Ezpn
