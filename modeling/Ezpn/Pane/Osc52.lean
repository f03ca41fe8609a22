import Ezpn.Pane
import Ezpn.Terminal.Clipboard

/-!
# The clipboard gate of a pane

One pane under its policy, with the child writing at any time and the user
answering the confirm prompt that the server raises for it.
-/

set_option autoImplicit false

namespace Ezpn

namespace Pane
variable {G : Type} [Vt100 G]

omit [Vt100 G] in
/-- The interceptor's view of a pane. -/
def interceptCtx (pane : Pane G) : InterceptCtx :=
  { state := pane.state, osc52Pending := pane.osc52Pending, parser := pane.controlParser }

@[simp] theorem readChunk_clipboardPolicy (world : World) (chunk : Bytes) (pane : Pane G) :
    (pane.readChunk world chunk).clipboardPolicy = pane.clipboardPolicy := rfl

theorem readChunk_gated (world : World) (chunk : Bytes) (pane : Pane G) :
    Gated pane.process pane.clipboardPolicy pane.state.osc52Decision pane.interceptCtx (pane.readChunk world chunk).interceptCtx :=
  (interceptChunk_gated (pane.interceptEnv world) pane.interceptCtx chunk).trans (.of_same rfl rfl rfl)

@[simp] theorem readChunk_process (world : World) (chunk : Bytes) (pane : Pane G) :
    (pane.readChunk world chunk).process = pane.process := rfl

theorem readChunks_gated (world : World) (chunks : List Bytes) (pane : Pane G) :
    (chunks.foldl (fun pane chunk => pane.readChunk world chunk) pane).process = pane.process ∧
      (chunks.foldl (fun pane chunk => pane.readChunk world chunk) pane).clipboardPolicy = pane.clipboardPolicy ∧
      Gated pane.process pane.clipboardPolicy pane.state.osc52Decision pane.interceptCtx
        (chunks.foldl (fun pane chunk => pane.readChunk world chunk) pane).interceptCtx := by
  induction chunks generalizing pane with
  | nil => exact ⟨rfl, rfl, .of_same rfl rfl rfl⟩
  | cons chunk chunks ih =>
      have first := readChunk_gated world chunk pane
      obtain ⟨process, policy, rest⟩ := ih (pane.readChunk world chunk)
      rw [readChunk_clipboardPolicy, readChunk_process] at *
      have decision : (pane.readChunk world chunk).state.osc52Decision = pane.state.osc52Decision := first.keeps
      rw [decision] at rest
      exact ⟨process, policy, first.trans rest⟩

theorem readOutput_process (world : World) (feed : Feed) (pane : Pane G) :
    (pane.readOutput world feed).1.process = pane.process :=
  (readChunks_gated world (feed.chunks.take maxDrain) pane).1

theorem readOutput_clipboardPolicy (world : World) (feed : Feed) (pane : Pane G) :
    (pane.readOutput world feed).1.clipboardPolicy = pane.clipboardPolicy :=
  (readChunks_gated world (feed.chunks.take maxDrain) pane).2.1

/-- Whatever a read delivers, the queues change only as the gate allows. -/
theorem readOutput_gated (world : World) (feed : Feed) (pane : Pane G) :
    Gated pane.process pane.clipboardPolicy pane.state.osc52Decision pane.interceptCtx
      (pane.readOutput world feed).1.interceptCtx :=
  (readChunks_gated world (feed.chunks.take maxDrain) pane).2.2.trans (.of_same rfl rfl rfl)

end Pane

/-! ## A pane and its prompt -/

structure PromptedPane (G : Type) where
  pane : Pane G
  /-- payloads under the prompt -/
  prompt : Option (List Envelope) := none

inductive GateAction where
  /-- the server reads the child's output -/
  | read (world : World) (feed : Pane.Feed)
  /-- the server forwards the queue to the clients -/
  | forward
  /-- the server raises a prompt if payloads wait and none is open -/
  | ask
  | accept
  | reject
  | defer

namespace PromptedPane
variable {G : Type} [Vt100 G]

def act (gate : PromptedPane G) : GateAction → PromptedPane G
  | .read world feed => { gate with pane := (gate.pane.readOutput world feed).1 }
  | .forward => { gate with pane := gate.pane.takeOsc52.1 }
  | .ask =>
      if gate.prompt.isSome then gate
      else
        let (pane, pending) := gate.pane.takeOsc52PendingConfirm
        { pane, prompt := if pending.isEmpty then none else some pending }
  | .accept =>
      match gate.prompt with
      | none => gate
      | some payloads => { pane := gate.pane.acceptOsc52 payloads }
  | .reject =>
      match gate.prompt with
      | none => gate
      | some _ => { pane := gate.pane.setOsc52Decision .denied }
  | .defer =>
      match gate.prompt with
      | none => gate
      | some payloads => { pane := gate.pane.requeueOsc52PendingConfirm payloads }

def run (gate : PromptedPane G) (actions : List GateAction) : PromptedPane G := actions.foldl act gate

/-- A pane whose child has not written yet, under a policy. -/
def fresh (pane : Pane G) (policy : ClipboardPolicy) : PromptedPane G :=
  { pane := { pane with clipboardPolicy := policy, state := {}, osc52Pending := [], controlParser := {} } }

/-- Envelopes of the confirm queue and under the prompt: sets that were asked about. -/
def Asked (policy : ClipboardPolicy) (envelope : Envelope) : Prop :=
  policy.set = .confirm ∧ ∃ selection data, ValidEnvelope policy envelope selection data ∧ data ≠ ascii "?"

theorem Asked.nonempty {policy : ClipboardPolicy} {envelope : Envelope} (asked : Asked policy envelope) :
    0 < envelope.bytes.length := by
  obtain ⟨_, selection, data, valid, _⟩ := asked
  rw [valid.bytes]
  simp [osc52Bytes]

structure Guarded (policy : ClipboardPolicy) (gate : PromptedPane G) : Prop where
  current : gate.pane.clipboardPolicy = policy
  forward : ∀ e ∈ gate.pane.osc52Pending, ∃ selection data, ValidEnvelope policy e selection data
  confirm : ∀ e ∈ gate.pane.state.osc52PendingConfirm, Asked policy e
  bounded : QueueBounded gate.pane.state.osc52PendingConfirm
  prompt : ∀ payloads, gate.prompt = some payloads → ∀ e ∈ payloads, Asked policy e

omit [Vt100 G] in
theorem fresh_guarded (pane : Pane G) (policy : ClipboardPolicy) : (fresh pane policy).Guarded policy :=
  ⟨rfl, by simp [fresh], by simp [fresh], .nil, by simp [fresh]⟩

theorem read_guarded {policy : ClipboardPolicy} {gate : PromptedPane G} (guarded : gate.Guarded policy)
    (world : World) (feed : Pane.Feed) : (gate.act (.read world feed)).Guarded policy := by
  have gated := gate.pane.readOutput_gated world feed
  rw [guarded.current] at gated
  obtain ⟨forwarded, forwardEq, _, forwardedValid⟩ := gated.forward
  obtain ⟨confirmed, confirmEq, fits, confirmedValid⟩ := gated.confirm
  refine ⟨(gate.pane.readOutput_clipboardPolicy world feed).trans guarded.current, ?_, ?_, ?_, guarded.prompt⟩
  · intro e member
    rcases List.mem_append.mp (forwardEq.subst (motive := fun queue => e ∈ queue) member) with old | new
    · exact guarded.forward e old
    · obtain ⟨selection, data, valid, _⟩ := forwardedValid e new
      exact ⟨selection, data, valid⟩
  · intro e member
    rcases List.mem_append.mp (confirmEq.subst (motive := fun queue => e ∈ queue) member) with old | new
    · exact guarded.confirm e old
    · obtain ⟨_, asks, _, valid⟩ := confirmedValid e new
      exact ⟨asks, valid⟩
  · rcases fits with rfl | fits
    · rw [List.append_nil] at confirmEq
      exact confirmEq ▸ guarded.bounded
    · exact fits

theorem act_guarded {policy : ClipboardPolicy} {gate : PromptedPane G} (guarded : gate.Guarded policy)
    (action : GateAction) : (gate.act action).Guarded policy := by
  cases action with
  | read world feed => exact read_guarded guarded world feed
  | forward => exact ⟨guarded.current, by simp [act, Pane.takeOsc52], guarded.confirm, guarded.bounded, guarded.prompt⟩
  | ask =>
      simp only [act]
      split
      · exact guarded
      · refine ⟨guarded.current, guarded.forward, by simp [Pane.takeOsc52PendingConfirm], .nil, ?_⟩
        intro payloads raised
        by_cases empty : gate.pane.state.osc52PendingConfirm.isEmpty = true
        · simp [Pane.takeOsc52PendingConfirm, empty] at raised
        · simp only [Pane.takeOsc52PendingConfirm, empty, Bool.false_eq_true, ↓reduceIte, Option.some.injEq] at raised
          exact raised ▸ guarded.confirm
  | accept =>
      simp only [act]
      split
      · exact guarded
      · rename_i payloads raised
        refine ⟨guarded.current, ?_, guarded.confirm, guarded.bounded, by simp⟩
        intro e member
        rcases List.mem_append.mp member with old | new
        · exact guarded.forward e old
        · obtain ⟨_, selection, data, valid, _⟩ := guarded.prompt payloads raised e new
          exact ⟨selection, data, valid⟩
  | reject =>
      simp only [act]
      split
      · exact guarded
      · exact ⟨guarded.current, guarded.forward, guarded.confirm, guarded.bounded, by simp⟩
  | defer =>
      simp only [act]
      split
      · exact guarded
      · rename_i payloads raised
        have asked : ∀ e ∈ payloads ++ gate.pane.state.osc52PendingConfirm, Asked policy e := by
          intro e member
          rcases List.mem_append.mp member with old | new
          · exact guarded.prompt payloads raised e old
          · exact guarded.confirm e new
        obtain ⟨bounded, from_⟩ := foldl_enqueueOsc (fun e member => (asked e member).nonempty) .nil
        refine ⟨guarded.current, guarded.forward, ?_, bounded, by simp⟩
        intro e member
        rcases from_ e member with impossible | inPayloads
        · simp at impossible
        · exact asked e inPayloads

theorem run_guarded (pane : Pane G) (policy : ClipboardPolicy) (actions : List GateAction) :
    ((fresh pane policy).run actions).Guarded policy := by
  suffices ∀ gate : PromptedPane G, gate.Guarded policy → (gate.run actions).Guarded policy from
    this _ (fresh_guarded pane policy)
  induction actions with
  | nil => exact fun gate guarded => guarded
  | cons action actions ih => exact fun gate guarded => ih _ (act_guarded guarded action)

/-- The child writing on its own: nothing but reads. -/
def readAll (gate : PromptedPane G) (reads : List (World × Pane.Feed)) : PromptedPane G :=
  gate.run (reads.map fun read => .read read.1 read.2)

theorem readAll_gated {policy : ClipboardPolicy} (gate : PromptedPane G) (current : gate.pane.clipboardPolicy = policy)
    (reads : List (World × Pane.Feed)) :
    Gated gate.pane.process policy gate.pane.state.osc52Decision gate.pane.interceptCtx
      (gate.readAll reads).pane.interceptCtx := by
  induction reads generalizing gate with
  | nil => exact .of_same rfl rfl rfl
  | cons read reads ih =>
      have first := gate.pane.readOutput_gated read.1 read.2
      have rest := ih (gate.act (.read read.1 read.2))
        ((gate.pane.readOutput_clipboardPolicy read.1 read.2).trans current)
      have decision : (gate.act (.read read.1 read.2)).pane.state.osc52Decision = gate.pane.state.osc52Decision :=
        first.keeps
      have process : (gate.act (.read read.1 read.2)).pane.process = gate.pane.process :=
        gate.pane.readOutput_process read.1 read.2
      rw [decision, process] at rest
      rw [current] at first
      exact first.trans rest

/-- What one action adds to the forward queue is permitted under the decision it leaves. -/
theorem act_permitted {policy : ClipboardPolicy} {gate : PromptedPane G} (guarded : gate.Guarded policy)
    (action : GateAction) :
    ∃ added, ((gate.act action).pane.osc52Pending = gate.pane.osc52Pending ++ added ∨
        (added = [] ∧ (gate.act action).pane.osc52Pending = [])) ∧
      ∀ e ∈ added, ∃ selection data, ValidEnvelope policy e selection data ∧
        Permitted policy (gate.act action).pane.state.osc52Decision data := by
  have unchanged (other : PromptedPane G) (same : other.pane.osc52Pending = gate.pane.osc52Pending) :
      ∃ added, (other.pane.osc52Pending = gate.pane.osc52Pending ++ added ∨
          (added = [] ∧ other.pane.osc52Pending = [])) ∧
        ∀ e ∈ added, ∃ selection data, ValidEnvelope policy e selection data ∧
          Permitted policy other.pane.state.osc52Decision data :=
    ⟨[], .inl (by rw [same, List.append_nil]), by simp⟩
  cases action with
  | read world feed =>
      have gated := gate.pane.readOutput_gated world feed
      rw [guarded.current] at gated
      obtain ⟨forwarded, forwardEq, _, forwardedValid⟩ := gated.forward
      have decision : (gate.act (.read world feed)).pane.state.osc52Decision = gate.pane.state.osc52Decision :=
        gated.keeps
      rw [decision]
      exact ⟨forwarded, .inl forwardEq, forwardedValid⟩
  | forward => exact ⟨[], .inr ⟨rfl, rfl⟩, by simp⟩
  | ask =>
      refine unchanged _ ?_
      simp only [act]
      split <;> rfl
  | accept =>
      cases raised : gate.prompt with
      | none => exact unchanged _ (by simp only [act, raised])
      | some payloads =>
          simp only [act, raised]
          refine ⟨payloads, .inl rfl, fun e member => ?_⟩
          obtain ⟨asks, selection, data, valid, notQuery⟩ := guarded.prompt payloads raised e member
          refine ⟨selection, data, valid, ?_⟩
          simp [Permitted, notQuery, asks, Pane.acceptOsc52, Pane.setOsc52Decision]
  | reject =>
      refine unchanged _ ?_
      simp only [act]
      split <;> rfl
  | defer =>
      refine unchanged _ ?_
      simp only [act]
      split <;> rfl

/-- For every policy, child output and sequence of answers: an envelope enters the
forward queue only when it is permitted; a denial stands whatever the child sends;
every envelope is well formed; and the child alone fills neither queue beyond its
bounds. -/
theorem osc52_gate (pane : Pane G) (policy : ClipboardPolicy) (actions : List GateAction) (action : GateAction) :
    let before := (fresh pane policy).run actions
    let after := before.act action
    (∃ added, (after.pane.osc52Pending = before.pane.osc52Pending ++ added ∨
          (added = [] ∧ after.pane.osc52Pending = [])) ∧
        ∀ e ∈ added, ∃ selection data, ValidEnvelope policy e selection data ∧
          Permitted policy after.pane.state.osc52Decision data) ∧
      (∀ reads, before.pane.state.osc52Decision = .denied ∨ policy.set = .deny →
        (before.readAll reads).pane.state.osc52Decision = before.pane.state.osc52Decision ∧
          (before.readAll reads).pane.state.osc52PendingConfirm = before.pane.state.osc52PendingConfirm ∧
          ∃ added, (before.readAll reads).pane.osc52Pending = before.pane.osc52Pending ++ added ∧
            ∀ e ∈ added, ∃ selection, ValidEnvelope policy e selection (ascii "?") ∧ policy.get = .allow) ∧
      (∀ e ∈ before.pane.osc52Pending ++ before.pane.state.osc52PendingConfirm ++ before.prompt.getD [],
        ∃ selection data, ValidEnvelope policy e selection data ∧ ∀ b ∈ selection ++ data, 0x20 ≤ b ∧ b ≤ 0x7E) ∧
      QueueBounded before.pane.state.osc52PendingConfirm ∧
      ∀ reads, (before.readAll reads).pane.osc52Pending = before.pane.osc52Pending ∨
        QueueBounded (before.readAll reads).pane.osc52Pending := by
  intro before after
  have guarded : before.Guarded policy := run_guarded pane policy actions
  refine ⟨act_permitted guarded action, ?_, ?_, guarded.bounded, ?_⟩
  · intro reads denied
    have gated := before.readAll_gated guarded.current reads
    obtain ⟨forwarded, forwardEq, _, forwardedValid⟩ := gated.forward
    obtain ⟨confirmed, confirmEq, _, confirmedValid⟩ := gated.confirm
    have none : confirmed = [] := by
      cases confirmed with
      | nil => rfl
      | cons e rest =>
          obtain ⟨_, asks, undecided, _⟩ := confirmedValid e List.mem_cons_self
          rcases denied with denied | denied
          · rw [undecided] at denied
            cases denied
          · rw [asks] at denied
            cases denied
    rw [none, List.append_nil] at confirmEq
    refine ⟨gated.keeps, confirmEq, forwarded, forwardEq, fun e member => ?_⟩
    obtain ⟨selection, data, valid, permitted⟩ := forwardedValid e member
    by_cases query : data = ascii "?"
    · rw [Permitted, if_pos query] at permitted
      exact ⟨selection, query ▸ valid, permitted⟩
    · rw [Permitted, if_neg query] at permitted
      obtain ⟨notDeny, notDenied, _⟩ := permitted
      rcases denied with denied | denied
      · exact absurd denied notDenied
      · exact absurd denied notDeny
  · intro e member
    have listed : ∃ selection data, ValidEnvelope policy e selection data := by
      rcases List.mem_append.mp member with inQueues | inPrompt
      · rcases List.mem_append.mp inQueues with inForward | inConfirm
        · exact guarded.forward e inForward
        · obtain ⟨_, selection, data, valid, _⟩ := guarded.confirm e inConfirm
          exact ⟨selection, data, valid⟩
      · cases raised : before.prompt with
        | none => simp [raised] at inPrompt
        | some payloads =>
            obtain ⟨_, selection, data, valid, _⟩ := guarded.prompt payloads raised e (by simpa [raised] using inPrompt)
            exact ⟨selection, data, valid⟩
    obtain ⟨selection, data, valid⟩ := listed
    exact ⟨selection, data, valid, valid.printable⟩
  · intro reads
    have gated := before.readAll_gated guarded.current reads
    obtain ⟨forwarded, forwardEq, fits, _⟩ := gated.forward
    rcases fits with rfl | fits
    · rw [List.append_nil] at forwardEq
      exact .inl forwardEq
    · exact .inr fits

end PromptedPane

end Ezpn
