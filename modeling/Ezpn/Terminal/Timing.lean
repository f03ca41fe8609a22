import Ezpn.Terminal.Control

/-!
# Reads at different times

The clock reaches the terminal state only as two timestamps. Erasing them
commutes with every step of the interceptor, so the reads of one stream may
happen at any times.
-/

set_option autoImplicit false

namespace Ezpn

namespace PaneTerminalState

/-- Forget when a sync window opened and when the cwd was reported, but not that
they happened. -/
def untimed (state : PaneTerminalState) : PaneTerminalState :=
  { state with
    syncOpenedAt := state.syncOpenedAt.map fun _ => 0
    reportedCwd := state.reportedCwd.map fun report => (report.1, 0) }

theorem setAlternateScreen_untimed (state : PaneTerminalState) (alternate : Bool) :
    (state.setAlternateScreen alternate).untimed = state.untimed.setAlternateScreen alternate := by
  by_cases switched : (state.alternateScreen != alternate) = true <;> simp [setAlternateScreen, untimed, switched]

end PaneTerminalState

def InterceptEnv.untimed (env : InterceptEnv) : InterceptEnv := { env with now := 0 }

def InterceptCtx.untimed (ctx : InterceptCtx) : InterceptCtx := { ctx with state := ctx.state.untimed }

theorem toggleProtocol_untimed (state : PaneTerminalState) (protocol : MouseProtocol) (on : Bool) :
    (toggleProtocol state protocol on).untimed = toggleProtocol state.untimed protocol on := by
  by_cases enabled : on = true <;> by_cases current : state.mouseMode.protocol = protocol <;>
    simp [toggleProtocol, PaneTerminalState.untimed, enabled, current]

theorem toggleEncoding_untimed (state : PaneTerminalState) (encoding : MouseEncoding) (on : Bool) :
    (toggleEncoding state encoding on).untimed = toggleEncoding state.untimed encoding on := by
  by_cases enabled : on = true <;> by_cases current : state.mouseMode.encoding = encoding <;>
    simp [toggleEncoding, PaneTerminalState.untimed, enabled, current]

theorem applyDecset_untimed (now : Nat) (state : PaneTerminalState) (num : Nat) (on : Bool) :
    (applyDecset now state num on).untimed = applyDecset 0 state.untimed num on := by
  unfold applyDecset
  split <;> first
    | exact PaneTerminalState.setAlternateScreen_untimed _ _
    | exact toggleProtocol_untimed _ _ _
    | exact toggleEncoding_untimed _ _ _
    | rfl
    | skip
  cases on <;> cases opened : state.syncOpenedAt <;> simp [PaneTerminalState.untimed, opened]

theorem applyDecParams_untimed (now : Nat) (final : UInt8) (params : List Bytes) (state : PaneTerminalState) :
    (applyDecParams now final params state).1.untimed = (applyDecParams 0 final params state.untimed).1 ∧
      (applyDecParams now final params state).2 = (applyDecParams 0 final params state.untimed).2 := by
  induction params generalizing state with
  | nil => exact ⟨rfl, rfl⟩
  | cons param rest ih =>
      cases mode : parseU32 param with
      | none =>
          obtain ⟨same, output⟩ := ih state
          simp only [applyDecParams, mode, Option.elim]
          exact ⟨same, by rw [output]; rfl⟩
      | some num =>
          obtain ⟨same, output⟩ := ih (applyDecset now state num (final == 0x68))
          rw [applyDecset_untimed] at same output
          simp only [applyDecParams, mode, Option.elim]
          exact ⟨same, by rw [output]; rfl⟩

theorem interceptDecModes_untimed (now : Nat) (state : PaneTerminalState) (body : Bytes) (final : UInt8) :
    (interceptDecModes now state body final).map (fun result => (result.1.untimed, result.2)) =
      interceptDecModes 0 state.untimed body final := by
  simp only [interceptDecModes]
  split
  · rfl
  · split
    · rfl
    · obtain ⟨same, output⟩ := applyDecParams_untimed now final (List.splitOn 0x3B ‹Bytes›) state
      simp [Option.map, same, output]

theorem handleCsiU_untimed (ctx : InterceptCtx) (body : Bytes) :
    (handleCsiU ctx body).untimed = handleCsiU ctx.untimed body := by
  cases body with
  | nil => rfl
  | cons sigil rest =>
      simp only [handleCsiU]
      repeat' split
      all_goals rfl

theorem handleOsc52_untimed (env : InterceptEnv) (ctx : InterceptCtx) (payload rest : Bytes) :
    (handleOsc52 env ctx payload rest).untimed = handleOsc52 env.untimed ctx.untimed payload rest := by
  simp only [handleOsc52]
  split
  · rfl
  · have samePolicy : env.untimed.policy = env.policy := rfl
    have sameDecision : ctx.untimed.state.osc52Decision = ctx.state.osc52Decision := rfl
    rw [samePolicy, sameDecision]
    split
    · rfl
    · split
      · cases env.policy.get <;> rfl
      · split
        · rfl
        · split
          · rfl
          · cases effectiveSet env.policy ctx.state.osc52Decision <;> rfl

theorem handleOsc7_untimed (env : InterceptEnv) (ctx : InterceptCtx) (rest : Bytes) :
    (handleOsc7 env ctx rest).untimed = handleOsc7 env.untimed ctx.untimed rest := by
  simp only [handleOsc7]
  split
  · rfl
  · split
    · rfl
    · have sameHost (host : Bytes) : localOsc7Host env.untimed host = localOsc7Host env host := rfl
      rw [sameHost]
      split
      · rfl
      · split <;> rfl

theorem handleOscColor_untimed (env : InterceptEnv) (ctx : InterceptCtx) (number : Nat) (slot : Option Rgb)
    (rest : Bytes) :
    (handleOscColor env ctx number slot rest).untimed = handleOscColor env.untimed ctx.untimed number slot rest := by
  simp only [handleOscColor]
  have samePalette : env.untimed.palette = env.palette := rfl
  rw [samePalette]
  split
  · rfl
  · cases slot <;> rfl

theorem handleOsc4_untimed (env : InterceptEnv) (ctx : InterceptCtx) (rest : Bytes) :
    (handleOsc4 env ctx rest).untimed = handleOsc4 env.untimed ctx.untimed rest := by
  simp only [handleOsc4]
  have samePalette : env.untimed.palette = env.palette := rfl
  rw [samePalette]
  split
  · rfl
  · split
    · rfl
    · split
      · split <;> rfl
      · rfl

theorem handleTitle_untimed (ctx : InterceptCtx) (title : Bytes) :
    (handleTitle ctx title).untimed = handleTitle ctx.untimed title := by
  simp only [handleTitle]
  split
  · split <;> rfl
  · rfl

theorem handleOsc_untimed (env : InterceptEnv) (ctx : InterceptCtx) (payload : Bytes) :
    (handleOsc env ctx payload).untimed = handleOsc env.untimed ctx.untimed payload := by
  simp only [handleOsc]
  repeat' split
  all_goals first
    | exact handleTitle_untimed _ _
    | exact handleOsc52_untimed _ _ _ _
    | exact handleOsc7_untimed _ _ _
    | exact handleOscColor_untimed _ _ _ _ _
    | exact handleOsc4_untimed _ _ _
    | rfl

/-! ## The step -/

/-- Erasing the timestamps of a step's result. -/
def untimedStep (result : InterceptCtx × Bytes) : InterceptCtx × Bytes := (result.1.untimed, result.2)

theorem finishOsc_untimed (env : InterceptEnv) (ctx : InterceptCtx) (mode : ControlMode) :
    untimedStep (finishOsc env ctx mode) = finishOsc env.untimed ctx.untimed mode := by
  have sameParser : ctx.untimed.parser = ctx.parser := rfl
  simp only [finishOsc, sameParser]
  split
  · rfl
  · have same := handleOsc_untimed env ctx ctx.parser.buffer
    simp only [untimedStep, ← same]
    rfl

theorem finishCsi_untimed (env : InterceptEnv) (ctx : InterceptCtx) (final : UInt8) :
    untimedStep (finishCsi env ctx final) = finishCsi env.untimed ctx.untimed final := by
  have sameParser : ctx.untimed.parser = ctx.parser := rfl
  simp only [finishCsi, sameParser]
  split
  · rfl
  · have sameCtx : (if final = 0x75 then handleCsiU ctx ctx.parser.buffer else ctx).untimed =
        if final = 0x75 then handleCsiU ctx.untimed ctx.parser.buffer else ctx.untimed := by
      split
      · exact handleCsiU_untimed _ _
      · rfl
    rw [← sameCtx]
    generalize (if final = 0x75 then handleCsiU ctx ctx.parser.buffer else ctx) = handled
    have same := interceptDecModes_untimed env.now handled.state ctx.parser.buffer final
    have sameState : handled.untimed.state = handled.state.untimed := rfl
    have noTime : env.untimed.now = 0 := rfl
    rw [sameState, noTime, ← same]
    cases interceptDecModes env.now handled.state ctx.parser.buffer final <;> rfl

theorem stepEscape_untimed (ctx : InterceptCtx) (byte : UInt8) :
    untimedStep (stepEscape ctx byte) = stepEscape ctx.untimed byte := by
  simp only [stepEscape]
  repeat' split
  all_goals rfl

theorem stepIntermediate_untimed (ctx : InterceptCtx) (byte : UInt8) :
    untimedStep (stepIntermediate ctx byte) = stepIntermediate ctx.untimed byte := by
  simp only [stepIntermediate]
  repeat' split
  all_goals rfl

theorem stepCsi_untimed (env : InterceptEnv) (ctx : InterceptCtx) (byte : UInt8) :
    untimedStep (stepCsi env ctx byte) = stepCsi env.untimed ctx.untimed byte := by
  have sameParser : ctx.untimed.parser = ctx.parser := rfl
  simp only [stepCsi, sameParser]
  repeat' split
  all_goals first | exact finishCsi_untimed _ _ _ | rfl

theorem stepOsc_untimed (env : InterceptEnv) (ctx : InterceptCtx) (byte : UInt8) :
    untimedStep (stepOsc env ctx byte) = stepOsc env.untimed ctx.untimed byte := by
  have sameParser : ctx.untimed.parser = ctx.parser := rfl
  simp only [stepOsc, sameParser]
  repeat' split
  all_goals first | exact finishOsc_untimed _ _ _ | rfl

theorem stepString_untimed (ctx : InterceptCtx) (byte : UInt8) :
    (stepString ctx byte).untimed = stepString ctx.untimed byte := by
  simp only [stepString]
  repeat' split
  all_goals rfl

theorem interceptByte_untimed (env : InterceptEnv) (ctx : InterceptCtx) (byte : UInt8) :
    untimedStep (interceptByte env ctx byte) = interceptByte env.untimed ctx.untimed byte := by
  have sameParser : ctx.untimed.parser = ctx.parser := rfl
  simp only [interceptByte, sameParser]
  split
  · rfl
  · cases ctx.parser.mode with
    | ground => simp only; split <;> rfl
    | escape => exact stepEscape_untimed ctx byte
    | escapeIntermediate => exact stepIntermediate_untimed ctx byte
    | csi => exact stepCsi_untimed env ctx byte
    | osc => exact stepOsc_untimed env ctx byte
    | string => exact Prod.ext (stepString_untimed ctx byte) rfl
    | stringEscape => rfl

/-- Contexts and environments that differ only in timestamps step alike. -/
theorem interceptByte_same_untimed {env env' : InterceptEnv} {ctx ctx' : InterceptCtx} {byte : UInt8}
    (sameEnv : env.untimed = env'.untimed) (sameCtx : ctx.untimed = ctx'.untimed) :
    (interceptByte env ctx byte).1.untimed = (interceptByte env' ctx' byte).1.untimed ∧
      (interceptByte env ctx byte).2 = (interceptByte env' ctx' byte).2 := by
  have left := interceptByte_untimed env ctx byte
  have right := interceptByte_untimed env' ctx' byte
  rw [sameEnv, sameCtx, ← right] at left
  obtain ⟨sameStep, sameOutput⟩ := Prod.mk.inj left
  exact ⟨sameStep, sameOutput⟩

end Ezpn
