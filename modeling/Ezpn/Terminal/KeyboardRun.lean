import Ezpn.Terminal.Keyboard

/-!
# The keyboard over a whole stream

The interceptor, the display parser behind it and the reference keyboard take a
child's bytes together. Their screens agree, and so do the flags, as long as no
sequence that the interceptor passes on unread switches the parser's screen.
-/

set_option autoImplicit false

namespace Ezpn

/-! ## Sequences -/

inductive Completed where
  | csi (body : Bytes) (final : UInt8)
  | reset

/-- The sequence that a byte completes. -/
def completed (parser : ControlParser) (byte : UInt8) : Option Completed :=
  match parser.mode with
  | .csi => if 0x40 ≤ byte && byte ≤ 0x7E && !parser.overflow then some (.csi parser.buffer byte) else none
  | .escape => if byte = 0x63 then some .reset else none
  | _ => none

def Keyboard.step (keyboard : Keyboard) (alternate : Bool) : Option Completed → Keyboard
  | some .reset => {}
  | some (.csi body final) =>
      if final = 0x75 then
        match readKeyOp body with
        | some op => keyboard.apply alternate op
        | none => keyboard
      else keyboard
  | none => keyboard

/-- `CSI ? digits ; digits h` and `l` -/
def ownsModes (body : Bytes) (final : UInt8) : Bool :=
  match body with
  | [] => false
  | b :: params =>
      b == 0x3F && (final == 0x68 || final == 0x6C) && params.all fun b => isAsciiDigit b || b == 0x3B

/-- A private mode change that the interceptor passes on unread and the display
parser takes for a change of screen. -/
def Vte.SwitchesUnread (vte : Vte) (body : Bytes) (final : UInt8) : Prop :=
  ownsModes body final = false ∧ (final = 0x68 ∨ final = 0x6C) ∧
    ∃ params intermediates, vte.readCsi body = some (params, intermediates) ∧ intermediates.head? = some 0x3F ∧
      ([47] ∈ params ∨ [1049] ∈ params)

/-! ## What the interceptor keeps of the keyboard -/

/-- The two stacks, each under the screen it belongs to. -/
structure Keyboard.HeldBy (keyboard : Keyboard) (state : PaneTerminalState) : Prop where
  current : state.kittyKbd.Shows (keyboard.stack state.alternateScreen)
  other : state.inactiveKittyKbd.Shows (keyboard.stack (!state.alternateScreen))

/-- Two states with the same keyboard. -/
structure PaneTerminalState.SameKeyboard (state state' : PaneTerminalState) : Prop where
  kittyKbd : state'.kittyKbd = state.kittyKbd
  inactive : state'.inactiveKittyKbd = state.inactiveKittyKbd
  screen : state'.alternateScreen = state.alternateScreen

namespace Keyboard.HeldBy
variable {keyboard : Keyboard} {state state' : PaneTerminalState}

theorem congr (held : keyboard.HeldBy state) (same : state.SameKeyboard state') : keyboard.HeldBy state' :=
  ⟨by rw [same.kittyKbd, same.screen]; exact held.current, by rw [same.inactive, same.screen]; exact held.other⟩

theorem setAlternateScreen (held : keyboard.HeldBy state) (on : Bool) :
    keyboard.HeldBy (state.setAlternateScreen on) := by
  unfold PaneTerminalState.setAlternateScreen
  split
  · next differs =>
      have flipped : on = !state.alternateScreen := by
        cases on <;> cases screen : state.alternateScreen <;> simp [screen] at differs ⊢
      subst flipped
      refine ⟨held.other, ?_⟩
      simpa only [Bool.not_not] using held.current
  · exact held

end Keyboard.HeldBy

theorem setAlternateScreen_screen (state : PaneTerminalState) (on : Bool) :
    (state.setAlternateScreen on).alternateScreen = on := by
  unfold PaneTerminalState.setAlternateScreen
  split
  · rfl
  · next same => simpa using same

theorem toggleProtocol_keyboard (state : PaneTerminalState) (protocol : MouseProtocol) (on : Bool) :
    state.SameKeyboard (toggleProtocol state protocol on) := by
  unfold toggleProtocol
  split
  · exact ⟨rfl, rfl, rfl⟩
  split <;> exact ⟨rfl, rfl, rfl⟩

theorem toggleEncoding_keyboard (state : PaneTerminalState) (encoding : MouseEncoding) (on : Bool) :
    state.SameKeyboard (toggleEncoding state encoding on) := by
  unfold toggleEncoding
  split
  · exact ⟨rfl, rfl, rfl⟩
  split <;> exact ⟨rfl, rfl, rfl⟩

/-- The modes that switch screens. -/
def IsScreenMode (num : Nat) : Prop := num = 47 ∨ num = 1047 ∨ num = 1049

theorem applyDecset_other (now : Nat) (state : PaneTerminalState) {num : Nat} (on : Bool)
    (other : ¬ IsScreenMode num) : state.SameKeyboard (applyDecset now state num on) := by
  unfold applyDecset
  split
  · exact absurd (.inl rfl) other
  · exact absurd (.inr (.inl rfl)) other
  · exact absurd (.inr (.inr rfl)) other
  all_goals first
    | exact toggleProtocol_keyboard ..
    | exact toggleEncoding_keyboard ..
    | exact ⟨rfl, rfl, rfl⟩

theorem applyDecset_screenMode (now : Nat) (state : PaneTerminalState) {num : Nat} (on : Bool)
    (screen : IsScreenMode num) : applyDecset now state num on = state.setAlternateScreen on := by
  rcases screen with rfl | rfl | rfl <;> rfl

/-! ## Parameters -/

theorem le_foldl_digits (start : Nat) (digits : Bytes) :
    start ≤ digits.foldl (fun value b => value * 10 + (b.toNat - 0x30)) start := by
  induction digits generalizing start with
  | nil => exact Nat.le_refl _
  | cons b digits ih =>
      have later := ih (start * 10 + (b.toNat - 0x30))
      rw [List.foldl_cons]
      omega

theorem parseU32Digits_eq {digits : Bytes} (allDigits : digits.all isAsciiDigit = true) {start : Nat}
    (fits : start < 2 ^ 32) :
    parseU32Digits start digits =
      if digits.foldl (fun value b => value * 10 + (b.toNat - 0x30)) start < 2 ^ 32 then
        some (digits.foldl (fun value b => value * 10 + (b.toNat - 0x30)) start)
      else none := by
  induction digits generalizing start with
  | nil => rw [parseU32Digits, List.foldl_nil, if_pos fits]
  | cons b digits ih =>
      rw [List.all_cons, Bool.and_eq_true] at allDigits
      rw [parseU32Digits, allDigits.1, List.foldl_cons]
      simp only [Bool.not_true, Bool.false_eq_true, if_false]
      by_cases next : start * 10 + (b.toNat - 0x30) < 2 ^ 32
      · rw [if_pos next, ih allDigits.2 next]
      · have grows := le_foldl_digits (start * 10 + (b.toNat - 0x30)) digits
        rw [if_neg next, if_neg (by omega)]

/-- Both readers see a screen mode in the same parameters. -/
theorem parseU32_iff {digits : Bytes} (allDigits : digits.all isAsciiDigit = true) {num : Nat} (positive : 0 < num)
    (fits : num < 2 ^ 32) : parseU32 digits = some num ↔ digitsValue digits = num := by
  unfold parseU32 digitsValue
  cases digits with
  | nil =>
      simp only [List.isEmpty_nil, if_true, List.foldl_nil, reduceCtorEq, false_iff]
      omega
  | cons b digits =>
      rw [parseU32Digits_eq allDigits (by decide)]
      simp only [List.isEmpty_cons, Bool.false_eq_true, if_false]
      constructor
      · intro read
        split at read
        · exact Option.some.inj read
        · cases read
      · intro value
        rw [if_pos (by omega), value]

/-! ## Mode changes through the display parser -/

theorem isAsciiDigit_param {b : UInt8} (digit : isAsciiDigit b = true) : 0x20 ≤ b ∧ b ≤ 0x3F := by
  simp only [isAsciiDigit, Bool.and_eq_true, decide_eq_true_eq] at digit
  grind

/-- Neither `h` nor `l`: the screen stays. -/
theorem csiDispatch_other {final : UInt8} (notSet : final ≠ 0x68) (notReset : final ≠ 0x6C)
    (params : List (List Nat)) (intermediates : Bytes) (alternate : Bool) :
    (Perform.csiDispatch params intermediates final).screen alternate = alternate := by
  simp only [Perform.screen, beq_false_of_ne notSet, beq_false_of_ne notReset, Bool.and_false, Bool.false_eq_true,
    if_false]

/-- A private mode change of one number. -/
theorem csiDispatch_private {final : UInt8} (changes : final = 0x68 ∨ final = 0x6C) (param : List Nat)
    (alternate : Bool) :
    (Perform.csiDispatch [param] [0x3F] final).screen alternate = setScreen (final == 0x68) alternate param := by
  rcases changes with rfl | rfl <;> rfl

section Modes
variable (vte : Vte) {now : Nat} {final : UInt8} {keyboard : Keyboard}

theorem Vte.erase_screen {s : vte.State} (ready : vte.ready s) (alternate : Bool) :
    vte.ready (Transducer.run vte.advance s (ascii "\x1b[2J")).1 ∧
      performAll alternate (Transducer.run vte.advance s (ascii "\x1b[2J")).2 = alternate := by
  have params : ∀ b ∈ ([0x32] : Bytes), 0x20 ≤ b ∧ b ≤ 0x3F := by
    intro b member
    rw [List.mem_singleton.1 member]
    decide
  have item := vte.csi_screen ready params (show 0x40 ≤ (0x4A : UInt8) ∧ (0x4A : UInt8) ≤ 0x7E by decide) alternate
  have text : ascii "\x1b[2J" = 0x1B :: 0x5B :: ([0x32] ++ [0x4A]) := rfl
  rw [text]
  refine ⟨item.1, item.2.trans ?_⟩
  split
  · exact csiDispatch_other (by decide) (by decide) _ _ _
  · rfl

theorem Vte.private_screen {s : vte.State} (ready : vte.ready s) (changes : final = 0x68 ∨ final = 0x6C)
    {digits : Bytes} (allDigits : digits.all isAsciiDigit = true) (alternate : Bool) :
    vte.ready (Transducer.run vte.advance s (ascii "\x1b[?" ++ digits ++ [final])).1 ∧
      performAll alternate (Transducer.run vte.advance s (ascii "\x1b[?" ++ digits ++ [final])).2 =
        if digitsValue digits = 47 ∨ digitsValue digits = 1049 then final == 0x68 else alternate := by
  have params : ∀ b ∈ 0x3F :: digits, 0x20 ≤ b ∧ b ≤ 0x3F := by
    intro b member
    rcases List.mem_cons.1 member with rfl | member
    · decide
    · exact isAsciiDigit_param (List.all_eq_true.1 allDigits b member)
  have dispatch : 0x40 ≤ final ∧ final ≤ 0x7E := by rcases changes with rfl | rfl <;> decide
  have item := vte.csi_screen ready params dispatch alternate
  have text : ascii "\x1b[?" ++ digits ++ [final] = 0x1B :: 0x5B :: ((0x3F :: digits) ++ [final]) := by
    have lead : ascii "\x1b[?" = [0x1B, 0x5B, 0x3F] := rfl
    rw [lead]
    rfl
  rw [text]
  refine ⟨item.1, item.2.trans ?_⟩
  rw [vte.readCsi_private allDigits]
  dsimp only
  rw [csiDispatch_private changes]
  unfold setScreen
  have saturates : (min (digitsValue digits) 65535 = 47 ∨ min (digitsValue digits) 65535 = 1049) ↔
      (digitsValue digits = 47 ∨ digitsValue digits = 1049) := by omega
  simp only [Bool.or_eq_true, decide_eq_true_eq, List.cons.injEq, and_true, saturates]

/-- One parameter: the interceptor's bit and the parser's screen move together. -/
theorem applyDecset_agrees (changes : final = 0x68 ∨ final = 0x6C) {state : PaneTerminalState} {param : Bytes}
    (allDigits : param.all isAsciiDigit = true) (held : keyboard.HeldBy state) {s : vte.State} (ready : vte.ready s) :
    let mode := parseU32 param
    let state' := mode.elim state fun num => applyDecset now state num (final == 0x68)
    let shown := if mode = some 1047 then ascii "47" else param
    keyboard.HeldBy state' ∧
      vte.ready (Transducer.run vte.advance s (ascii "\x1b[?" ++ shown ++ [final])).1 ∧
      performAll state.alternateScreen (Transducer.run vte.advance s (ascii "\x1b[?" ++ shown ++ [final])).2 =
        state'.alternateScreen := by
  intro mode state' shown
  have heldNext : keyboard.HeldBy state' := by
    cases read : mode with
    | none => simpa only [state', read, Option.elim_none] using held
    | some num =>
        simp only [state', read, Option.elim_some]
        by_cases screen : IsScreenMode num
        · rw [applyDecset_screenMode now state _ screen]
          exact held.setAlternateScreen _
        · exact held.congr (applyDecset_other now state _ screen)
  have shownDigits : shown.all isAsciiDigit = true := by
    simp only [shown]
    split
    · decide +kernel
    · exact allDigits
  obtain ⟨next, screen⟩ := vte.private_screen ready changes shownDigits state.alternateScreen
  refine ⟨heldNext, next, screen.trans ?_⟩
  by_cases rewritten : mode = some 1047
  · have value : digitsValue shown = 47 := by
      simp only [shown, if_pos rewritten]
      decide +kernel
    rw [if_pos (.inl value)]
    simp only [state', rewritten, Option.elim_some]
    rw [applyDecset_screenMode now state _ (.inr (.inl rfl)), setAlternateScreen_screen]
  · have same : shown = param := if_neg rewritten
    have reads47 := @parseU32_iff param allDigits 47 (by decide) (by decide)
    have reads1049 := @parseU32_iff param allDigits 1049 (by decide) (by decide)
    rw [same]
    by_cases switches : digitsValue param = 47 ∨ digitsValue param = 1049
    · rw [if_pos switches]
      rw [← reads47, ← reads1049] at switches
      rcases switches with read | read
      · simp only [state', mode, read, Option.elim_some]
        rw [applyDecset_screenMode now state _ (.inl rfl), setAlternateScreen_screen]
      · simp only [state', mode, read, Option.elim_some]
        rw [applyDecset_screenMode now state _ (.inr (.inr rfl)), setAlternateScreen_screen]
    · rw [if_neg switches]
      rw [← reads47, ← reads1049] at switches
      cases read : parseU32 param with
      | none => simp only [state', mode, read, Option.elim_none]
      | some num =>
          have other : ¬ IsScreenMode num := by
            rintro (rfl | rfl | rfl)
            · exact switches (.inl read)
            · exact rewritten read
            · exact switches (.inr read)
          simp only [state', mode, read, Option.elim_some]
          exact (applyDecset_other now state _ other).screen.symm

/-- Every parameter of a mode change; the induction carries both screens. -/
theorem applyDecParams_agrees (changes : final = 0x68 ∨ final = 0x6C) {params : List Bytes}
    (digits : ∀ param ∈ params, param.all isAsciiDigit = true) {state : PaneTerminalState}
    (held : keyboard.HeldBy state) {s : vte.State} (ready : vte.ready s) :
    keyboard.HeldBy (applyDecParams now final params state).1 ∧
      vte.ready (Transducer.run vte.advance s (applyDecParams now final params state).2).1 ∧
      performAll state.alternateScreen (Transducer.run vte.advance s (applyDecParams now final params state).2).2 =
        (applyDecParams now final params state).1.alternateScreen := by
  induction params generalizing state s with
  | nil => exact ⟨held, ready, rfl⟩
  | cons param rest ih =>
      simp only [applyDecParams]
      generalize eraseEq : (if parseU32 param = some 1047 && final == 0x6C && state.alternateScreen
        then ascii "\x1b[2J" else []) = erase
      have erased : vte.ready (Transducer.run vte.advance s erase).1 ∧
          performAll state.alternateScreen (Transducer.run vte.advance s erase).2 = state.alternateScreen := by
        rw [← eraseEq]
        split
        · exact vte.erase_screen ready _
        · exact ⟨ready, rfl⟩
      obtain ⟨heldNext, shownReady, shownScreen⟩ :=
        @applyDecset_agrees vte now _ _ changes _ _ (digits param (List.mem_cons_self ..)) held _ erased.1
      obtain ⟨heldLast, lastReady, lastScreen⟩ :=
        ih (fun other member => digits other (List.mem_cons_of_mem _ member)) heldNext shownReady
      refine ⟨heldLast, ?_, ?_⟩
      · simp only [List.append_assoc, Transducer.run_append] at lastReady ⊢
        exact lastReady
      · simp only [List.append_assoc, Transducer.run_append, performAll_append] at shownScreen lastScreen erased ⊢
        rw [erased.2, shownScreen, lastScreen]

end Modes

/-! ## Keyboard sequences -/

theorem handleTitle_keyboard (ctx : InterceptCtx) (title : Bytes) :
    ctx.state.SameKeyboard (handleTitle ctx title).state := by
  simp only [handleTitle]
  repeat' split
  all_goals exact ⟨rfl, rfl, rfl⟩

theorem handleOsc52_keyboard (env : InterceptEnv) (ctx : InterceptCtx) (payload rest : Bytes) :
    ctx.state.SameKeyboard (handleOsc52 env ctx payload rest).state := by
  simp only [handleOsc52]
  repeat' split
  all_goals exact ⟨rfl, rfl, rfl⟩

theorem handleOsc7_keyboard (env : InterceptEnv) (ctx : InterceptCtx) (rest : Bytes) :
    ctx.state.SameKeyboard (handleOsc7 env ctx rest).state := by
  simp only [handleOsc7]
  repeat' split
  all_goals exact ⟨rfl, rfl, rfl⟩

theorem handleOscColor_keyboard (env : InterceptEnv) (ctx : InterceptCtx) (number : Nat) (slot : Option Rgb)
    (rest : Bytes) : ctx.state.SameKeyboard (handleOscColor env ctx number slot rest).state := by
  simp only [handleOscColor]
  repeat' split
  all_goals exact ⟨rfl, rfl, rfl⟩

theorem handleOsc4_keyboard (env : InterceptEnv) (ctx : InterceptCtx) (rest : Bytes) :
    ctx.state.SameKeyboard (handleOsc4 env ctx rest).state := by
  simp only [handleOsc4]
  repeat' split
  all_goals exact ⟨rfl, rfl, rfl⟩

theorem handleOsc_keyboard (env : InterceptEnv) (ctx : InterceptCtx) (payload : Bytes) :
    ctx.state.SameKeyboard (handleOsc env ctx payload).state := by
  unfold handleOsc
  repeat' split
  · exact handleTitle_keyboard ..
  · exact handleOsc52_keyboard ..
  · exact handleOsc7_keyboard ..
  · exact handleOscColor_keyboard ..
  · exact handleOscColor_keyboard ..
  · exact handleOscColor_keyboard ..
  · exact handleOsc4_keyboard ..
  · exact ⟨rfl, rfl, rfl⟩

theorem finishOsc_keyboard (env : InterceptEnv) (ctx : InterceptCtx) (mode : ControlMode) :
    ctx.state.SameKeyboard (finishOsc env ctx mode).1.state := by
  unfold finishOsc
  dsimp only
  split
  · exact ⟨rfl, rfl, rfl⟩
  · exact handleOsc_keyboard env ctx ctx.parser.buffer

/-- An operation on the stack of the current screen. -/
theorem Keyboard.HeldBy.apply {keyboard : Keyboard} {state : PaneTerminalState} (held : keyboard.HeldBy state)
    {op : KeyOp} {code : KittyKbdStack} (shows : code.Shows ((keyboard.stack state.alternateScreen).apply op)) :
    (keyboard.apply state.alternateScreen op).HeldBy { state with kittyKbd := code } :=
  ⟨by rw [Keyboard.stack_apply_same]; exact shows, by rw [Keyboard.stack_apply_other]; exact held.other⟩

theorem Keyboard.apply_query (keyboard : Keyboard) (alternate : Bool) : keyboard.apply alternate .query = keyboard := by
  cases alternate <;> rfl

/-- `CSI = flags ; mode u` -/
theorem handleModify_held {keyboard : Keyboard} {ctx : InterceptCtx} (held : keyboard.HeldBy ctx.state)
    {parts : List Bytes} {flags mode : Nat} :
    Keyboard.HeldBy
      (match
        (if parts.length > 2 then none
        else if mode = 1 then some (KeyOp.set (KittyFlags.mask (UInt8.ofNat flags)))
        else if mode = 2 then some (KeyOp.add (KittyFlags.mask (UInt8.ofNat flags)))
        else if mode = 3 then some (KeyOp.remove (KittyFlags.mask (UInt8.ofNat flags)))
        else none) with
      | some op => keyboard.apply ctx.state.alternateScreen op
      | none => keyboard)
      (if mode > 255 || parts.length > 2 then ctx
        else { ctx with state.kittyKbd :=
                 ctx.state.kittyKbd.modifyTop (UInt8.ofNat flags &&& kittySupported) mode }).state := by
  have current := held.current
  by_cases long : parts.length > 2
  · simp only [decide_true, Bool.or_true, if_true, long]
    exact held
  simp only [decide_false, Bool.or_false, decide_eq_true_eq, long]
  by_cases sets : mode = 1
  · subst sets
    exact held.apply (current.modifySet (.mask (UInt8.ofNat flags)))
  by_cases adds : mode = 2
  · subst adds
    exact held.apply (current.modifyAdd (.mask (UInt8.ofNat flags)))
  by_cases removes : mode = 3
  · subst removes
    exact held.apply (current.modifyRemove (.mask (UInt8.ofNat flags)))
  rw [KittyKbdStack.modifyTop_ignored ⟨sets, adds, removes⟩]
  simp only [if_neg sets, if_neg adds, if_neg removes]
  by_cases large : mode > 255
  · rw [if_pos large]
    exact held
  · rw [if_neg large]
    exact held

/-- `handle_csi_u` is the reference's step on the current screen. -/
theorem handleCsiU_held {keyboard : Keyboard} {ctx : InterceptCtx} (held : keyboard.HeldBy ctx.state) (body : Bytes) :
    (keyboard.step ctx.state.alternateScreen (some (.csi body 0x75))).HeldBy (handleCsiU ctx body).state := by
  have current := held.current
  simp only [Keyboard.step, if_true]
  cases body with
  | nil => exact held
  | cons sigil rest =>
      simp only [readKeyOp, handleCsiU]
      by_cases pushes : sigil = 0x3E
      · simp only [if_pos pushes]
        cases parseDefault rest 0 with
        | none => exact held
        | some flags => exact held.apply (current.push (.mask (UInt8.ofNat flags)))
      by_cases pops : sigil = 0x3C
      · simp only [if_neg pushes, if_pos pops]
        cases parseDefault rest 1 with
        | none => exact held
        | some n => exact held.apply (current.pop n)
      by_cases modifies : sigil = 0x3D
      · simp only [if_neg pushes, if_neg pops, if_pos modifies]
        cases parseDefault ((rest.splitOn 0x3B).headD []) 0 with
        | none => exact held
        | some flags =>
            cases parseDefault ((rest.splitOn 0x3B).getD 1 []) 1 with
            | none => exact held
            | some mode => exact handleModify_held held
      by_cases queries : (sigil = 0x3F && rest.isEmpty) = true
      · simp only [if_neg pushes, if_neg pops, if_neg modifies, if_pos queries, Keyboard.apply_query]
        exact held
      · simp only [if_neg pushes, if_neg pops, if_neg modifies, if_neg queries]
        exact held

theorem handleCsiU_screen (ctx : InterceptCtx) (body : Bytes) :
    (handleCsiU ctx body).state.alternateScreen = ctx.state.alternateScreen := by
  simp only [handleCsiU]
  repeat' split
  all_goals rfl

/-! ## Complete CSI sequences -/

theorem interceptDecModes_eq (now : Nat) (state : PaneTerminalState) (body : Bytes) (final : UInt8) :
    interceptDecModes now state body final =
      if ownsModes body final then some (applyDecParams now final ((body.drop 1).splitOn 0x3B) state) else none := by
  have lead : ascii "?" = [0x3F] := rfl
  unfold interceptDecModes stripPrefix ownsModes
  rw [lead]
  cases body with
  | nil => rfl
  | cons b params =>
      by_cases marked : b = 0x3F
      · subst marked
        have leads : ([0x3F] : Bytes).isPrefixOf (0x3F :: params) = true := by
          simp only [List.isPrefixOf, BEq.rfl, Bool.and_self]
        simp only [leads, if_true, List.length_singleton, List.drop_succ_cons, List.drop_zero, BEq.rfl, Bool.true_and]
        by_cases owned : ((final == 0x68 || final == 0x6C) &&
            params.all fun b => isAsciiDigit b || b == 0x3B) = true
        · rw [if_pos owned, if_neg]
          rw [Bool.and_eq_true] at owned
          simp only [owned.1, owned.2, Bool.not_true, Bool.or_false, Bool.false_eq_true, not_false_eq_true]
        · rw [if_neg owned, if_pos]
          rw [← Bool.not_and, Bool.not_eq_true']
          exact Bool.eq_false_iff.2 owned
      · have other : ([0x3F] : Bytes).isPrefixOf (b :: params) = false := by
          simp only [List.isPrefixOf, Bool.and_true]
          exact beq_false_of_ne (Ne.symm marked)
        simp only [other, Bool.false_eq_true, if_false, beq_false_of_ne marked, Bool.false_and]

theorem ownsModes_iff {body : Bytes} {final : UInt8} (owned : ownsModes body final = true) :
    (final = 0x68 ∨ final = 0x6C) ∧ ∀ param ∈ (body.drop 1).splitOn 0x3B, param.all isAsciiDigit = true := by
  unfold ownsModes at owned
  cases body with
  | nil => cases owned
  | cons b params =>
      simp only [Bool.and_eq_true, Bool.or_eq_true, beq_iff_eq] at owned
      obtain ⟨⟨_, changes⟩, allowed⟩ := owned
      refine ⟨changes, fun param piece => List.all_eq_true.2 fun b member => ?_⟩
      have inParams := Text.mem_of_mem_splitOn piece member
      have notSeparator := Text.ne_of_mem_splitOn piece member
      have shape := List.all_eq_true.1 allowed b inParams
      simpa [notSeparator] using shape

theorem foldl_setScreen_other {on : Bool} {params : List (List Nat)} (none47 : [47] ∉ params)
    (none1049 : [1049] ∉ params) (alternate : Bool) : params.foldl (setScreen on) alternate = alternate := by
  induction params with
  | nil => rfl
  | cons param params ih =>
      rw [List.mem_cons, not_or] at none47 none1049
      have kept : setScreen on alternate param = alternate := by
        simp only [setScreen, Ne.symm none47.1, Ne.symm none1049.1, decide_false, Bool.or_self, Bool.false_eq_true,
          if_false]
      rw [List.foldl_cons, kept]
      exact ih none47.2 none1049.2

section Sequences
variable (vte : Vte) {keyboard : Keyboard}

/-- A sequence passed on unread leaves the screen alone. -/
theorem Vte.verbatim_screen {s : vte.State} {body : Bytes} {final : UInt8} (ready : vte.ready s)
    (params : ∀ b ∈ body, 0x20 ≤ b ∧ b ≤ 0x3F) (dispatch : 0x40 ≤ final ∧ final ≤ 0x7E)
    (unowned : ownsModes body final = false) (quiet : ¬ vte.SwitchesUnread body final) (alternate : Bool) :
    vte.ready (Transducer.run vte.advance s (ascii "\x1b[" ++ body ++ [final])).1 ∧
      performAll alternate (Transducer.run vte.advance s (ascii "\x1b[" ++ body ++ [final])).2 = alternate := by
  have item := vte.csi_screen ready params dispatch alternate
  have lead : ascii "\x1b[" = [0x1B, 0x5B] := rfl
  have text : ascii "\x1b[" ++ body ++ [final] = 0x1B :: 0x5B :: (body ++ [final]) := by
    rw [lead]
    rfl
  rw [text]
  refine ⟨item.1, item.2.trans ?_⟩
  split
  · next params intermediates read =>
      by_cases changes : final = 0x68 ∨ final = 0x6C
      · by_cases marked : intermediates.head? = some 0x3F
        · have unnamed : ¬ ([47] ∈ params ∨ [1049] ∈ params) := fun named =>
            quiet ⟨unowned, changes, params, intermediates, read, marked, named⟩
          rw [not_or] at unnamed
          simp only [Perform.screen, foldl_setScreen_other unnamed.1 unnamed.2]
          split
          · rfl
          · split <;> rfl
        · simp only [Perform.screen, marked, decide_false, Bool.false_and, Bool.false_eq_true, if_false]
      · rw [not_or] at changes
        exact csiDispatch_other changes.1 changes.2 _ _ _
  · rfl

/-- The completion of a CSI sequence. -/
theorem finishCsi_agrees {env : InterceptEnv} {ctx : InterceptCtx} {final : UInt8}
    (held : keyboard.HeldBy ctx.state) {s : vte.State} (ready : vte.ready s)
    (params : ∀ b ∈ ctx.parser.buffer, 0x20 ≤ b ∧ b ≤ 0x3F) (dispatch : 0x40 ≤ final ∧ final ≤ 0x7E)
    (quiet : ctx.parser.overflow = false → ¬ vte.SwitchesUnread ctx.parser.buffer final) :
    Keyboard.HeldBy
        (keyboard.step ctx.state.alternateScreen
          (if ctx.parser.overflow then none else some (.csi ctx.parser.buffer final)))
        (finishCsi env ctx final).1.state ∧
      vte.ready (Transducer.run vte.advance s (finishCsi env ctx final).2).1 ∧
      performAll ctx.state.alternateScreen (Transducer.run vte.advance s (finishCsi env ctx final).2).2 =
        (finishCsi env ctx final).1.state.alternateScreen := by
  cases overflow : ctx.parser.overflow with
  | true =>
      simp only [finishCsi, overflow, if_true]
      exact ⟨held, ready, rfl⟩
  | false =>
      simp only [finishCsi, overflow, Bool.false_eq_true, if_false]
      by_cases kitty : final = 0x75
      · subst kitty
        have unowned : ownsModes ctx.parser.buffer 0x75 = false := by
          unfold ownsModes
          split
          · rfl
          · simp
        rw [if_pos rfl, interceptDecModes_eq, if_neg (by rw [unowned]; decide)]
        dsimp only
        rw [handleCsiU_screen]
        exact ⟨handleCsiU_held held ctx.parser.buffer,
          vte.verbatim_screen ready params dispatch unowned (quiet overflow) _⟩
      · rw [if_neg kitty, interceptDecModes_eq]
        have kept : keyboard.step ctx.state.alternateScreen (some (.csi ctx.parser.buffer final)) = keyboard := by
          simp only [Keyboard.step, if_neg kitty]
        rw [kept]
        by_cases owned : ownsModes ctx.parser.buffer final = true
        · obtain ⟨changes, digits⟩ := ownsModes_iff owned
          rw [if_pos owned]
          exact applyDecParams_agrees vte changes digits held ready
        · rw [if_neg owned]
          exact ⟨held, vte.verbatim_screen ready params dispatch (Bool.eq_false_iff.2 owned) (quiet overflow) _⟩

/-! ## One byte -/

/-- Where the display parser stands, by what the interceptor is in the middle of. -/
def Vte.Stands (mode : ControlMode) (s : vte.State) : Prop :=
  if mode = .escapeIntermediate then vte.collecting s else vte.ready s

/-- What a byte must leave behind. -/
structure Vte.Lands (keyboard : Keyboard) (alternate : Bool) (s : vte.State) (result : InterceptCtx × Bytes) :
    Prop where
  held : keyboard.HeldBy result.1.state
  stands : vte.Stands result.1.parser.mode (Transducer.run vte.advance s result.2).1
  screen : performAll alternate (Transducer.run vte.advance s result.2).2 = result.1.state.alternateScreen

variable {s : vte.State} {ctx : InterceptCtx} {byte : UInt8}

/-- Nothing reaches the display parser. -/
theorem Vte.Lands.silent {next : InterceptCtx} (held : keyboard.HeldBy ctx.state) (ready : vte.ready s)
    (same : ctx.state.SameKeyboard next.state) (mode : next.parser.mode ≠ .escapeIntermediate) :
    vte.Lands keyboard ctx.state.alternateScreen s (next, []) :=
  ⟨held.congr same, by rw [Vte.Stands, if_neg mode]; exact ready, same.screen.symm⟩

/-- One byte outside a sequence. -/
theorem Vte.Lands.plain {next : InterceptCtx} (held : keyboard.HeldBy ctx.state) (ready : vte.ready s)
    (same : ctx.state.SameKeyboard next.state) (mode : next.parser.mode ≠ .escapeIntermediate)
    (notEscape : byte ≠ 0x1B) : vte.Lands keyboard ctx.state.alternateScreen s (next, [byte]) := by
  obtain ⟨stillReady, inert⟩ := vte.plain ready notEscape
  refine ⟨held.congr same, ?_, ?_⟩
  · rw [Vte.Stands, if_neg mode, Transducer.run_singleton]
    exact stillReady
  · rw [Transducer.run_singleton, performAll_inert inert]
    exact same.screen.symm

/-- A title: the display parser's screen is not concerned. -/
theorem finishOsc_lands {env : InterceptEnv} {mode : ControlMode} (held : keyboard.HeldBy ctx.state)
    (ready : vte.ready s) (printable : ∀ b ∈ ctx.parser.buffer, 0x20 ≤ b) (plainMode : mode ≠ .escapeIntermediate) :
    vte.Lands keyboard ctx.state.alternateScreen s (finishOsc env ctx mode) := by
  have same := finishOsc_keyboard env ctx mode
  have idle := finishOsc_idle env ctx mode
  have emitted : (finishOsc env ctx mode).2 = [] ∨ isTitlePayload ctx.parser.buffer = true ∧
      (finishOsc env ctx mode).2 = 0x1B :: 0x5D :: (ctx.parser.buffer ++ [0x07]) := by
    have lead : ascii "\x1b]" = [0x1B, 0x5D] := rfl
    simp only [finishOsc]
    split
    · exact .inl rfl
    · split
      · next title => exact .inr ⟨title, by rw [lead]; rfl⟩
      · exact .inl rfl
  have through : vte.ready (Transducer.run vte.advance s (finishOsc env ctx mode).2).1 ∧
      ∀ call ∈ (Transducer.run vte.advance s (finishOsc env ctx mode).2).2, call.Inert := by
    rcases emitted with nothing | ⟨title, text⟩
    · rw [nothing]
      exact ⟨ready, by rintro _ ⟨⟩⟩
    · rw [text]
      exact vte.title ready title printable
  refine ⟨held.congr same, ?_, ?_⟩
  · rw [Vte.Stands, idle, if_neg plainMode]
    exact through.1
  · rw [performAll_inert through.2]
    exact same.screen.symm

theorem resetTerminalModes_held (state : PaneTerminalState) : Keyboard.HeldBy {} state.resetTerminalModes :=
  ⟨rfl, rfl⟩

/-- ESC and one byte. -/
theorem stepEscape_lands (held : keyboard.HeldBy ctx.state) (ready : vte.ready s) :
    vte.Lands (keyboard.step ctx.state.alternateScreen (if byte = 0x63 then some .reset else none))
      ctx.state.alternateScreen s (stepEscape ctx byte) := by
  simp only [stepEscape]
  by_cases bracket : byte = 0x5B
  · subst bracket
    exact .silent vte held ready ⟨rfl, rfl, rfl⟩ (by rintro ⟨⟩)
  by_cases osc : byte = 0x5D
  · subst osc
    exact .silent vte held ready ⟨rfl, rfl, rfl⟩ (by rintro ⟨⟩)
  by_cases string : (byte = 0x50 || byte = 0x58 || byte = 0x5E || byte = 0x5F) = true
  · have notReset : byte ≠ 0x63 := by
      rintro rfl
      cases string
    simp only [if_neg bracket, if_neg osc, if_pos string, if_neg notReset]
    exact .silent vte held ready ⟨rfl, rfl, rfl⟩ (by rintro ⟨⟩)
  by_cases again : byte = 0x1B
  · subst again
    exact .silent vte held ready ⟨rfl, rfl, rfl⟩ (by rintro ⟨⟩)
  simp only [if_neg bracket, if_neg osc, if_neg string, if_neg again]
  simp only [Bool.or_eq_true, decide_eq_true_eq, not_or] at string
  obtain ⟨⟨⟨notDcs, notSos⟩, notPm⟩, notApc⟩ := string
  by_cases intermediate : 0x20 ≤ byte ∧ byte ≤ 0x2F
  · have notReset : byte ≠ 0x63 := by
      rintro rfl
      exact absurd intermediate.2 (by decide)
    obtain ⟨collecting, inert⟩ := vte.collect ready intermediate
    have taken : (decide (0x20 ≤ byte) && decide (byte ≤ 0x2F)) = true := by simpa using intermediate
    rw [if_pos taken, if_neg notReset]
    refine ⟨held, ?_, ?_⟩
    · rw [Vte.Stands, if_pos rfl]
      exact collecting
    · rw [performAll_inert inert]
  have passed : ¬ (decide (0x20 ≤ byte) && decide (byte ≤ 0x2F)) = true := by simpa using intermediate
  rw [if_neg passed]
  by_cases control : byte ≤ 0x1F
  · have notReset : byte ≠ 0x63 := by
      rintro rfl
      exact absurd control (by decide)
    rw [if_pos control, if_neg notReset]
    exact .plain vte held ready ⟨rfl, rfl, rfl⟩ (by rintro ⟨⟩) again
  rw [if_neg control]
  by_cases final : 0x30 ≤ byte ∧ byte ≤ 0x7E
  · obtain ⟨stillReady, before, inert, calls⟩ := vte.escape ready
      (show IsEscapeFinal byte from ⟨final.1, by grind, final.2, bracket, osc, notDcs, notSos, notPm, notApc⟩)
    have taken : (decide (0x30 ≤ byte) && decide (byte ≤ 0x7E)) = true := by simpa using final
    rw [if_pos taken]
    by_cases reset : byte = 0x63
    · subst reset
      refine ⟨resetTerminalModes_held ctx.state, ?_, ?_⟩
      · rw [Vte.Stands, if_neg (by rintro ⟨⟩)]
        exact stillReady
      · rw [calls, performAll_append, performAll_inert inert]
        rfl
    · simp only [if_neg reset]
      refine ⟨held, ?_, ?_⟩
      · rw [Vte.Stands, if_neg (by rintro ⟨⟩)]
        exact stillReady
      · rw [calls, performAll_append, performAll_inert inert]
        simp only [performAll, List.foldl_cons, List.foldl_nil, Perform.screen, beq_false_of_ne reset, Bool.and_false,
          Bool.false_eq_true, if_false]
  · have notReset : byte ≠ 0x63 := by
      rintro rfl
      exact final (by decide)
    have ignored : ¬ (decide (0x30 ≤ byte) && decide (byte ≤ 0x7E)) = true := by simpa using final
    rw [if_neg ignored, if_neg notReset]
    exact .silent vte held ready ⟨rfl, rfl, rfl⟩ (by rintro ⟨⟩)

/-- A byte after ESC and intermediates. -/
theorem stepIntermediate_lands (held : keyboard.HeldBy ctx.state) (collecting : vte.collecting s)
    (mode : ctx.parser.mode = .escapeIntermediate) (notCancel : isCancel byte = false) :
    vte.Lands keyboard ctx.state.alternateScreen s (stepIntermediate ctx byte) := by
  simp only [stepIntermediate]
  by_cases escape : byte = 0x1B
  · obtain ⟨ready, inert⟩ := vte.cancelled collecting (show isCancel 0x18 = true by decide)
    rw [if_pos escape]
    refine ⟨held, ?_, ?_⟩
    · rw [Vte.Stands, if_neg (by rintro ⟨⟩), Transducer.run_singleton]
      exact ready
    · rw [Transducer.run_singleton, performAll_inert inert]
  rw [if_neg escape]
  by_cases final : 0x30 ≤ byte ∧ byte ≤ 0x7E
  · obtain ⟨ready, intermediate, intermediates, calls⟩ := vte.collected collecting final
    rw [if_pos (by simpa using final)]
    refine ⟨held, ?_, ?_⟩
    · rw [Vte.Stands, if_neg (by rintro ⟨⟩), Transducer.run_singleton]
      exact ready
    · rw [Transducer.run_singleton, calls]
      rfl
  · obtain ⟨still, inert⟩ := vte.collects collecting notCancel escape final
    rw [if_neg (by simpa using final)]
    refine ⟨held, ?_, ?_⟩
    · rw [Vte.Stands, if_pos mode, Transducer.run_singleton]
      exact still
    · rw [Transducer.run_singleton, performAll_inert inert]

end Sequences

end Ezpn
