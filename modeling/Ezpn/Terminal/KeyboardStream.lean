import Ezpn.Terminal.KeyboardRun
import Mathlib.Data.List.TakeWhile

/-!
# Both parsers over every prefix

The interceptor's step for each of its modes, and by induction its run over a
child's whole output, against the reference keyboard and the display parser.
-/

set_option autoImplicit false

namespace Ezpn

section Step
variable (vte : Vte) {keyboard : Keyboard} {s : vte.State} {env : InterceptEnv} {ctx : InterceptCtx} {byte : UInt8}

theorem completed_cancel {parser : ControlParser} (cancel : isCancel byte = true) : completed parser byte = none := by
  have bytes : byte = 0x18 ∨ byte = 0x1A := by simpa [isCancel] using cancel
  unfold completed
  rcases bytes with rfl | rfl
  all_goals
    split
    · simp
    · rfl
    · rfl

theorem interceptByte_cancel_lands (held : keyboard.HeldBy ctx.state) (stands : vte.Stands ctx.parser.mode s)
    (cancel : isCancel byte = true) :
    vte.Lands keyboard ctx.state.alternateScreen s ({ ctx with parser := {} }, [byte]) := by
  have notEscape : byte ≠ 0x1B := by
    rintro rfl
    cases cancel
  by_cases collecting : ctx.parser.mode = .escapeIntermediate
  · rw [Vte.Stands, if_pos collecting] at stands
    obtain ⟨ready, inert⟩ := vte.cancelled stands cancel
    refine ⟨held, ?_, ?_⟩
    · rw [Vte.Stands, if_neg (by rintro ⟨⟩), Transducer.run_singleton]
      exact ready
    · rw [Transducer.run_singleton, performAll_inert inert]
  · rw [Vte.Stands, if_neg collecting] at stands
    exact .plain vte held stands ⟨rfl, rfl, rfl⟩ (by rintro ⟨⟩) notEscape

theorem stepCsi_lands (held : keyboard.HeldBy ctx.state) (ready : vte.ready s) (mode : ctx.parser.mode = .csi)
    (params : ∀ b ∈ ctx.parser.buffer, 0x20 ≤ b ∧ b ≤ 0x3F)
    (quiet : ∀ body final, completed ctx.parser byte = some (.csi body final) → ¬ vte.SwitchesUnread body final) :
    vte.Lands (keyboard.step ctx.state.alternateScreen (completed ctx.parser byte)) ctx.state.alternateScreen s
      (stepCsi env ctx byte) := by
  have notIntermediate : ctx.parser.mode ≠ .escapeIntermediate := by rw [mode]; rintro ⟨⟩
  by_cases dispatch : 0x40 ≤ byte ∧ byte ≤ 0x7E
  · have taken : (decide (0x40 ≤ byte) && decide (byte ≤ 0x7E)) = true := by simpa using dispatch
    have notEscape : byte ≠ 0x1B := by
      rintro rfl
      exact absurd dispatch.1 (by decide)
    have completes : completed ctx.parser byte =
        if ctx.parser.overflow then none else some (.csi ctx.parser.buffer byte) := by
      simp only [completed, mode, taken, Bool.true_and]
      cases ctx.parser.overflow <;> rfl
    have quiet' : ctx.parser.overflow = false → ¬ vte.SwitchesUnread ctx.parser.buffer byte := by
      intro clean
      apply quiet
      rw [completes, clean]
      rfl
    obtain ⟨heldNext, readyNext, screen⟩ := @finishCsi_agrees vte keyboard env ctx byte held s ready params dispatch quiet'
    rw [completes]
    simp only [stepCsi, if_neg notEscape, taken, if_true]
    refine ⟨heldNext, ?_, screen⟩
    rw [Vte.Stands, finishCsi_idle, if_neg (by rintro ⟨⟩)]
    exact readyNext
  · have passed : ¬ (decide (0x40 ≤ byte) && decide (byte ≤ 0x7E)) = true := by simpa using dispatch
    have nothing : completed ctx.parser byte = none := by
      simp only [completed, mode, Bool.eq_false_iff.2 passed, Bool.false_and, Bool.false_eq_true, if_false]
    rw [nothing]
    simp only [stepCsi, if_neg passed]
    by_cases escape : byte = 0x1B
    · rw [if_pos escape]
      exact .silent vte held ready ⟨rfl, rfl, rfl⟩ (by rintro ⟨⟩)
    rw [if_neg escape]
    by_cases control : byte ≤ 0x1F
    · rw [if_pos control]
      exact .plain vte held ready ⟨rfl, rfl, rfl⟩ notIntermediate escape
    rw [if_neg control]
    split
    · exact .silent vte held ready ⟨rfl, rfl, rfl⟩ notIntermediate
    split
    · exact .silent vte held ready ⟨rfl, rfl, rfl⟩ notIntermediate
    · exact .silent vte held ready ⟨rfl, rfl, rfl⟩ notIntermediate

theorem stepOsc_lands (held : keyboard.HeldBy ctx.state) (ready : vte.ready s) (mode : ctx.parser.mode = .osc)
    (printable : ∀ b ∈ ctx.parser.buffer, 0x20 ≤ b) :
    vte.Lands keyboard ctx.state.alternateScreen s (stepOsc env ctx byte) := by
  have notIntermediate : ctx.parser.mode ≠ .escapeIntermediate := by rw [mode]; rintro ⟨⟩
  simp only [stepOsc]
  split
  · exact finishOsc_lands vte held ready printable (by rintro ⟨⟩)
  split
  · exact finishOsc_lands vte held ready printable (by rintro ⟨⟩)
  split
  · exact .silent vte held ready ⟨rfl, rfl, rfl⟩ notIntermediate
  split
  · exact .silent vte held ready ⟨rfl, rfl, rfl⟩ notIntermediate
  · exact .silent vte held ready ⟨rfl, rfl, rfl⟩ notIntermediate

/-- One case for each mode of the interceptor. -/
theorem interceptByte_lands (held : keyboard.HeldBy ctx.state) (stands : vte.Stands ctx.parser.mode s)
    (bounded : ctx.parser.Bounded)
    (quiet : ∀ body final, completed ctx.parser byte = some (.csi body final) → ¬ vte.SwitchesUnread body final) :
    vte.Lands (keyboard.step ctx.state.alternateScreen (completed ctx.parser byte)) ctx.state.alternateScreen s
      (interceptByte env ctx byte) := by
  by_cases cancel : isCancel byte = true
  · rw [completed_cancel cancel]
    by_cases ground : ctx.parser.mode = .ground
    · have notEscape : byte ≠ 0x1B := by
        rintro rfl
        cases cancel
      rw [Vte.Stands, ground, if_neg (by rintro ⟨⟩)] at stands
      simp only [interceptByte, ground, ne_eq, not_true_eq_false, decide_false, Bool.and_false, Bool.false_eq_true,
        if_false, if_neg notEscape]
      exact .plain vte held stands ⟨rfl, rfl, rfl⟩ (by rw [ground]; rintro ⟨⟩) notEscape
    · simp only [interceptByte, cancel, ne_eq, ground, not_false_eq_true, decide_true, Bool.and_self, if_true]
      exact interceptByte_cancel_lands vte held stands cancel
  · have notCancel : isCancel byte = false := Bool.eq_false_iff.2 cancel
    simp only [interceptByte, notCancel, Bool.false_and, Bool.false_eq_true, if_false]
    cases mode : ctx.parser.mode with
    | ground =>
        rw [Vte.Stands, mode, if_neg (by rintro ⟨⟩)] at stands
        have nothing : completed ctx.parser byte = none := by simp only [completed, mode]
        rw [nothing]
        dsimp only
        split
        · exact .silent vte held stands ⟨rfl, rfl, rfl⟩ (by rintro ⟨⟩)
        · next notEscape => exact .plain vte held stands ⟨rfl, rfl, rfl⟩ (by rw [mode]; rintro ⟨⟩) notEscape
    | escape =>
        rw [Vte.Stands, mode, if_neg (by rintro ⟨⟩)] at stands
        have completes : completed ctx.parser byte = if byte = 0x63 then some .reset else none := by
          simp only [completed, mode]
        rw [completes]
        exact stepEscape_lands vte held stands
    | escapeIntermediate =>
        rw [Vte.Stands, mode, if_pos rfl] at stands
        have nothing : completed ctx.parser byte = none := by simp only [completed, mode]
        rw [nothing]
        exact stepIntermediate_lands vte held stands mode notCancel
    | csi =>
        rw [Vte.Stands, mode, if_neg (by rintro ⟨⟩)] at stands
        exact stepCsi_lands vte held stands mode (bounded.csi mode).2 quiet
    | osc =>
        rw [Vte.Stands, mode, if_neg (by rintro ⟨⟩)] at stands
        have nothing : completed ctx.parser byte = none := by simp only [completed, mode]
        rw [nothing]
        exact stepOsc_lands vte held stands mode (bounded.osc mode).2
    | string =>
        rw [Vte.Stands, mode, if_neg (by rintro ⟨⟩)] at stands
        have nothing : completed ctx.parser byte = none := by simp only [completed, mode]
        rw [nothing]
        refine .silent vte held stands ?_ ?_
        · simp only [stepString]
          split
          · exact ⟨rfl, rfl, rfl⟩
          split <;> exact ⟨rfl, rfl, rfl⟩
        · simp only [stepString]
          split
          · rintro ⟨⟩
          split
          · rintro ⟨⟩
          · rw [mode]
            rintro ⟨⟩
    | stringEscape =>
        rw [Vte.Stands, mode, if_neg (by rintro ⟨⟩)] at stands
        have nothing : completed ctx.parser byte = none := by simp only [completed, mode]
        rw [nothing]
        refine .silent vte held stands ⟨rfl, rfl, rfl⟩ ?_
        simp only [stepStringEscape]
        split <;> rintro ⟨⟩

end Step

/-! ## The whole stream -/

/-- The pane reads a byte, or does something else with its terminal state: forwards
clipboard writes, answers a prompt, drains the replies. -/
inductive Moment where
  | byte (env : InterceptEnv) (byte : UInt8)
  | aside (next : InterceptCtx)

structure Joint (vte : Vte) where
  ctx : InterceptCtx := {}
  parser : vte.State := vte.start
  alternate : Bool := false
  keyboard : Keyboard := {}

namespace Joint
variable {vte : Vte}

def step (joint : Joint vte) : Moment → Joint vte
  | .byte env byte =>
      let (ctx, filtered) := interceptByte env joint.ctx byte
      let (parser, calls) := Transducer.run vte.advance joint.parser filtered
      { ctx, parser, alternate := performAll joint.alternate calls
        keyboard := joint.keyboard.step joint.alternate (completed joint.ctx.parser byte) }
  | .aside next =>
      let state := joint.ctx.state
      { joint with
        ctx := { next with
                 parser := joint.ctx.parser
                 state := { next.state with
                            kittyKbd := state.kittyKbd
                            inactiveKittyKbd := state.inactiveKittyKbd
                            alternateScreen := state.alternateScreen } } }

def run (joint : Joint vte) (moments : List Moment) : Joint vte := moments.foldl step joint

/-- The byte completes no sequence that switches the display parser's screen unread. -/
def Quiet (joint : Joint vte) : Moment → Prop
  | .byte _ byte =>
      ∀ body final, completed joint.ctx.parser byte = some (.csi body final) → ¬ vte.SwitchesUnread body final
  | .aside _ => True

structure Agrees (joint : Joint vte) : Prop where
  held : joint.keyboard.HeldBy joint.ctx.state
  stands : vte.Stands joint.ctx.parser.mode joint.parser
  screen : joint.alternate = joint.ctx.state.alternateScreen
  bounded : joint.ctx.parser.Bounded

theorem Agrees.start : Agrees ({} : Joint vte) :=
  ⟨⟨rfl, rfl⟩, by rw [Vte.Stands, if_neg (by rintro ⟨⟩)]; exact vte.start_ready, rfl, .start _⟩

theorem Agrees.step {joint : Joint vte} (agrees : joint.Agrees) {moment : Moment} (quiet : joint.Quiet moment) :
    (joint.step moment).Agrees := by
  cases moment with
  | aside next => exact ⟨agrees.held.congr ⟨rfl, rfl, rfl⟩, agrees.stands, agrees.screen, agrees.bounded⟩
  | byte env byte =>
      have lands := @interceptByte_lands vte joint.keyboard joint.parser env joint.ctx byte agrees.held agrees.stands
        agrees.bounded quiet
      rw [← agrees.screen] at lands
      exact ⟨lands.held, lands.stands, lands.screen, interceptByte_bounded agrees.bounded⟩

/-- Quiet at every step. -/
def QuietRun (joint : Joint vte) (moments : List Moment) : Prop :=
  ∀ front moment back, moments = front ++ moment :: back → (joint.run front).Quiet moment

theorem Agrees.run {joint : Joint vte} (agrees : joint.Agrees) {moments : List Moment}
    (quiet : joint.QuietRun moments) : (joint.run moments).Agrees := by
  induction moments generalizing joint with
  | nil => exact agrees
  | cons moment moments ih =>
      have first := agrees.step (quiet [] moment moments rfl)
      apply ih first
      intro front other back shape
      exact quiet (moment :: front) other back (by rw [shape]; rfl)

/-- The child asks which flags are active. -/
theorem Agrees.reports {joint : Joint vte} (agrees : joint.Agrees) (env : InterceptEnv)
    (mode : joint.ctx.parser.mode = .csi) (body : joint.ctx.parser.buffer = [0x3F])
    (clean : joint.ctx.parser.overflow = false) :
    (joint.step (.byte env 0x75)).ctx.replies =
      joint.ctx.replies ++ [ascii s!"\x1b[?{(joint.keyboard.active joint.alternate).toNat}u"] := by
  have active : joint.ctx.state.kittyKbd.active &&& KittyKbdStack.all = joint.keyboard.active joint.alternate := by
    rw [agrees.held.current.active, KittyFlags.and_all, agrees.screen]
    rfl
  have notCancel : isCancel 0x75 = false := by decide
  have unowned : ownsModes [0x3F] 0x75 = false := by decide
  have intercepted : (interceptByte env joint.ctx 0x75).1 = (finishCsi env joint.ctx 0x75).1 := by
    simp only [interceptByte, notCancel, Bool.false_and, Bool.false_eq_true, if_false, mode]
    rfl
  have replied : (handleCsiU joint.ctx [0x3F]).replies =
      joint.ctx.replies ++ [ascii s!"\x1b[?{(joint.ctx.state.kittyKbd.active &&& KittyKbdStack.all).toNat}u"] := rfl
  have finished : (finishCsi env joint.ctx 0x75).1.replies = (handleCsiU joint.ctx [0x3F]).replies := by
    simp only [finishCsi, clean, Bool.false_eq_true, if_false, if_true, body, interceptDecModes_eq, unowned]
  have stepped : (joint.step (.byte env 0x75)).ctx = (interceptByte env joint.ctx 0x75).1 := rfl
  rw [stepped, intercepted, finished, replied, active]

end Joint

/-! ## A parser in front -/

inductive VteState where
  | ground
  | escape
  | collecting (first : UInt8) (more : Bytes)
  | csi (body : Bytes)
  | osc (payload : Bytes)
  deriving DecidableEq, Repr

def isParamByte (b : UInt8) : Bool := isAsciiDigit b || b == 0x3A || b == 0x3B

/-- A private marker, parameters, then intermediates; anything else is ignored. -/
def readCsiBody (body : Bytes) : Option (List (List Nat) × Bytes) :=
  let marker := body.take 1 |>.filter fun b => 0x3C ≤ b && b ≤ 0x3F
  let rest := body.drop marker.length
  let intermediates := rest.dropWhile isParamByte
  if intermediates.all fun b => 0x20 ≤ b && b ≤ 0x2F then
    some (((rest.takeWhile isParamByte).splitOn 0x3B).map fun param =>
      (param.splitOn 0x3A).map fun digits => min (digitsValue digits) 65535, marker ++ intermediates)
  else none

/-- The states of the DEC parser that the interceptor's output visits. -/
def vteAdvance : VteState → UInt8 → VteState × List Perform
  | .ground, b => if b = 0x1B then (.escape, []) else (.ground, [if b < 0x20 then .execute b else .print [b]])
  | .escape, b =>
      if b = 0x5B then (.csi [], [])
      else if b = 0x5D then (.osc [], [])
      else if 0x20 ≤ b && b ≤ 0x2F then (.collecting b [], [])
      else if 0x30 ≤ b && b ≤ 0x7E then (.ground, [.escDispatch [] b])
      else if isCancel b then (.ground, [.execute b])
      else (.escape, [])
  | .collecting first more, b =>
      if 0x30 ≤ b && b ≤ 0x7E then (.ground, [.escDispatch (first :: more) b])
      else if isCancel b then (.ground, [.execute b])
      else if b = 0x1B then (.escape, [])
      else if 0x20 ≤ b && b ≤ 0x2F then (.collecting first (more ++ [b]), [])
      else (.collecting first more, [])
  | .csi body, b =>
      if 0x40 ≤ b && b ≤ 0x7E then
        (.ground, ((readCsiBody body).map fun read => Perform.csiDispatch read.1 read.2 b).toList)
      else if 0x20 ≤ b && b ≤ 0x3F then (.csi (body ++ [b]), [])
      else if isCancel b then (.ground, [.execute b])
      else if b = 0x1B then (.escape, [])
      else (.csi body, [])
  | .osc payload, b =>
      if b = 0x07 then (.ground, [.oscDispatch payload])
      else if b = 0x1B then (.escape, [.oscDispatch payload])
      else if isCancel b then (.ground, [.oscDispatch payload])
      else (.osc (payload ++ [b]), [])

theorem readCsiBody_private {digits : Bytes} (allDigits : digits.all isAsciiDigit = true) :
    readCsiBody (0x3F :: digits) = some ([[min (digitsValue digits) 65535]], [0x3F]) := by
  have isDigit (b : UInt8) (member : b ∈ digits) : isAsciiDigit b = true := List.all_eq_true.1 allDigits b member
  have params : ∀ b ∈ digits, isParamByte b = true := by
    intro b member
    simp only [isParamByte, isDigit b member, Bool.true_or]
  have noSeparator : (0x3B : UInt8) ∉ digits := fun member => absurd (isDigit _ member) (by decide)
  have noColon : (0x3A : UInt8) ∉ digits := fun member => absurd (isDigit _ member) (by decide)
  have marker : (List.filter (fun b : UInt8 => decide (0x3C ≤ b) && decide (b ≤ 0x3F)) [0x3F]) = [0x3F] := by
    decide
  simp only [readCsiBody, List.take_succ_cons, List.take_zero, marker, List.length_singleton, List.drop_succ_cons,
    List.drop_zero, List.takeWhile_eq_self_iff.2 params, List.dropWhile_eq_nil_iff.2 params, List.all_nil, if_true,
    List.splitOn_eq_singleton noSeparator, List.map_singleton, List.splitOn_eq_singleton noColon, List.append_nil]

theorem run_csi {body : Bytes} (params : ∀ b ∈ body, 0x20 ≤ b ∧ b ≤ 0x3F) (front : Bytes) :
    Transducer.run vteAdvance (.csi front) body = (.csi (front ++ body), []) := by
  induction body generalizing front with
  | nil => rw [Transducer.run_nil, List.append_nil]
  | cons b body ih =>
      obtain ⟨low, high⟩ := params b (List.mem_cons_self ..)
      have notFinal : ¬ (decide (0x40 ≤ b) && decide (b ≤ 0x7E)) = true := by
        simp only [Bool.and_eq_true, decide_eq_true_eq, not_and]
        grind
      have param : (decide (0x20 ≤ b) && decide (b ≤ 0x3F)) = true := by
        simp only [low, high, decide_true, Bool.and_self]
      rw [Transducer.run_cons]
      simp only [vteAdvance, if_neg notFinal, if_pos param]
      rw [ih fun other member => params other (List.mem_cons_of_mem _ member), List.append_assoc]
      rfl

theorem run_osc {payload : Bytes} (printable : ∀ b ∈ payload, 0x20 ≤ b) (front : Bytes) :
    Transducer.run vteAdvance (.osc front) payload = (.osc (front ++ payload), []) := by
  induction payload generalizing front with
  | nil => rw [Transducer.run_nil, List.append_nil]
  | cons b payload ih =>
      have low := printable b (List.mem_cons_self ..)
      have notBell : b ≠ 0x07 := by rintro rfl; exact absurd low (by decide)
      have notEscape : b ≠ 0x1B := by rintro rfl; exact absurd low (by decide)
      have notCancel : ¬ isCancel b = true := by
        simp only [isCancel, Bool.or_eq_true, beq_iff_eq, not_or]
        constructor <;> (rintro rfl; exact absurd low (by decide))
      rw [Transducer.run_cons]
      simp only [vteAdvance, if_neg notBell, if_neg notEscape, if_neg notCancel]
      rw [ih fun other member => printable other (List.mem_cons_of_mem _ member), List.append_assoc]
      rfl

/-- A parser that follows the grammar. -/
def decParser : Vte where
  State := VteState
  start := .ground
  advance := vteAdvance
  ready s := s = .ground
  collecting s := ∃ first more, s = .collecting first more
  readCsi := readCsiBody
  start_ready := rfl
  plain := by
    rintro s b rfl notEscape
    simp only [vteAdvance, if_neg notEscape, List.mem_singleton, true_and]
    rintro call rfl
    split <;> trivial
  escape := by
    rintro s b rfl ⟨high, low, top, notCsi, notOsc, _⟩
    have notIntermediate : ¬ (decide (0x20 ≤ b) && decide (b ≤ 0x2F)) = true := by
      simp only [Bool.and_eq_true, decide_eq_true_eq, not_and]
      grind
    have final : (decide (0x30 ≤ b) && decide (b ≤ 0x7E)) = true := by
      simp only [high, top, decide_true, Bool.and_self]
    simp only [Transducer.run_cons, Transducer.run_nil, vteAdvance, if_true, if_neg notCsi, if_neg notOsc,
      if_neg notIntermediate, if_pos final]
    exact ⟨trivial, [], nofun, rfl⟩
  collect := by
    rintro s b rfl ⟨low, high⟩
    have notCsi : b ≠ 0x5B := by rintro rfl; exact absurd high (by decide)
    have notOsc : b ≠ 0x5D := by rintro rfl; exact absurd high (by decide)
    have intermediate : (decide (0x20 ≤ b) && decide (b ≤ 0x2F)) = true := by
      simp only [low, high, decide_true, Bool.and_self]
    simp only [Transducer.run_cons, Transducer.run_nil, vteAdvance, if_true, if_neg notCsi, if_neg notOsc,
      if_pos intermediate]
    exact ⟨⟨b, [], rfl⟩, nofun⟩
  collected := by
    rintro s b ⟨first, more, rfl⟩ ⟨low, high⟩
    have final : (decide (0x30 ≤ b) && decide (b ≤ 0x7E)) = true := by
      simp only [low, high, decide_true, Bool.and_self]
    simp only [vteAdvance, if_pos final]
    exact ⟨trivial, first, more, rfl⟩
  cancelled := by
    rintro s b ⟨first, more, rfl⟩ cancel
    have notFinal : ¬ (decide (0x30 ≤ b) && decide (b ≤ 0x7E)) = true := by
      have bytes : b = 0x18 ∨ b = 0x1A := by simpa [isCancel] using cancel
      rcases bytes with rfl | rfl <;> decide
    simp only [vteAdvance, if_neg notFinal, if_pos cancel, List.mem_singleton, true_and]
    rintro call rfl
    trivial
  collects := by
    rintro s b ⟨first, more, rfl⟩ notCancel notEscape notFinal
    have passed : ¬ (decide (0x30 ≤ b) && decide (b ≤ 0x7E)) = true := by simpa using notFinal
    simp only [vteAdvance, if_neg passed, notCancel, Bool.false_eq_true, if_false, if_neg notEscape]
    split
    · exact ⟨⟨first, more ++ [b], rfl⟩, nofun⟩
    · exact ⟨⟨first, more, rfl⟩, nofun⟩
  csi := by
    rintro s body final rfl params ⟨low, high⟩
    have dispatch : (decide (0x40 ≤ final) && decide (final ≤ 0x7E)) = true := by
      simp only [low, high, decide_true, Bool.and_self]
    rw [Transducer.run_cons, Transducer.run_cons]
    simp only [vteAdvance, if_true, Transducer.run_append, run_csi params, Transducer.run_singleton, if_pos dispatch]
    exact ⟨trivial, [], nofun, rfl⟩
  title := by
    rintro s payload rfl _ printable
    have started : vteAdvance .ground 0x1B = (.escape, []) := rfl
    have opened : vteAdvance .escape 0x5D = (.osc [], []) := rfl
    have closed : vteAdvance (.osc payload) 0x07 = (.ground, [.oscDispatch payload]) := rfl
    rw [Transducer.run_cons, Transducer.run_cons, started, opened, Transducer.run_append, run_osc printable,
      Transducer.run_singleton, List.nil_append, closed]
    refine ⟨rfl, ?_⟩
    intro call member
    cases List.mem_singleton.1 member
    trivial
  readCsi_private := readCsiBody_private

/-- The bytes of a child's output, read at once. -/
def readBytes (bytes : Bytes) : List Moment := bytes.map (.byte {})

/-- Every mode change of the run is one that the interceptor reads. -/
def readsModes {vte : Vte} : Joint vte → List Moment → Bool
  | _, [] => true
  | joint, moment :: moments =>
      (match moment with
      | .byte _ byte =>
          match completed joint.ctx.parser byte with
          | some (.csi body final) => ownsModes body final || !(final == 0x68 || final == 0x6C)
          | _ => true
      | .aside _ => true) && readsModes (joint.step moment) moments

theorem quietRun_of_readsModes {vte : Vte} {joint : Joint vte} {moments : List Moment}
    (reads : readsModes joint moments = true) : joint.QuietRun moments := by
  induction moments generalizing joint with
  | nil =>
      intro front moment back shape
      cases front <;> cases shape
  | cons moment moments ih =>
      unfold readsModes at reads
      rw [Bool.and_eq_true] at reads
      intro front other back shape
      cases front with
      | cons first front =>
          obtain ⟨rfl, later⟩ := List.cons.inj shape
          exact ih reads.2 front other back later
      | nil =>
          obtain ⟨rfl, _⟩ := List.cons.inj shape
          cases moment with
          | aside next => trivial
          | byte env byte =>
              intro body final completes unread
              obtain ⟨unowned, changes, _⟩ := unread
              have here := reads.1
              simp only [Joint.run, List.foldl_nil] at completes
              simp only [completes, unowned, Bool.false_or, Bool.not_eq_true', Bool.or_eq_false_iff,
                beq_eq_false_iff_ne] at here
              rcases changes with rfl | rfl
              · exact here.1 rfl
              · exact here.2 rfl

/-- In every run without such a sequence: on every prefix the interceptor's screen is
the display parser's, the flags that keys are encoded with are the reference's on
that screen, and a query is answered with them. -/
theorem keyboard_per_screen (vte : Vte) (moments : List Moment) (quiet : Joint.QuietRun ({} : Joint vte) moments) :
    ∀ front, front <+: moments →
      let joint := Joint.run ({} : Joint vte) front
      joint.ctx.state.alternateScreen = joint.alternate ∧
      joint.ctx.state.kittyKbd.active = joint.keyboard.active joint.alternate ∧
      ∀ env, completed joint.ctx.parser 0x75 = some (.csi [0x3F] 0x75) →
        (joint.step (.byte env 0x75)).ctx.replies =
          joint.ctx.replies ++ [ascii s!"\x1b[?{(joint.keyboard.active joint.alternate).toNat}u"] := by
  rintro front ⟨rest, rfl⟩ joint
  have quietFront : Joint.QuietRun ({} : Joint vte) front := by
    intro before moment after shape
    exact quiet before moment (after ++ rest) (by rw [shape, List.append_assoc]; rfl)
  have agrees : joint.Agrees := Joint.Agrees.start.run quietFront
  refine ⟨agrees.screen.symm, ?_, ?_⟩
  · rw [agrees.held.current.active, ← agrees.screen]
    rfl
  · intro env asks
    unfold completed at asks
    split at asks
    · next mode =>
        split at asks
        · next accepted =>
            have body := (Completed.csi.inj (Option.some.inj asks)).1
            have clean : joint.ctx.parser.overflow = false := by simpa using accepted
            exact agrees.reports env mode body clean
        · cases asks
    · split at asks <;> cases asks
    · cases asks

theorem keyboard_per_screen_switched :
    let joint := Joint.run ({} : Joint decParser) (readBytes (ascii "\x1b[>1u\x1b[?1049h"))
    joint.ctx.state.alternateScreen = joint.alternate ∧ joint.alternate = true ∧
      joint.ctx.state.kittyKbd.active = joint.keyboard.active joint.alternate := by
  have quiet : Joint.QuietRun ({} : Joint decParser) (readBytes (ascii "\x1b[>1u\x1b[?1049h")) :=
    quietRun_of_readsModes (by decide +kernel)
  obtain ⟨screen, flags, _⟩ := keyboard_per_screen decParser _ quiet _ (List.prefix_refl _)
  exact ⟨screen, by decide +kernel, flags⟩

/-- `CSI ? 47 $ h` after a push: the child is on the alternate screen, where nothing
was pushed, and the interceptor still encodes with the main screen's flags. -/
theorem keyboard_screen_missed :
    let joint := Joint.run ({} : Joint decParser) (readBytes (ascii "\x1b[>1u\x1b[?47$h"))
    joint.alternate = true ∧ joint.ctx.state.alternateScreen = false ∧
      joint.keyboard.active joint.alternate = 0 ∧ joint.ctx.state.kittyKbd.active = 1 := by
  decide +kernel

end Ezpn
