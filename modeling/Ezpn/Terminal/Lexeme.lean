import Ezpn.Terminal.Display
import Mathlib.Data.List.TakeWhile

/-!
# Lexemes of the input

A reading of the whole stream at once: plain bytes, escape and CSI sequences, OSC
and the other string commands, each with the bytes it spans. The byte-at-a-time
machine is shown to emit for each lexeme exactly what the lexeme admits, so no
payload byte of a string command survives.
-/

set_option autoImplicit false

namespace Ezpn

/-- Bytes between ESC and the byte that decides the sequence: C0 controls, which
are executed, a repeated ESC, and bytes that start nothing. -/
def isEscapeNoise (b : UInt8) : Bool := !isCancel b && (b ≤ 0x1F || 0x7F ≤ b)

def isIntroducer (b : UInt8) : Bool := b == 0x50 || b == 0x58 || b == 0x5E || b == 0x5F

/-- Bytes that neither dispatch nor abort a CSI sequence. -/
def inCsi (b : UInt8) : Bool := !isCancel b && b != 0x1B && !(0x40 ≤ b && b ≤ 0x7E)

/-- Bytes that neither end nor cancel an OSC. -/
def inOsc (b : UInt8) : Bool := !isCancel b && b != 0x1B && b != 0x07

def inIntermediate (b : UInt8) : Bool := !isCancel b && b != 0x1B && !(0x30 ≤ b && b ≤ 0x7E)

/-- The C0 controls of a sequence, executed where they stand. -/
def executed (bytes : Bytes) : Bytes := bytes.flatMap fun b => if b ≤ 0x1F && b != 0x1B then [b] else []

inductive Lexeme where
  | plain (b : UInt8)
  /-- the end of the stream inside an escape -/
  | pending (noise : Bytes)
  | cancelled (noise : Bytes) (cancel : UInt8)
  | escape (noise : Bytes) (final : UInt8)
  | intermediate (noise : Bytes) (lead : UInt8) (middle : Bytes) (last : Option UInt8)
  | csi (noise params : Bytes) (last : Option UInt8)
  | osc (noise payload : Bytes) (last : Option UInt8)
  /-- DCS, SOS, PM or APC -/
  | string (noise : Bytes) (introducer : UInt8) (payload terminator : Bytes)
  deriving DecidableEq, Repr

/-- The bytes a lexeme spans. -/
def Lexeme.source : Lexeme → Bytes
  | plain b => [b]
  | pending noise => noise
  | cancelled noise cancel => noise ++ [cancel]
  | escape noise final => noise ++ [final]
  | intermediate noise lead middle last => noise ++ lead :: (middle ++ last.toList)
  | csi noise params last => noise ++ 0x5B :: (params ++ last.toList)
  | osc noise payload last => noise ++ 0x5D :: (payload ++ last.toList)
  | string noise introducer payload terminator => noise ++ introducer :: (payload ++ terminator)

/-- Split a string command into payload, terminator (ST in either form, or a
cancel; empty at the end of the stream) and the rest. -/
def splitString : Bytes → Bytes × Bytes × Bytes
  | [] => ([], [], [])
  | b :: rest =>
      if b = 0x9C || isCancel b then ([], [b], rest)
      else if b = 0x1B then
        match rest with
        | [] => ([b], [], [])
        | next :: rest =>
            if next = 0x5C then ([], [b, next], rest)
            else if isCancel next then ([b], [next], rest)
            else
              let (payload, terminator, after) := splitString rest
              (b :: next :: payload, terminator, after)
      else
        let (payload, terminator, after) := splitString rest
        (b :: payload, terminator, after)

theorem splitString_source (input : Bytes) :
    (splitString input).1 ++ ((splitString input).2.1 ++ (splitString input).2.2) = input := by
  fun_induction splitString input <;> simp_all

theorem splitString_open (input : Bytes) (opened : (splitString input).2.1 = []) : (splitString input).2.2 = [] := by
  fun_induction splitString input <;> simp_all

theorem splitString_length (input : Bytes) : (splitString input).2.2.length ≤ input.length := by
  have lengths := congrArg List.length (splitString_source input)
  simp only [List.length_append] at lengths
  omega

/-- Read a stream; `escaped` when the ESC of the next lexeme already ended the last one. -/
def lexemes (escaped : Bool) (input : Bytes) : List Lexeme :=
  match input with
  | [] => []
  | b :: rest =>
      if !escaped && b != 0x1B then .plain b :: lexemes false rest
      else
        let noise := (b :: rest).takeWhile isEscapeNoise
        match after : (b :: rest).dropWhile isEscapeNoise with
        | [] => [.pending noise]
        | lead :: body =>
            have shorter : body.length < (b :: rest).length := by
              have suffix := ((b :: rest).dropWhile_suffix isEscapeNoise).length_le
              rw [after] at suffix
              exact suffix
            if isCancel lead then .cancelled noise lead :: lexemes false body
            else if lead = 0x5B then
              match tail : body.dropWhile inCsi with
              | [] => [.csi noise body none]
              | last :: further =>
                  have shorter : further.length < (b :: rest).length := by
                    have suffix := (body.dropWhile_suffix inCsi).length_le
                    rw [tail] at suffix
                    simp only [List.length_cons] at suffix shorter ⊢
                    omega
                  .csi noise (body.takeWhile inCsi) (some last) :: lexemes (last == 0x1B) further
            else if lead = 0x5D then
              match tail : body.dropWhile inOsc with
              | [] => [.osc noise body none]
              | last :: further =>
                  have shorter : further.length < (b :: rest).length := by
                    have suffix := (body.dropWhile_suffix inOsc).length_le
                    rw [tail] at suffix
                    simp only [List.length_cons] at suffix shorter ⊢
                    omega
                  .osc noise (body.takeWhile inOsc) (some last) :: lexemes (last == 0x1B) further
            else if isIntroducer lead then
              have shorter : (splitString body).2.2.length < (b :: rest).length := by
                have suffix := splitString_length body
                omega
              .string noise lead (splitString body).1 (splitString body).2.1 ::
                lexemes false (splitString body).2.2
            else if 0x30 ≤ lead then .escape noise lead :: lexemes false body
            else
              match tail : body.dropWhile inIntermediate with
              | [] => [.intermediate noise lead body none]
              | last :: further =>
                  have shorter : further.length < (b :: rest).length := by
                    have suffix := (body.dropWhile_suffix inIntermediate).length_le
                    rw [tail] at suffix
                    simp only [List.length_cons] at suffix shorter ⊢
                    omega
                  .intermediate noise lead (body.takeWhile inIntermediate) (some last) ::
                    lexemes (last == 0x1B) further
termination_by input.length
decreasing_by
  · exact Nat.lt_succ_self _
  all_goals assumption

/-- What a finished OSC shows: its printable payload as a title, or nothing. -/
def titleImage (payload : Bytes) : Bytes :=
  let kept := payload.filter fun b => 0x20 ≤ b
  if isTitlePayload kept then ascii "\x1b]" ++ kept ++ [0x07] else []

/-- What the display parser may receive for a lexeme. -/
def Lexeme.Emits : Lexeme → Bytes → Prop
  | plain b, out => out = [b]
  | pending noise, out => out = executed noise
  | cancelled noise cancel, out => out = executed noise ++ [cancel]
  | escape noise final, out => out = executed noise ++ [0x1B, final]
  | intermediate noise lead middle last, out =>
      out = executed noise ++ 0x1B :: lead :: (middle ++
        last.toList.map fun b => if b = 0x1B then 0x18 else b)
  | csi noise params none, out => out = executed noise ++ executed params
  | csi noise params (some last), out =>
      ∃ shown, DisplayOutput shown ∧ out = executed noise ++ executed params ++
        if isCancel last then [last] else if last = 0x1B then [] else shown
  | osc noise _ none, out => out = executed noise
  | osc noise payload (some last), out =>
      out = executed noise ++ if isCancel last then [last] else titleImage payload
  | string noise _ _ terminator, out => out = executed noise ++ terminator.filter isCancel

theorem span_source {p : UInt8 → Bool} {input tail : Bytes} (split : input.dropWhile p = tail) :
    input.takeWhile p ++ tail = input := by
  rw [← split]
  exact List.takeWhile_append_dropWhile

/-- Nothing of the stream is left out. -/
theorem lexemes_source (escaped : Bool) (input : Bytes) :
    (lexemes escaped input).flatMap Lexeme.source = input := by
  fun_induction lexemes escaped input with
  | case1 => rfl
  | case2 escaped b rest plain ih => simp [Lexeme.source, ih]
  | case3 escaped b rest _ noise after =>
      have whole := span_source after
      rw [List.append_nil] at whole
      simp only [List.flatMap_cons, List.flatMap_nil, Lexeme.source, List.append_nil]
      exact whole
  | case4 escaped b rest _ noise lead body after _ _ ih =>
      simpa [Lexeme.source, ih] using span_source after
  | case5 escaped b rest _ noise body tail after =>
      simpa [Lexeme.source] using span_source after
  | case6 escaped b rest _ noise body last further tail after _ _ _ ih =>
      simpa [Lexeme.source, ih, span_source tail] using span_source after
  | case7 escaped b rest _ noise body tail after =>
      simpa [Lexeme.source] using span_source after
  | case8 escaped b rest _ noise body last further tail after _ _ _ _ ih =>
      simpa [Lexeme.source, ih, span_source tail] using span_source after
  | case9 escaped b rest _ noise lead body after _ _ _ _ _ _ ih =>
      simpa [Lexeme.source, ih, splitString_source] using span_source after
  | case10 escaped b rest _ noise lead body after _ _ _ _ _ _ ih =>
      simpa [Lexeme.source, ih] using span_source after
  | case11 escaped b rest _ noise lead body after =>
      simpa [Lexeme.source] using span_source after
  | case12 escaped b rest _ noise lead body after _ _ _ _ _ _ last further tail _ ih =>
      simpa [Lexeme.source, ih, span_source tail] using span_source after

/-! ## Segments of the machine's run -/

section Segments
variable {env : InterceptEnv}

theorem interceptChunk_append (ctx : InterceptCtx) (front back : Bytes) :
    (interceptChunk env ctx (front ++ back)).2 =
      (interceptChunk env ctx front).2 ++ (interceptChunk env (interceptChunk env ctx front).1 back).2 :=
  congrArg Prod.snd (Transducer.run_append ctx front back)

theorem stepEscape_noise (ctx : InterceptCtx) {b : UInt8} (noisy : b ≤ 0x1F ∨ 0x7F ≤ b) :
    stepEscape ctx b =
      ({ ctx with parser := { mode := .escape } }, if b ≤ 0x1F && b != 0x1B then [b] else []) := by
  by_cases escape : b = 0x1B
  · subst escape
    rfl
  · have different : b ≠ 0x5B ∧ b ≠ 0x5D ∧ b ≠ 0x50 ∧ b ≠ 0x58 ∧ b ≠ 0x5E ∧ b ≠ 0x5F := by grind
    obtain ⟨notCsi, notOsc, notDcs, notSos, notPm, notApc⟩ := different
    have outside : ¬(0x20 ≤ b ∧ b ≤ 0x2F) ∧ ¬(0x30 ≤ b ∧ b ≤ 0x7E) := by grind
    by_cases control : b ≤ 0x1F <;>
      simp [stepEscape, escape, notCsi, notOsc, notDcs, notSos, notPm, notApc, outside, control]

theorem escape_noise (env : InterceptEnv) (ctx : InterceptCtx) {noise : Bytes} (escape : ctx.parser.mode = .escape)
    (admitted : ∀ b ∈ noise, isEscapeNoise b = true) :
    (interceptChunk env ctx noise).1.parser.mode = .escape ∧
      (interceptChunk env ctx noise).2 = executed noise := by
  refine Transducer.run_loop (fun ctx : InterceptCtx => ctx.parser.mode = .escape) ?_ escape admitted
  intro ctx b mode noisy
  simp only [isEscapeNoise, Bool.and_eq_true, Bool.not_eq_true', Bool.or_eq_true, decide_eq_true_eq] at noisy
  have step : interceptByte env ctx b = stepEscape ctx b := by simp [interceptByte, mode, noisy.1]
  rw [step, stepEscape_noise ctx noisy.2]
  exact ⟨rfl, rfl⟩

/-- The noise of a lexeme, whether its ESC is still to come or already read. -/
theorem opening_noise {ctx : InterceptCtx} {escaped : Bool} {b : UInt8} {rest : Bytes}
    (ready : ctx.parser.mode = if escaped then .escape else .ground) (opens : ¬(!escaped && b != 0x1B) = true) :
    (interceptChunk env ctx ((b :: rest).takeWhile isEscapeNoise)).1.parser.mode = .escape ∧
      (interceptChunk env ctx ((b :: rest).takeWhile isEscapeNoise)).2 =
        executed ((b :: rest).takeWhile isEscapeNoise) := by
  have admitted (l : Bytes) : ∀ x ∈ l.takeWhile isEscapeNoise, isEscapeNoise x = true :=
    fun x member => List.all_eq_true.mp List.all_takeWhile x member
  cases escaped with
  | true => exact escape_noise env ctx ready (admitted _)
  | false =>
      have escape : b = 0x1B := by simpa using opens
      subst escape
      have ground : ctx.parser.mode = .ground := ready
      have step : interceptByte env ctx 0x1B = ({ ctx with parser.mode := .escape }, []) := by
        simp [interceptByte, ground]
      obtain ⟨mode, output⟩ := escape_noise env { ctx with parser.mode := .escape } rfl (admitted rest)
      have noise : (0x1B :: rest).takeWhile isEscapeNoise = 0x1B :: rest.takeWhile isEscapeNoise :=
        List.takeWhile_cons_of_pos (by decide)
      rw [noise, interceptChunk, Transducer.run_cons, step]
      exact ⟨mode, by simpa [executed, interceptChunk] using output⟩

theorem csi_params (env : InterceptEnv) (ctx : InterceptCtx) {params : Bytes} (csi : ctx.parser.mode = .csi)
    (bounded : ctx.parser.Bounded) (admitted : ∀ b ∈ params, inCsi b = true) :
    ((interceptChunk env ctx params).1.parser.mode = .csi ∧ (interceptChunk env ctx params).1.parser.Bounded) ∧
      (interceptChunk env ctx params).2 = executed params := by
  refine Transducer.run_loop
    (fun ctx : InterceptCtx => ctx.parser.mode = .csi ∧ ctx.parser.Bounded) ?_ ⟨csi, bounded⟩ admitted
  intro ctx b inv inside
  obtain ⟨mode, bounded⟩ := inv
  simp only [inCsi, Bool.and_eq_true, Bool.not_eq_true', bne_iff_ne] at inside
  obtain ⟨⟨notCancel, notEscape⟩, notFinal⟩ := inside
  have step : interceptByte env ctx b = stepCsi env ctx b := by simp [interceptByte, mode, notCancel]
  rw [step]
  refine ⟨⟨?_, stepCsi_bounded mode bounded⟩, ?_⟩
  · simp only [stepCsi, notEscape, notFinal, Bool.false_eq_true, ↓reduceIte]
    repeat' split
    all_goals exact mode
  · simp only [stepCsi, notEscape, notFinal, Bool.false_eq_true, ↓reduceIte]
    by_cases control : b ≤ 0x1F
    · simp [control, notEscape]
    · simp only [control, ↓reduceIte, decide_false, Bool.false_and, Bool.false_eq_true]
      repeat' split
      all_goals rfl

/-- After a printable payload either the buffer holds it or it was too long. -/
def OscRead (ctx : InterceptCtx) (kept : Bytes) : Prop :=
  ctx.parser.mode = .osc ∧
    ((ctx.parser.overflow = false ∧ ctx.parser.buffer = kept) ∨
      (ctx.parser.overflow = true ∧ oscPayloadMax < kept.length))

theorem osc_payload (env : InterceptEnv) {ctx : InterceptCtx} {kept payload : Bytes} (read : OscRead ctx kept)
    (admitted : ∀ b ∈ payload, inOsc b = true) :
    OscRead (interceptChunk env ctx payload).1 (kept ++ payload.filter fun b => 0x20 ≤ b) ∧
      (interceptChunk env ctx payload).2 = [] := by
  induction payload generalizing ctx kept with
  | nil => exact ⟨by simpa [interceptChunk] using read, rfl⟩
  | cons b payload ih =>
      obtain ⟨mode, held⟩ := read
      have inside := admitted b List.mem_cons_self
      simp only [inOsc, Bool.and_eq_true, Bool.not_eq_true', bne_iff_ne] at inside
      obtain ⟨⟨notCancel, notEscape⟩, notBell⟩ := inside
      have step : interceptByte env ctx b = stepOsc env ctx b := by simp [interceptByte, mode, notCancel]
      have next : OscRead (interceptByte env ctx b).1 (kept ++ [b].filter fun b => 0x20 ≤ b) ∧
          (interceptByte env ctx b).2 = [] := by
        rw [step]
        simp only [stepOsc, notEscape, notBell, ↓reduceIte]
        by_cases control : b ≤ 0x1F
        · have dropped : ¬0x20 ≤ b := by grind
          simp [control, dropped, OscRead, mode, held]
        · have printable : 0x20 ≤ b := by grind
          rcases held with ⟨fits, rfl⟩ | ⟨overflowed, long⟩
          · by_cases room : ctx.parser.buffer.length < oscPayloadMax
            · simp [control, printable, OscRead, mode, fits, room]
            · have full : oscPayloadMax < ctx.parser.buffer.length + 1 := by omega
              simp [control, printable, OscRead, mode, fits, room, full]
          · have longer : oscPayloadMax < kept.length + 1 := by omega
            simp [control, printable, OscRead, mode, overflowed, longer]
      obtain ⟨here, quiet⟩ := next
      obtain ⟨final, rest⟩ := ih here fun x member => admitted x (List.mem_cons_of_mem b member)
      rw [interceptChunk, Transducer.run_cons, quiet]
      refine ⟨?_, rest⟩
      have joined : (b :: payload).filter (fun b => 0x20 ≤ b) =
          [b].filter (fun b => 0x20 ≤ b) ++ payload.filter fun b => 0x20 ≤ b := by
        rw [← List.filter_append, List.singleton_append]
      rw [joined, ← List.append_assoc]
      exact final

/-- A finished OSC shows its title image, whatever else it did. -/
theorem finishOsc_output {ctx : InterceptCtx} {payload : Bytes} {mode : ControlMode}
    (read : OscRead ctx (payload.filter fun b => 0x20 ≤ b)) :
    (finishOsc env ctx mode).2 = titleImage payload := by
  obtain ⟨_, ⟨fits, buffer⟩ | ⟨overflowed, long⟩⟩ := read
  · simp [finishOsc, fits, buffer, titleImage]
  · have tooLong : isTitlePayload (payload.filter fun b => 0x20 ≤ b) = false := by
      have cap : 8192 ≤ oscPayloadMax := by decide
      simp only [isTitlePayload, Bool.and_eq_false_iff, decide_eq_false_iff_not]
      exact .inl (by omega)
    simp [finishOsc, overflowed, titleImage, tooLong]

theorem intermediate_middle (env : InterceptEnv) (ctx : InterceptCtx) {middle : Bytes} (mode : ctx.parser.mode = .escapeIntermediate)
    (admitted : ∀ b ∈ middle, inIntermediate b = true) :
    (interceptChunk env ctx middle).1.parser.mode = .escapeIntermediate ∧
      (interceptChunk env ctx middle).2 = middle := by
  have loops (ctx : InterceptCtx) (b : UInt8) (mode : ctx.parser.mode = .escapeIntermediate)
      (inside : inIntermediate b = true) : (interceptByte env ctx b).1.parser.mode = .escapeIntermediate ∧
        (interceptByte env ctx b).2 = (fun b => [b]) b := by
    simp only [inIntermediate, Bool.and_eq_true, Bool.not_eq_true', bne_iff_ne] at inside
    obtain ⟨⟨notCancel, notEscape⟩, notFinal⟩ := inside
    simp [interceptByte, mode, notCancel, stepIntermediate, notEscape, notFinal]
  simpa [interceptChunk] using
    Transducer.run_loop (fun ctx : InterceptCtx => ctx.parser.mode = .escapeIntermediate) loops mode admitted

theorem string_end (env : InterceptEnv) {ctx : InterceptCtx} {b : UInt8} (mode : ctx.parser.mode = .string)
    (ends : (b = 0x9C || isCancel b) = true) :
    (interceptByte env ctx b).2 = [b].filter isCancel ∧ (interceptByte env ctx b).1.parser.mode = .ground := by
  by_cases cancel : isCancel b = true
  · simp [interceptByte, mode, cancel]
  · have closing : b = 0x9C := by simpa [cancel] using ends
    subst closing
    simp [interceptByte, mode, cancel, stepString]

theorem string_escape {ctx : InterceptCtx} (mode : ctx.parser.mode = .string) :
    interceptByte env ctx 0x1B = ({ ctx with parser.mode := .stringEscape }, []) := by
  have notCancel : isCancel 0x1B = false := rfl
  simp [interceptByte, mode, notCancel, stepString]

theorem string_inside {ctx : InterceptCtx} {b : UInt8} (mode : ctx.parser.mode = .string)
    (inside : ¬(b = 0x9C || isCancel b) = true) (notEscape : b ≠ 0x1B) : interceptByte env ctx b = (ctx, []) := by
  simp only [Bool.or_eq_true, decide_eq_true_eq, not_or, Bool.not_eq_true] at inside
  simp [interceptByte, mode, inside, stepString, notEscape]

theorem stringEscape_step (env : InterceptEnv) (ctx : InterceptCtx) (b : UInt8) (mode : ctx.parser.mode = .stringEscape) :
    (interceptByte env ctx b).2 = [b].filter isCancel ∧
      (interceptByte env ctx b).1.parser.mode = if b = 0x5C || isCancel b then .ground else .string := by
  by_cases cancel : isCancel b = true
  · simp [interceptByte, mode, cancel]
  · have notCancel : isCancel b = false := by simpa using cancel
    by_cases closing : b = 0x5C
    · subst closing
      simp [interceptByte, mode, stepStringEscape, isCancel]
    · simp [interceptByte, mode, notCancel, closing, stepStringEscape]

/-- A string command shows nothing but the cancel that ends it. -/
theorem string_command (env : InterceptEnv) (ctx : InterceptCtx) (input : Bytes) (mode : ctx.parser.mode = .string) :
    ∃ after, interceptChunk env ctx ((splitString input).1 ++ (splitString input).2.1) =
        (after, (splitString input).2.1.filter isCancel) ∧
      ((splitString input).2.1 ≠ [] → after.parser.mode = .ground) := by
  fun_induction splitString input generalizing ctx with
  | case1 => exact ⟨ctx, rfl, by simp⟩
  | case2 b rest ends =>
      obtain ⟨output, ground⟩ := string_end env mode ends
      exact ⟨_, by simpa [interceptChunk, Transducer.run_singleton, Prod.ext_iff] using output, fun _ => ground⟩
  | case3 =>
      refine ⟨{ ctx with parser.mode := .stringEscape }, ?_, by simp⟩
      simp [interceptChunk, Transducer.run_singleton, string_escape mode]
  | case4 rest =>
      obtain ⟨output, ground⟩ := stringEscape_step env { ctx with parser.mode := .stringEscape } 0x5C rfl
      refine ⟨_, Prod.ext rfl ?_, fun _ => ?_⟩
      · simpa [interceptChunk, Transducer.run_cons, string_escape mode, isCancel] using output
      · simpa [interceptChunk, Transducer.run_cons, string_escape mode, isCancel] using ground
  | case5 next rest notClosing cancel =>
      obtain ⟨output, ground⟩ := stringEscape_step env { ctx with parser.mode := .stringEscape } next rfl
      refine ⟨_, Prod.ext rfl ?_, fun _ => ?_⟩
      · simpa [interceptChunk, Transducer.run_cons, string_escape mode, cancel] using output
      · simpa [interceptChunk, Transducer.run_cons, string_escape mode, cancel] using ground
  | case6 next rest notClosing notCancel payload terminator after split _ ih =>
      obtain ⟨output, string⟩ := stringEscape_step env { ctx with parser.mode := .stringEscape } next rfl
      have notEnd : ¬(next = 0x5C || isCancel next) = true := by simp [notClosing, notCancel]
      rw [if_neg notEnd] at string
      obtain ⟨final, run, closed⟩ := ih _ string
      rw [split] at run closed
      refine ⟨final, ?_, closed⟩
      have quiet : [next].filter isCancel = [] := by simp [notCancel]
      rw [quiet] at output
      simp only [interceptChunk, List.cons_append, Transducer.run_cons, string_escape mode, output] at run ⊢
      rw [run]
      rfl
  | case7 b rest inside notEscape payload terminator after split ih =>
      obtain ⟨final, run, closed⟩ := ih _ mode
      rw [split] at run closed
      refine ⟨final, ?_, closed⟩
      simp only [interceptChunk, List.cons_append, Transducer.run_cons, string_inside mode inside notEscape] at run ⊢
      rw [run]
      rfl

/-! ## One lexeme -/

/-- The noise of a lexeme has been read and the machine waits for its lead. -/
def Opened (env : InterceptEnv) (ctx : InterceptCtx) (noise : Bytes) : Prop :=
  (interceptChunk env ctx noise).1.parser.mode = .escape ∧ (interceptChunk env ctx noise).2 = executed noise

/-- Reading `source` emits what `lexeme` admits and leaves the machine between
lexemes, with the next ESC already read when `escaped`. -/
def Reads (env : InterceptEnv) (ctx : InterceptCtx) (source : Bytes) (lexeme : Lexeme) (escaped : Bool) : Prop :=
  lexeme.Emits (interceptChunk env ctx source).2 ∧
    (interceptChunk env ctx source).1.parser.mode = if escaped then .escape else .ground

theorem interceptChunk_lead {ctx mid : InterceptCtx} {noise emitted : Bytes} {lead : UInt8}
    (opened : Opened env ctx noise) (step : interceptByte env (interceptChunk env ctx noise).1 lead = (mid, emitted))
    (body : Bytes) :
    interceptChunk env ctx (noise ++ lead :: body) =
      ((interceptChunk env mid body).1, executed noise ++ emitted ++ (interceptChunk env mid body).2) := by
  obtain ⟨_, output⟩ := opened
  simp only [interceptChunk] at output step ⊢
  rw [Transducer.run_append, Transducer.run_cons, step, output, List.append_assoc]

theorem interceptByte_escape (env : InterceptEnv) {ctx : InterceptCtx} {b : UInt8} (mode : ctx.parser.mode = .escape)
    (notCancel : ¬isCancel b = true) : interceptByte env ctx b = stepEscape ctx b := by
  simp [interceptByte, mode, notCancel]

theorem cancelled_reads {ctx : InterceptCtx} {noise : Bytes} {cancel : UInt8} (opened : Opened env ctx noise)
    (cancels : isCancel cancel = true) :
    Reads env ctx (noise ++ [cancel]) (.cancelled noise cancel) false := by
  have step : interceptByte env (interceptChunk env ctx noise).1 cancel =
      ({ (interceptChunk env ctx noise).1 with parser := {} }, [cancel]) := by
    simp [interceptByte, opened.1, cancels]
  rw [Reads, interceptChunk_lead opened step]
  exact ⟨by simp [Lexeme.Emits, interceptChunk], rfl⟩

theorem escape_reads {ctx : InterceptCtx} {noise : Bytes} {final : UInt8} (opened : Opened env ctx noise)
    (notCancel : ¬isCancel final = true) (notNoise : isEscapeNoise final = false) (notCsi : final ≠ 0x5B)
    (notOsc : final ≠ 0x5D) (notString : ¬isIntroducer final = true) (dispatches : 0x30 ≤ final) :
    Reads env ctx (noise ++ [final]) (.escape noise final) false := by
  have different : final ≠ 0x50 ∧ final ≠ 0x58 ∧ final ≠ 0x5E ∧ final ≠ 0x5F := by
    simpa [isIntroducer, and_assoc] using notString
  obtain ⟨notDcs, notSos, notPm, notApc⟩ := different
  have high : final ≤ 0x7E ∧ ¬final ≤ 0x1F ∧ ¬final ≤ 0x2F ∧ final ≠ 0x1B := by
    simp only [isEscapeNoise, Bool.and_eq_false_iff, Bool.or_eq_false_iff, decide_eq_false_iff_not] at notNoise
    grind
  obtain ⟨high, notControl, notIntermediate, notEscape⟩ := high
  have step := interceptByte_escape env opened.1 notCancel
  simp only [stepEscape, notCsi, notOsc, notDcs, notSos, notPm, notApc, notEscape, high, notControl,
    notIntermediate, dispatches, decide_false, decide_true, Bool.or_self, Bool.and_false, Bool.and_self,
    Bool.false_eq_true, ↓reduceIte] at step
  rw [Reads, interceptChunk_lead opened step]
  exact ⟨by simp [Lexeme.Emits, interceptChunk], rfl⟩

theorem intermediate_opens {ctx : InterceptCtx} {noise : Bytes} {lead : UInt8} (opened : Opened env ctx noise)
    (notCancel : ¬isCancel lead = true) (notNoise : isEscapeNoise lead = false) (low : ¬0x30 ≤ lead) :
    interceptByte env (interceptChunk env ctx noise).1 lead =
      ({ (interceptChunk env ctx noise).1 with parser := { mode := .escapeIntermediate } }, [0x1B, lead]) := by
  have range : 0x20 ≤ lead ∧ lead ≤ 0x2F := by
    simp only [isEscapeNoise, Bool.and_eq_false_iff, Bool.or_eq_false_iff, decide_eq_false_iff_not] at notNoise
    grind
  have different : lead ≠ 0x5B ∧ lead ≠ 0x5D ∧ lead ≠ 0x50 ∧ lead ≠ 0x58 ∧ lead ≠ 0x5E ∧ lead ≠ 0x5F ∧
      lead ≠ 0x1B := by grind
  rw [interceptByte_escape env opened.1 notCancel]
  simp [stepEscape, different, range]

theorem intermediate_reads {ctx : InterceptCtx} {noise middle : Bytes} {lead last : UInt8}
    (opened : Opened env ctx noise) (notCancel : ¬isCancel lead = true) (notNoise : isEscapeNoise lead = false)
    (low : ¬0x30 ≤ lead) (inside : ∀ b ∈ middle, inIntermediate b = true) (ends : inIntermediate last = false) :
    Reads env ctx (noise ++ lead :: (middle ++ [last])) (.intermediate noise lead middle (some last))
      (last == 0x1B) := by
  rw [Reads, interceptChunk_lead opened (intermediate_opens opened notCancel notNoise low)]
  obtain ⟨mode, output⟩ := intermediate_middle env
    { (interceptChunk env ctx noise).1 with parser := { mode := .escapeIntermediate } } rfl inside
  generalize { (interceptChunk env ctx noise).1 with parser := { mode := .escapeIntermediate } } = mid at mode output ⊢
  simp only [interceptChunk] at mode output ⊢
  rw [Transducer.run_append, Transducer.run_singleton, output]
  by_cases escape : last = 0x1B
  · subst escape
    simp [interceptByte, mode, isCancel, stepIntermediate, Lexeme.Emits]
  · by_cases cancel : isCancel last = true
    · simp [interceptByte, mode, cancel, Lexeme.Emits, escape]
    · have final : 0x30 ≤ last ∧ last ≤ 0x7E := by simpa [inIntermediate, cancel, escape] using ends
      simp [interceptByte, mode, cancel, stepIntermediate, Lexeme.Emits, escape, final]

theorem csi_opens {ctx : InterceptCtx} {noise : Bytes} (opened : Opened env ctx noise) :
    interceptByte env (interceptChunk env ctx noise).1 0x5B =
      ({ (interceptChunk env ctx noise).1 with parser := { mode := .csi } }, []) := by
  rw [interceptByte_escape env opened.1 (by decide)]
  rfl

theorem csi_reads {ctx : InterceptCtx} {noise params : Bytes} {last : UInt8} (opened : Opened env ctx noise)
    (inside : ∀ b ∈ params, inCsi b = true) (ends : inCsi last = false) :
    Reads env ctx (noise ++ 0x5B :: (params ++ [last])) (.csi noise params (some last)) (last == 0x1B) := by
  rw [Reads, interceptChunk_lead opened (csi_opens opened)]
  obtain ⟨⟨mode, bounded⟩, output⟩ := csi_params env
    { (interceptChunk env ctx noise).1 with parser := { mode := .csi } } rfl (.start .csi) inside
  generalize { (interceptChunk env ctx noise).1 with parser := { mode := .csi } } = mid at mode bounded output ⊢
  simp only [interceptChunk] at mode bounded output ⊢
  rw [Transducer.run_append, Transducer.run_singleton, output]
  have display : DisplayOutput (interceptByte env (Transducer.run (interceptByte env) mid params).1 last).2 :=
    interceptByte_display bounded
  refine ⟨⟨_, display, ?_⟩, ?_⟩
  · by_cases cancel : isCancel last = true
    · simp [interceptByte, mode, cancel]
    · by_cases escape : last = 0x1B
      · subst escape
        simp [interceptByte, mode, cancel, stepCsi]
      · simp [cancel, escape]
  · by_cases cancel : isCancel last = true
    · have notEscape : last ≠ 0x1B := by
        rintro rfl
        exact absurd cancel (by decide)
      simp [interceptByte, mode, cancel, notEscape]
    · by_cases escape : last = 0x1B
      · subst escape
        simp [interceptByte, mode, cancel, stepCsi]
      · have final : 0x40 ≤ last ∧ last ≤ 0x7E := by simpa [inCsi, cancel, escape] using ends
        simp [interceptByte, mode, cancel, stepCsi, escape, final, finishCsi_idle]

theorem osc_opens {ctx : InterceptCtx} {noise : Bytes} (opened : Opened env ctx noise) :
    interceptByte env (interceptChunk env ctx noise).1 0x5D =
      ({ (interceptChunk env ctx noise).1 with parser := { mode := .osc } }, []) := by
  rw [interceptByte_escape env opened.1 (by decide)]
  rfl

theorem osc_reads {ctx : InterceptCtx} {noise payload : Bytes} {last : UInt8} (opened : Opened env ctx noise)
    (inside : ∀ b ∈ payload, inOsc b = true) (ends : inOsc last = false) :
    Reads env ctx (noise ++ 0x5D :: (payload ++ [last])) (.osc noise payload (some last)) (last == 0x1B) := by
  rw [Reads, interceptChunk_lead opened (osc_opens opened)]
  have start : OscRead { (interceptChunk env ctx noise).1 with parser := { mode := .osc } } [] :=
    ⟨rfl, .inl ⟨rfl, rfl⟩⟩
  obtain ⟨read, output⟩ := osc_payload env start inside
  rw [List.nil_append] at read
  generalize { (interceptChunk env ctx noise).1 with parser := { mode := .osc } } = mid at read output ⊢
  simp only [interceptChunk] at read output ⊢
  rw [Transducer.run_append, Transducer.run_singleton, output]
  generalize (Transducer.run (interceptByte env) mid payload).1 = ctx' at read ⊢
  have mode := read.1
  by_cases cancel : isCancel last = true
  · have notEscape : last ≠ 0x1B := by
      rintro rfl
      exact absurd cancel (by decide)
    simp [interceptByte, mode, cancel, notEscape, Lexeme.Emits]
  · by_cases escape : last = 0x1B
    · subst escape
      simp [interceptByte, mode, cancel, stepOsc, Lexeme.Emits, finishOsc_output read, finishOsc_idle]
    · have bell : last = 0x07 := by simpa [inOsc, cancel, escape] using ends
      subst bell
      simp [interceptByte, mode, cancel, stepOsc, Lexeme.Emits, finishOsc_output read, finishOsc_idle]

theorem string_opens {ctx : InterceptCtx} {noise : Bytes} {introducer : UInt8} (opened : Opened env ctx noise)
    (introduces : isIntroducer introducer = true) :
    interceptByte env (interceptChunk env ctx noise).1 introducer =
      ({ (interceptChunk env ctx noise).1 with parser := { mode := .string } }, []) := by
  simp only [isIntroducer, Bool.or_eq_true, beq_iff_eq] at introduces
  rw [interceptByte_escape env opened.1 (by rcases introduces with ((rfl | rfl) | rfl) | rfl <;> decide)]
  rcases introduces with ((rfl | rfl) | rfl) | rfl <;> rfl

/-- Reading a string command up to its terminator. -/
theorem string_reads {ctx : InterceptCtx} {noise body : Bytes} {introducer : UInt8} (opened : Opened env ctx noise)
    (introduces : isIntroducer introducer = true) :
    let source := noise ++ introducer :: ((splitString body).1 ++ (splitString body).2.1)
    (Lexeme.string noise introducer (splitString body).1 (splitString body).2.1).Emits
        (interceptChunk env ctx source).2 ∧
      ((splitString body).2.1 ≠ [] → (interceptChunk env ctx source).1.parser.mode = .ground) := by
  intro source
  obtain ⟨after, run, closed⟩ := string_command env
    { (interceptChunk env ctx noise).1 with parser := { mode := .string } } body rfl
  have whole := interceptChunk_lead opened (string_opens opened introduces)
    ((splitString body).1 ++ (splitString body).2.1)
  rw [run] at whole
  rw [whole]
  exact ⟨by simp [Lexeme.Emits], closed⟩

end Segments

/-! ## The whole stream -/

/-- One lexeme read, the rest of the stream read from where it left the machine. -/
theorem Reads.cons {env : InterceptEnv} {ctx : InterceptCtx} {lexeme : Lexeme} {rest : List Lexeme}
    {source input : Bytes} {escaped : Bool} (reads : Reads env ctx source lexeme escaped)
    (bounded : ctx.parser.Bounded)
    (tail : ∀ mid : InterceptCtx, mid.parser.mode = (if escaped then .escape else .ground) → mid.parser.Bounded →
      ∃ outs, List.Forall₂ Lexeme.Emits rest outs ∧ (interceptChunk env mid input).2 = outs.flatten) :
    ∃ outs, List.Forall₂ Lexeme.Emits (lexeme :: rest) outs ∧
      (interceptChunk env ctx (source ++ input)).2 = outs.flatten := by
  obtain ⟨emits, mode⟩ := reads
  obtain ⟨outs, emitsRest, output⟩ := tail _ mode (interceptChunk_bounded bounded source)
  refine ⟨(interceptChunk env ctx source).2 :: outs, .cons emits emitsRest, ?_⟩
  rw [interceptChunk_append, output, List.flatten_cons]

theorem mem_takeWhile {p : UInt8 → Bool} {input : Bytes} : ∀ b ∈ input.takeWhile p, p b = true :=
  fun b member => List.all_eq_true.mp List.all_takeWhile b member

theorem all_of_dropWhile {p : UInt8 → Bool} {input : Bytes} (ended : input.dropWhile p = []) :
    ∀ b ∈ input, p b = true :=
  fun b member => List.dropWhile_eq_nil_iff.mp ended b member

theorem head_of_dropWhile {p : UInt8 → Bool} {input tail : Bytes} {last : UInt8}
    (split : input.dropWhile p = last :: tail) : p last = false := by
  have head := List.head?_dropWhile_not p input
  rw [split] at head
  simpa using head

/-- The machine's output is, lexeme by lexeme, what the lexemes admit. -/
theorem interceptChunk_lexemes (env : InterceptEnv) (ctx : InterceptCtx) (escaped : Bool) (input : Bytes)
    (ready : ctx.parser.mode = if escaped then .escape else .ground) (bounded : ctx.parser.Bounded) :
    ∃ outs, List.Forall₂ Lexeme.Emits (lexemes escaped input) outs ∧
      (interceptChunk env ctx input).2 = outs.flatten := by
  fun_induction lexemes escaped input generalizing ctx with
  | case1 => exact ⟨[], .nil, rfl⟩
  | case2 escaped b rest plain ih =>
      simp only [Bool.and_eq_true, Bool.not_eq_true', bne_iff_ne] at plain
      obtain ⟨notEscaped, notEscape⟩ := plain
      subst notEscaped
      have ground : ctx.parser.mode = .ground := ready
      have single : interceptChunk env ctx [b] = (ctx, [b]) := by
        simp [interceptChunk, Transducer.run_singleton, interceptByte, ground, notEscape]
      have reads : Reads env ctx [b] (.plain b) false := by
        rw [Reads, single]
        exact ⟨rfl, ready⟩
      exact reads.cons bounded ih
  | case3 escaped b rest opens noise =>
      rename_i after
      have opened : Opened env ctx noise := opening_noise ready opens
      have whole : noise = b :: rest := by
        have spanned := span_source after
        rwa [List.append_nil] at spanned
      refine ⟨[executed noise], .cons rfl .nil, ?_⟩
      rw [← whole, List.flatten_singleton]
      exact opened.2
  | case4 escaped b rest opens noise lead body after _ cancel =>
      rename_i ih
      have opened : Opened env ctx noise := opening_noise ready opens
      have whole : (noise ++ [lead]) ++ body = b :: rest := by simpa using span_source after
      rw [← whole]
      exact (cancelled_reads opened cancel).cons bounded ih
  | case5 escaped b rest opens noise body tail after =>
      have opened : Opened env ctx noise := opening_noise ready opens
      have whole : noise ++ 0x5B :: body = b :: rest := span_source after
      obtain ⟨_, output⟩ := csi_params env
        { (interceptChunk env ctx noise).1 with parser := { mode := .csi } } rfl (.start .csi)
        (all_of_dropWhile tail)
      refine ⟨[executed noise ++ executed body], .cons rfl .nil, ?_⟩
      rw [← whole, interceptChunk_lead opened (csi_opens opened), output]
      simp
  | case6 escaped b rest opens noise body last further tail after _ _ _ =>
      rename_i ih
      have opened : Opened env ctx noise := opening_noise ready opens
      have whole : (noise ++ 0x5B :: (body.takeWhile inCsi ++ [last])) ++ further = b :: rest := by
        simpa [span_source tail] using span_source after
      rw [← whole]
      exact (csi_reads opened mem_takeWhile (head_of_dropWhile tail)).cons bounded ih
  | case7 escaped b rest opens noise body tail after =>
      have opened : Opened env ctx noise := opening_noise ready opens
      have whole : noise ++ 0x5D :: body = b :: rest := span_source after
      have start : OscRead { (interceptChunk env ctx noise).1 with parser := { mode := .osc } } [] :=
        ⟨rfl, .inl ⟨rfl, rfl⟩⟩
      obtain ⟨_, output⟩ := osc_payload env start (all_of_dropWhile tail)
      refine ⟨[executed noise], .cons rfl .nil, ?_⟩
      rw [← whole, interceptChunk_lead opened (osc_opens opened), output]
      simp
  | case8 escaped b rest opens noise body last further tail after _ _ _ _ =>
      rename_i ih
      have opened : Opened env ctx noise := opening_noise ready opens
      have whole : (noise ++ 0x5D :: (body.takeWhile inOsc ++ [last])) ++ further = b :: rest := by
        simpa [span_source tail] using span_source after
      rw [← whole]
      exact (osc_reads opened mem_takeWhile (head_of_dropWhile tail)).cons bounded ih
  | case9 escaped b rest opens noise lead body after _ _ _ _ introduces _ =>
      rename_i ih
      have opened : Opened env ctx noise := opening_noise ready opens
      have whole : (noise ++ lead :: ((splitString body).1 ++ (splitString body).2.1)) ++ (splitString body).2.2 =
          b :: rest := by
        simpa [splitString_source] using span_source after
      rw [← whole]
      obtain ⟨emits, closed⟩ := string_reads opened introduces
      by_cases unfinished : (splitString body).2.1 = []
      · rw [splitString_open body unfinished, List.append_nil]
        exact ⟨[_], .cons emits (by rw [lexemes]; exact .nil), by simp⟩
      · have reads : Reads env ctx _ _ false := ⟨emits, closed unfinished⟩
        exact reads.cons bounded ih
  | case10 escaped b rest opens noise lead body after _ notCancel notCsi notOsc notString dispatches =>
      rename_i ih
      have opened : Opened env ctx noise := opening_noise ready opens
      have whole : (noise ++ [lead]) ++ body = b :: rest := by simpa using span_source after
      rw [← whole]
      exact (escape_reads opened notCancel (head_of_dropWhile after) notCsi notOsc notString dispatches).cons
        bounded ih
  | case11 escaped b rest opens noise lead body after _ notCancel _ _ _ low =>
      rename_i tail
      have opened : Opened env ctx noise := opening_noise ready opens
      have whole : noise ++ lead :: body = b :: rest := span_source after
      obtain ⟨_, output⟩ := intermediate_middle env
        { (interceptChunk env ctx noise).1 with parser := { mode := .escapeIntermediate } } rfl
        (all_of_dropWhile tail)
      refine ⟨[executed noise ++ 0x1B :: lead :: body], .cons (by simp [Lexeme.Emits]) .nil, ?_⟩
      rw [← whole, interceptChunk_lead opened
        (intermediate_opens opened notCancel (head_of_dropWhile after) low), output]
      simp
  | case12 escaped b rest opens noise lead body after _ notCancel _ _ _ low last further tail _ =>
      rename_i ih
      have opened : Opened env ctx noise := opening_noise ready opens
      have whole : (noise ++ lead :: (body.takeWhile inIntermediate ++ [last])) ++ further = b :: rest := by
        simpa [span_source tail] using span_source after
      rw [← whole]
      exact (intermediate_reads opened notCancel (head_of_dropWhile after) low mem_takeWhile
        (head_of_dropWhile tail)).cons bounded ih

end Ezpn
