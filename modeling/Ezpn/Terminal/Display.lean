import Ezpn.Terminal.Control

/-!
# What reaches the display parser

The retained buffer is bounded and clean, and every step emits whole display
items: plain bytes, escape sequences, CSI sequences and complete titles.
-/

set_option autoImplicit false

namespace Ezpn

/-! ## Items -/

/-- A byte that may follow ESC on its way to the display parser: an intermediate
or a final byte, but no introducer of a CSI, OSC, DCS, SOS, PM or APC. -/
def IsDispatch (b : UInt8) : Prop :=
  0x20 ≤ b ∧ b ≤ 0x7E ∧ b ≠ 0x5B ∧ b ≠ 0x5D ∧ b ≠ 0x50 ∧ b ≠ 0x58 ∧ b ≠ 0x5E ∧ b ≠ 0x5F

inductive DisplayItem : Bytes → Prop where
  | plain {b : UInt8} (notEscape : b ≠ 0x1B) : DisplayItem [b]
  | escape {b : UInt8} (dispatch : IsDispatch b) : DisplayItem [0x1B, b]
  | csi {body : Bytes} {final : UInt8} (params : ∀ b ∈ body, 0x20 ≤ b ∧ b ≤ 0x3F)
      (dispatch : 0x40 ≤ final ∧ final ≤ 0x7E) : DisplayItem (0x1B :: 0x5B :: (body ++ [final]))
  | title {payload : Bytes} (title : isTitlePayload payload = true) (printable : ∀ b ∈ payload, 0x20 ≤ b) :
      DisplayItem (0x1B :: 0x5D :: (payload ++ [0x07]))

/-- A concatenation of whole items. -/
def DisplayOutput (output : Bytes) : Prop :=
  ∃ items : List Bytes, output = items.flatten ∧ ∀ item ∈ items, DisplayItem item

theorem DisplayOutput.nil : DisplayOutput [] := ⟨[], rfl, by simp⟩

theorem DisplayItem.output {item : Bytes} (valid : DisplayItem item) : DisplayOutput item :=
  ⟨[item], by simp, by simpa using valid⟩

theorem DisplayOutput.append {left right : Bytes} (first : DisplayOutput left) (second : DisplayOutput right) :
    DisplayOutput (left ++ right) := by
  obtain ⟨items, rfl, valid⟩ := first
  obtain ⟨items', rfl, valid'⟩ := second
  refine ⟨items ++ items', by simp, fun item member => ?_⟩
  rcases List.mem_append.mp member with member | member
  · exact valid item member
  · exact valid' item member

/-- What may follow an ESC byte of the output. -/
def FollowsEscape (rest : Bytes) : Prop :=
  (∃ b tail, rest = b :: tail ∧ IsDispatch b) ∨
    (∃ body final tail, rest = 0x5B :: (body ++ final :: tail) ∧
      (∀ b ∈ body, 0x20 ≤ b ∧ b ≤ 0x3F) ∧ 0x40 ≤ final ∧ final ≤ 0x7E) ∨
    (∃ payload tail, rest = 0x5D :: (payload ++ 0x07 :: tail) ∧
      isTitlePayload payload = true ∧ ∀ b ∈ payload, 0x20 ≤ b)

theorem DisplayItem.head_escape {item rest tail : Bytes} (valid : DisplayItem item)
    (shape : item = 0x1B :: rest) : FollowsEscape (rest ++ tail) := by
  cases valid with
  | plain notEscape =>
      cases shape
      exact absurd rfl notEscape
  | escape dispatch =>
      cases shape
      exact .inl ⟨_, _, rfl, dispatch⟩
  | csi params dispatch =>
      cases shape
      exact .inr (.inl ⟨_, _, tail, by simp, params, dispatch⟩)
  | title title printable =>
      cases shape
      exact .inr (.inr ⟨_, tail, by simp, title, printable⟩)

/-- ESC opens an item and occurs nowhere inside one. -/
theorem DisplayItem.escape_first {item front rest : Bytes} (valid : DisplayItem item)
    (shape : item = front ++ 0x1B :: rest) : front = [] := by
  cases front with
  | nil => rfl
  | cons head front =>
      have inside : (0x1B : UInt8) ∈ item.tail := by simp [shape]
      cases valid with
      | plain notEscape => simp at inside
      | escape dispatch =>
          simp only [List.tail_cons, List.mem_singleton] at inside
          obtain ⟨low, _⟩ := dispatch
          subst inside
          exact absurd low (by decide)
      | csi params dispatch =>
          simp only [List.tail_cons, List.mem_cons, List.mem_append, List.not_mem_nil, or_false] at inside
          rcases inside with same | member | same
          · exact absurd same (by decide)
          · exact absurd (params _ member).1 (by decide)
          · rw [← same] at dispatch
            exact absurd dispatch.1 (by decide)
      | title title printable =>
          simp only [List.tail_cons, List.mem_cons, List.mem_append, List.not_mem_nil, or_false] at inside
          rcases inside with same | member | same
          · exact absurd same (by decide)
          · exact absurd (printable _ member) (by decide)
          · exact absurd same (by decide)

/-- Every ESC of the output begins a dispatched escape, a complete CSI sequence or
a complete BEL-terminated title; in particular it never introduces a string. -/
theorem DisplayOutput.after_escape {output front rest : Bytes} (valid : DisplayOutput output)
    (shape : output = front ++ 0x1B :: rest) : FollowsEscape rest := by
  obtain ⟨items, rfl, valid⟩ := valid
  induction items generalizing front with
  | nil => simp at shape
  | cons item items ih =>
      have here := valid item List.mem_cons_self
      rw [List.flatten_cons] at shape
      rcases List.append_eq_append_iff.mp shape with ⟨skipped, rfl, later⟩ | ⟨inside, same, split⟩
      · exact ih (fun item member => valid item (List.mem_cons_of_mem _ member)) later
      · cases inside with
        | nil =>
            have later : items.flatten = [] ++ 0x1B :: rest := by simpa using split.symm
            exact ih (fun item member => valid item (List.mem_cons_of_mem _ member)) later
        | cons head inside =>
            obtain ⟨rfl, rfl⟩ := List.cons.inj split
            have first := here.escape_first same
            subst first
            exact here.head_escape same

/-! ## The retained buffer -/

structure ControlParser.Bounded (parser : ControlParser) : Prop where
  csi : parser.mode = .csi → parser.buffer.length ≤ 256 ∧ ∀ b ∈ parser.buffer, 0x20 ≤ b ∧ b ≤ 0x3F
  osc : parser.mode = .osc → parser.buffer.length ≤ oscPayloadMax ∧ ∀ b ∈ parser.buffer, 0x20 ≤ b
  idle : parser.mode ≠ .csi → parser.mode ≠ .osc → parser.buffer = []

theorem ControlParser.Bounded.start (mode : ControlMode) : ControlParser.Bounded { mode } :=
  ⟨fun _ => by simp, fun _ => by simp, fun _ _ => rfl⟩

theorem ControlParser.Bounded.length_le {parser : ControlParser} (bounded : parser.Bounded) :
    parser.buffer.length ≤ oscPayloadMax := by
  by_cases csi : parser.mode = .csi
  · have short := (bounded.csi csi).1
    have roomy : 256 ≤ oscPayloadMax := by decide
    omega
  · by_cases osc : parser.mode = .osc
    · exact (bounded.osc osc).1
    · simp [bounded.idle csi osc]

theorem finishOsc_idle (env : InterceptEnv) (ctx : InterceptCtx) (mode : ControlMode) :
    (finishOsc env ctx mode).1.parser = { mode } := by
  simp only [finishOsc]
  split <;> rfl

theorem finishCsi_idle (env : InterceptEnv) (ctx : InterceptCtx) (final : UInt8) :
    (finishCsi env ctx final).1.parser = {} := by
  simp only [finishCsi]
  split
  · rfl
  · split <;> rfl

theorem stepEscape_idle (ctx : InterceptCtx) (byte : UInt8) :
    ∃ mode, (stepEscape ctx byte).1.parser = { mode } := by
  simp only [stepEscape]
  repeat' split
  all_goals exact ⟨_, rfl⟩

theorem stepCsi_bounded {env : InterceptEnv} {ctx : InterceptCtx} {byte : UInt8}
    (csi : ctx.parser.mode = .csi) (bounded : ctx.parser.Bounded) :
    (stepCsi env ctx byte).1.parser.Bounded := by
  obtain ⟨short, params⟩ := bounded.csi csi
  simp only [stepCsi]
  split
  · exact ⟨by simp, by simp, by simp⟩
  · split
    · rw [finishCsi_idle]
      exact .start _
    · split
      · exact bounded
      · split
        · exact bounded
        · split
          · rename_i accepted
            simp only [Bool.and_eq_true, decide_eq_true_eq, Bool.not_eq_true'] at accepted
            obtain ⟨⟨⟨low, high⟩, _⟩, room⟩ := accepted
            refine ⟨fun _ => ⟨?_, ?_⟩, by simp [csi], by simp [csi]⟩
            · simp only [List.length_append, List.length_singleton]
              omega
            · intro b member
              rcases List.mem_append.mp member with old | new
              · exact params b old
              · rw [List.mem_singleton.mp new]
                exact ⟨low, high⟩
          · exact ⟨bounded.csi, bounded.osc, bounded.idle⟩

theorem stepOsc_bounded {env : InterceptEnv} {ctx : InterceptCtx} {byte : UInt8}
    (osc : ctx.parser.mode = .osc) (bounded : ctx.parser.Bounded) :
    (stepOsc env ctx byte).1.parser.Bounded := by
  obtain ⟨short, printable⟩ := bounded.osc osc
  simp only [stepOsc]
  split
  · rw [finishOsc_idle]
    exact .start _
  · split
    · rw [finishOsc_idle]
      exact .start _
    · split
      · exact bounded
      · rename_i notControl
        split
        · rename_i accepted
          simp only [Bool.and_eq_true, decide_eq_true_eq, Bool.not_eq_true'] at accepted
          refine ⟨by simp [osc], fun _ => ⟨?_, ?_⟩, by simp [osc]⟩
          · simp only [List.length_append, List.length_singleton]
            omega
          · intro b member
            rcases List.mem_append.mp member with old | new
            · exact printable b old
            · rw [List.mem_singleton.mp new]
              grind
        · exact ⟨by simp [osc], fun _ => by simp, by simp [osc]⟩

theorem interceptByte_bounded {env : InterceptEnv} {ctx : InterceptCtx} {byte : UInt8}
    (bounded : ctx.parser.Bounded) : (interceptByte env ctx byte).1.parser.Bounded := by
  simp only [interceptByte]
  split
  · exact .start _
  · cases mode : ctx.parser.mode with
    | ground =>
        have empty : ctx.parser.buffer = [] := bounded.idle (by simp [mode]) (by simp [mode])
        simp only
        split
        · exact ⟨by simp, by simp, fun _ _ => empty⟩
        · exact bounded
    | escape =>
        obtain ⟨next, parser⟩ := stepEscape_idle ctx byte
        rw [parser]
        exact .start next
    | escapeIntermediate =>
        have empty : ctx.parser.buffer = [] := bounded.idle (by simp [mode]) (by simp [mode])
        simp only [stepIntermediate]
        split
        · exact ⟨by simp, by simp, fun _ _ => empty⟩
        · split
          · exact ⟨by simp, by simp, fun _ _ => empty⟩
          · exact bounded
    | csi => exact stepCsi_bounded mode bounded
    | osc => exact stepOsc_bounded mode bounded
    | string =>
        have empty : ctx.parser.buffer = [] := bounded.idle (by simp [mode]) (by simp [mode])
        simp only [stepString]
        split
        · exact ⟨by simp, by simp, fun _ _ => empty⟩
        · split
          · exact ⟨by simp, by simp, fun _ _ => empty⟩
          · exact bounded
    | stringEscape =>
        have empty : ctx.parser.buffer = [] := bounded.idle (by simp [mode]) (by simp [mode])
        simp only [stepStringEscape]
        split <;> exact ⟨by simp, by simp, fun _ _ => empty⟩

/-! ## Emission -/

theorem DisplayOutput.byte {b : UInt8} (notEscape : b ≠ 0x1B) : DisplayOutput [b] :=
  (DisplayItem.plain notEscape).output

theorem applyDecParams_display {now : Nat} {final : UInt8} (changes : final = 0x68 ∨ final = 0x6C)
    {params : List Bytes} (digits : ∀ param ∈ params, ∀ b ∈ param, isAsciiDigit b = true)
    (state : PaneTerminalState) : DisplayOutput (applyDecParams now final params state).2 := by
  have dispatch : 0x40 ≤ final ∧ final ≤ 0x7E := by rcases changes with rfl | rfl <;> decide
  induction params generalizing state with
  | nil => exact .nil
  | cons param rest ih =>
      simp only [applyDecParams]
      have tail (next : PaneTerminalState) := ih (fun p member => digits p (List.mem_cons_of_mem _ member)) next
      have shownParams : ∀ b ∈ 0x3F :: (if parseU32 param = some 1047 then ascii "47" else param),
          0x20 ≤ b ∧ b ≤ 0x3F := by
        intro b member
        rcases List.mem_cons.mp member with rfl | member
        · decide
        · split at member
          · rcases (by simpa [ascii] using member : b = 52 ∨ b = 55) with rfl | rfl <;> decide
          · have digit := digits param List.mem_cons_self b member
            simp only [isAsciiDigit, Bool.and_eq_true, decide_eq_true_eq] at digit
            grind
      have shown := (DisplayItem.csi shownParams dispatch).output
      have erase : DisplayOutput (ascii "\x1b[2J") :=
        (DisplayItem.csi (fun b (member : b ∈ [0x32]) => by rw [List.mem_singleton.mp member]; decide)
          (by decide)).output
      have front := shown.append
        (tail ((parseU32 param).elim state fun num => applyDecset now state num (final == 0x68)))
      split
      · simpa [List.append_assoc, ascii] using erase.append front
      · simpa [List.append_assoc, ascii] using front

theorem interceptDecModes_display {now : Nat} {state state' : PaneTerminalState} {body output : Bytes}
    {final : UInt8} (owned : interceptDecModes now state body final = some (state', output)) :
    DisplayOutput output := by
  simp only [interceptDecModes] at owned
  split at owned
  · cases owned
  · rename_i params _
    split at owned
    · cases owned
    · rename_i accepted
      simp only [Bool.or_eq_true, Bool.not_eq_true', not_or, Bool.not_eq_false] at accepted
      obtain ⟨changes, allowed⟩ := accepted
      have result := Option.some.inj owned
      have digits : ∀ param ∈ params.splitOn 0x3B, ∀ b ∈ param, isAsciiDigit b = true := by
        intro param piece b member
        have inParams := Text.mem_of_mem_splitOn piece member
        have shape := List.all_eq_true.mp allowed b inParams
        have notSeparator : b ≠ 0x3B := Text.ne_of_mem_splitOn piece member
        simpa [notSeparator] using shape
      have display : DisplayOutput (applyDecParams now final (params.splitOn 0x3B) state).2 :=
        applyDecParams_display (by simpa using changes) digits state
      rw [result] at display
      exact display

theorem finishCsi_display {env : InterceptEnv} {ctx : InterceptCtx} {final : UInt8}
    (params : ∀ b ∈ ctx.parser.buffer, 0x20 ≤ b ∧ b ≤ 0x3F) (dispatch : 0x40 ≤ final ∧ final ≤ 0x7E) :
    DisplayOutput (finishCsi env ctx final).2 := by
  simp only [finishCsi]
  split
  · exact .nil
  · split
    · rename_i owned
      exact interceptDecModes_display owned
    · simpa [ascii] using (DisplayItem.csi params dispatch).output

theorem finishOsc_display {env : InterceptEnv} {ctx : InterceptCtx} {mode : ControlMode}
    (printable : ∀ b ∈ ctx.parser.buffer, 0x20 ≤ b) : DisplayOutput (finishOsc env ctx mode).2 := by
  simp only [finishOsc]
  split
  · exact .nil
  · split
    · rename_i title
      simpa [ascii] using (DisplayItem.title title printable).output
    · exact .nil

theorem stepEscape_display (ctx : InterceptCtx) (byte : UInt8) : DisplayOutput (stepEscape ctx byte).2 := by
  simp only [stepEscape]
  split
  · exact .nil
  split
  · exact .nil
  split
  · exact .nil
  split
  · exact .nil
  rename_i notCsi notOsc notString notEscape
  simp only [Bool.or_eq_true, decide_eq_true_eq, not_or] at notString
  obtain ⟨⟨⟨notDcs, notSos⟩, notPm⟩, notApc⟩ := notString
  split
  · rename_i intermediate
    simp only [Bool.and_eq_true, decide_eq_true_eq] at intermediate
    exact (DisplayItem.escape ⟨intermediate.1, by grind, notCsi, notOsc, notDcs, notSos, notPm, notApc⟩).output
  split
  · exact .byte notEscape
  split
  · rename_i final
    simp only [Bool.and_eq_true, decide_eq_true_eq] at final
    exact (DisplayItem.escape ⟨by grind, final.2, notCsi, notOsc, notDcs, notSos, notPm, notApc⟩).output
  · exact .nil

theorem interceptByte_display {env : InterceptEnv} {ctx : InterceptCtx} {byte : UInt8}
    (bounded : ctx.parser.Bounded) : DisplayOutput (interceptByte env ctx byte).2 := by
  simp only [interceptByte]
  split
  · rename_i cancelled
    simp only [isCancel, Bool.and_eq_true, Bool.or_eq_true, beq_iff_eq] at cancelled
    refine .byte ?_
    rcases cancelled.1 with rfl | rfl <;> decide
  · cases mode : ctx.parser.mode with
    | ground =>
        simp only
        split
        · exact .nil
        · rename_i notEscape
          exact .byte notEscape
    | escape => exact stepEscape_display ctx byte
    | escapeIntermediate =>
        simp only [stepIntermediate]
        split
        · exact .byte (by decide)
        · rename_i notEscape
          split <;> exact .byte notEscape
    | csi =>
        simp only [stepCsi]
        split
        · exact .nil
        · rename_i notEscape
          split
          · rename_i final
            simp only [Bool.and_eq_true, decide_eq_true_eq] at final
            exact finishCsi_display (bounded.csi mode).2 final
          · split
            · exact .byte notEscape
            · split
              · exact .nil
              · split <;> exact .nil
    | osc =>
        have printable := (bounded.osc mode).2
        simp only [stepOsc]
        split
        · exact finishOsc_display printable
        · split
          · exact finishOsc_display printable
          · split
            · exact .nil
            · split <;> exact .nil
    | string => exact .nil
    | stringEscape => exact .nil

/-- Whatever the child sends, the display parser receives whole items. -/
theorem interceptChunk_display {env : InterceptEnv} {ctx : InterceptCtx} (bounded : ctx.parser.Bounded)
    (chunk : Bytes) : DisplayOutput (interceptChunk env ctx chunk).2 :=
  Transducer.run_emits (fun ctx : InterceptCtx => ctx.parser.Bounded) (fun _ _ => interceptByte_bounded) .nil
    (fun _ _ => DisplayOutput.append) (fun _ _ => interceptByte_display) bounded chunk

theorem interceptChunk_bounded {env : InterceptEnv} {ctx : InterceptCtx} (bounded : ctx.parser.Bounded)
    (chunk : Bytes) : (interceptChunk env ctx chunk).1.parser.Bounded :=
  Transducer.run_invariant (fun ctx : InterceptCtx => ctx.parser.Bounded) (fun _ _ => interceptByte_bounded) bounded chunk

end Ezpn
