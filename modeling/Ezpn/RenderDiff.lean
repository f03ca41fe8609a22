import Ezpn.Terminal.Control

/-!
# Incremental frames

The differ replays supported frames on a shadow terminal and sends what changed
on it. Clients of the differ are compared with clients of the raw frames. The
terminals are a parameter: what they are assumed to do is in `LawfulReplay`.
-/

set_option autoImplicit false

namespace Ezpn

/-- The state of a terminal: the parser's screen, and what a client shows. -/
class TerminalState (T : Type) where
  /-- `(rows, cols)` -/
  size : T → Nat × Nat
  /-- `current.state_diff(previous)` -/
  stateDiff : (current previous : T) → Bytes
  /-- what a client's terminal makes of its input -/
  feed : T → Bytes → T
  /-- the window of a client gets another size -/
  resize : T → (rows cols : Nat) → T

/-- The parser of the shadow terminal. -/
class Replay (P : Type) (T : outParam Type) where
  /-- `Parser::new(rows, cols, 0)` -/
  new : (rows cols : Nat) → P
  process : P → Bytes → P
  screen : P → T

/-- `size_of::<vt100::Cell>()` and the tables of `unicode_width`. -/
structure CellTables where
  cellSize : Nat
  charWidth : Char → Option Nat
  strWidth : List Char → Nat

def maxModelBytes : Nat := 1024 * 1024

def syncBegin : Bytes := "\x1b[?2026h".toUTF8.data.toList

def syncEnd : Bytes := "\x1b[?2026l".toUTF8.data.toList

/-! ## The vocabulary of frames -/

section Supported
variable (tables : CellTables)

/-- Colour parameters after a `38` or `48`: as many `u8` values as the form asks for. -/
def dropColour : (count : Nat) → List (List Char) → Option (List (List Char))
  | 0, parts => some parts
  | _ + 1, [] => none
  | count + 1, part :: parts => (Text.parseUnsigned 255 part).bind fun _ => dropColour count parts

def isPlainSgr (code : Nat) : Bool :=
  [0, 1, 3, 4, 7, 22, 23, 24, 27, 39, 49].contains code || (30 ≤ code && code ≤ 37) || (40 ≤ code && code ≤ 47) ||
    (90 ≤ code && code ≤ 97) || (100 ≤ code && code ≤ 107)

/-- Every part takes a step, so the number of parts is enough fuel. -/
def supportedParts : (fuel : Nat) → List (List Char) → Bool
  | _, [] => true
  | 0, _ => true
  | fuel + 1, part :: parts =>
      match Text.parseUnsigned 65535 (if part.isEmpty then ['0'] else part) with
      | none => false
      | some code =>
          if isPlainSgr code then supportedParts fuel parts
          else if code = 38 || code = 48 then
            let colour := match parts with
              | ['5'] :: parts => dropColour 1 parts
              | ['2'] :: parts => dropColour 3 parts
              | _ => none
            match colour with
            | some parts => supportedParts fuel parts
            | none => false
          else false

def supportedSgr (params : List Char) : Bool :=
  let parts := params.splitOn ';'
  supportedParts parts.length parts

def supportedCsi (params : List Char) (command : Char) : Bool :=
  match command with
  | 'H' | 'f' | 'J' | 'K' => params.all fun c => c.isDigit || c = ';'
  | 'h' | 'l' => params = "?25".toList || params = "?2026".toList
  | 'm' => supportedSgr params
  | _ => false

/-- Zero-width characters only on a cell that has room for them. -/
def supportedMarks : (cellBytes : Nat) → List Char → Bool
  | _, [] => true
  | cellBytes, c :: run =>
      if tables.charWidth c = some 0 then
        if cellBytes = 0 || cellBytes ≥ 18 then false else supportedMarks (cellBytes + c.utf8Size) run
      else supportedMarks c.utf8Size run

def supportedRun (run : List Char) : Bool :=
  supportedMarks tables 0 run && tables.strWidth run = (run.map fun c => (tables.charWidth c).getD 0).sum

def isParam (c : Char) : Bool := 0x20 ≤ c.toNat && c.toNat ≤ 0x3f

def isPrinted (c : Char) : Bool := 0x20 ≤ c.toNat && c.toNat ≠ 0x7f

/-- The scan of a frame; every step takes a character, so the length is enough fuel. -/
def supportedText : (fuel : Nat) → List Char → Bool
  | _, [] => true
  | 0, _ => true
  | fuel + 1, c :: text =>
      if c = '\x1b' then
        match text with
        | '[' :: text =>
            match text.dropWhile isParam with
            | [] => false
            | command :: rest => supportedCsi (text.takeWhile isParam) command && supportedText fuel rest
        | _ => false
      else if !isPrinted c then false
      else
        supportedRun tables ((c :: text).takeWhile isPrinted) && supportedText fuel (text.dropWhile isPrinted)

def supportedFrame (frame : Bytes) : Bool :=
  match Text.fromUtf8 frame with
  | none => false
  | some text =>
      (text.toList.all fun c => !Text.isControl c || c = '\x1b') && supportedText tables text.toList.length text.toList

end Supported

/-! ## The differ -/

structure AnsiFrameDiffer (P : Type) where
  parser : Option P := none

/-- A composed frame, with the size and the flag it comes with. -/
structure ComposedFrame where
  bytes : Bytes
  cols : Nat
  rows : Nat
  fullRedraw : Bool

section Encode
variable {P T : Type} [TerminalState T] [Replay P T] (tables : CellTables)

open TerminalState Replay

/-- Whether the frame is replayed at all. -/
def ComposedFrame.modelled (frame : ComposedFrame) : Bool :=
  let estimate := frame.rows * frame.cols * tables.cellSize * 2 + frame.rows * 128
  !(frame.cols = 0 || frame.rows = 0 || estimate > maxModelBytes || !supportedFrame tables frame.bytes)

/-- What is sent for a frame that is not drawn in full. -/
def sparse (parser : P) (frame : Bytes) : Bytes :=
  let delta := stateDiff (screen (process parser frame)) (screen parser)
  if delta.isEmpty then []
  else if delta.length + syncBegin.length + syncEnd.length ≥ frame.length then frame
  else syncBegin ++ delta ++ syncEnd

def AnsiFrameDiffer.encode (frame : ComposedFrame) (differ : AnsiFrameDiffer P) : AnsiFrameDiffer P × Bytes :=
  if !frame.modelled tables then ({ parser := none }, frame.bytes)
  else if frame.fullRedraw then
    ({ parser := some (process (new frame.rows frame.cols) frame.bytes) }, frame.bytes)
  else match differ.parser.filter fun parser => size (screen parser) = (frame.rows, frame.cols) with
    | none => ({ parser := none }, frame.bytes)
    | some parser => ({ parser := some (process parser frame.bytes) }, sparse parser frame.bytes)

/-! ## Two clients -/

/-- A shadow terminal that replayed supported frames since it was made. -/
inductive Shadow : P → Prop where
  | new {rows cols : Nat} (someRows : 0 < rows) (someCols : 0 < cols) : Shadow (new rows cols)
  | process {parser : P} (earlier : Shadow parser) {frame : Bytes} (supported : supportedFrame tables frame = true) :
      Shadow (process parser frame)

/-- What is assumed of the parser and of the clients' terminals. -/
structure LawfulReplay (P : Type) {T : Type} [TerminalState T] [Replay P T] (tables : CellTables) : Prop where
  size_new : ∀ rows cols, 0 < rows → 0 < cols → size (screen (new rows cols : P)) = (rows, cols)
  /-- a shadow terminal shows what the frames show in a client's -/
  screen_process : ∀ (parser : P) (frame : Bytes), Shadow tables parser → supportedFrame tables frame = true →
    screen (process parser frame) = feed (screen parser) frame
  /-- a difference turns the earlier state into the later one -/
  diff : ∀ (parser : P) (frame : Bytes), Shadow tables parser → supportedFrame tables frame = true →
    feed (screen parser) (stateDiff (screen (process parser frame)) (screen parser)) = screen (process parser frame)
  /-- which the brackets of a synchronized update do not change -/
  synchronized : ∀ (parser : P) (frame : Bytes), Shadow tables parser → supportedFrame tables frame = true →
    let delta := stateDiff (screen (process parser frame)) (screen parser)
    feed (screen parser) (syncBegin ++ delta ++ syncEnd) = feed (screen parser) delta
  feed_nil : ∀ state : T, feed state [] = state
  size_resize : ∀ (state : T) (rows cols : Nat), size (resize state rows cols) = (rows, cols)
  resize_same : ∀ state : T, resize state (size state).1 (size state).2 = state

/-- A full redraw leaves nothing of what a terminal of that size showed. -/
def ComposedFrame.Determines (T : Type) [TerminalState T] (frame : ComposedFrame) : Prop :=
  ∀ before other : T, size before = (frame.rows, frame.cols) → size other = (frame.rows, frame.cols) →
    feed before frame.bytes = feed other frame.bytes

/-- A client of the raw frames beside one of the differ. -/
structure Clients (P T : Type) where
  raw : T
  encoded : T
  differ : AnsiFrameDiffer P := {}

/-- Both windows get the size of the frame before it comes. -/
def Clients.receive (frame : ComposedFrame) (clients : Clients P T) : Clients P T :=
  let (differ, bytes) := clients.differ.encode tables frame
  { raw := feed (resize clients.raw frame.rows frame.cols) frame.bytes
    encoded := feed (resize clients.encoded frame.rows frame.cols) bytes
    differ }

/-- Both clients show the same, and so does the shadow terminal if there is one. -/
structure Clients.InStep (clients : Clients P T) : Prop where
  same : clients.encoded = clients.raw
  shadow : ∀ parser, clients.differ.parser = some parser → Shadow tables parser ∧ screen parser = clients.raw

variable {tables}

theorem ComposedFrame.modelled_supported {frame : ComposedFrame} (modelled : frame.modelled tables = true) :
    0 < frame.rows ∧ 0 < frame.cols ∧ supportedFrame tables frame.bytes = true := by
  simp only [ComposedFrame.modelled, Bool.not_eq_true', Bool.or_eq_false_iff, decide_eq_false_iff_not,
    Bool.not_eq_false'] at modelled
  exact ⟨by omega, by omega, modelled.2⟩

/-- In the state of the shadow terminal, the sparse update does what the frame does. -/
theorem feed_sparse (lawful : LawfulReplay P tables) {parser : P} (shadow : Shadow tables parser) {frame : Bytes}
    (supported : supportedFrame tables frame = true) :
    feed (screen parser) (sparse parser frame) = feed (screen parser) frame := by
  have replayed := lawful.screen_process parser frame shadow supported
  have changed := lawful.diff parser frame shadow supported
  simp only [sparse]
  split
  · rename_i unchanged
    rw [List.isEmpty_iff.mp unchanged] at changed
    rw [changed, replayed]
  · split
    · rfl
    · rw [lawful.synchronized parser frame shadow supported, changed, replayed]

namespace Clients
variable {clients : Clients P T} {frame : ComposedFrame}

theorem receive_inStep (lawful : LawfulReplay P tables) (inStep : clients.InStep tables)
    (full : frame.fullRedraw = true → frame.Determines T) : (clients.receive tables frame).InStep tables := by
  simp only [receive, AnsiFrameDiffer.encode, Bool.not_eq_true']
  split
  · -- the frame passes through, and the shadow terminal is given up
    exact ⟨by rw [inStep.same], nofun⟩
  rename_i modelled
  obtain ⟨someRows, someCols, supported⟩ := ComposedFrame.modelled_supported (by simpa using modelled)
  split
  · rename_i redraw
    refine ⟨by rw [inStep.same], ?_⟩
    rintro _ ⟨⟩
    have started : Shadow tables (new frame.rows frame.cols : P) := .new someRows someCols
    refine ⟨started.process supported, ?_⟩
    rw [lawful.screen_process _ _ started supported]
    exact full redraw _ _ (lawful.size_new _ _ someRows someCols) (lawful.size_resize ..)
  · split
    · exact ⟨by rw [inStep.same], nofun⟩
    · rename_i parser kept
      obtain ⟨known, fits⟩ := Option.filter_eq_some_iff.mp kept
      obtain ⟨shadow, shown⟩ := inStep.shadow parser known
      -- the window has the size of the shadow terminal already
      have steady : resize clients.raw frame.rows frame.cols = screen parser := by
        have sized := lawful.resize_same clients.raw
        rw [← shown, of_decide_eq_true fits] at sized
        rw [← shown, sized]
      refine ⟨by rw [inStep.same, steady, feed_sparse lawful shadow supported], ?_⟩
      rintro _ ⟨⟩
      exact ⟨shadow.process supported, by rw [lawful.screen_process _ _ shadow supported, steady]⟩

theorem receive_all_inStep (lawful : LawfulReplay P tables) (inStep : clients.InStep tables)
    {frames : List ComposedFrame} (full : ∀ frame ∈ frames, frame.fullRedraw = true → frame.Determines T) :
    (frames.foldl (fun clients frame => clients.receive tables frame) clients).InStep tables := by
  induction frames generalizing clients with
  | nil => exact inStep
  | cons frame frames ih =>
      have first := receive_inStep lawful inStep (full frame List.mem_cons_self)
      exact ih first fun later member => full later (List.mem_cons_of_mem _ member)

/-- After every frame, the differ's client shows what the client of the raw frames shows. -/
theorem differ_transparent (tables : CellTables) (lawful : LawfulReplay P tables) (start : T)
    (frames : List ComposedFrame) (full : ∀ frame ∈ frames, frame.fullRedraw = true → frame.Determines T) :
    ∀ seen, seen <+: frames →
      let clients := seen.foldl (fun clients frame => clients.receive tables frame)
        ({ raw := start, encoded := start } : Clients P T)
      clients.encoded = clients.raw := by
  intro seen front
  have initial : Clients.InStep tables ({ raw := start, encoded := start } : Clients P T) := ⟨rfl, nofun⟩
  exact (receive_all_inStep lawful initial fun frame member => full frame (front.subset member)).same

end Clients

end Encode

/-! ## A screen of one cell -/

/-- A terminal whose screen tells two letters apart. -/
structure OneCell where
  rows : Nat
  cols : Nat
  lit : Bool

namespace OneCell

def letter (lit : Bool) : UInt8 := if lit then 0x62 else 0x61

def print (lit : Bool) (b : UInt8) : Bool := if b = 0x61 then false else if b = 0x62 then true else lit

instance : TerminalState OneCell where
  size cell := (cell.rows, cell.cols)
  stateDiff current previous := if current.lit = previous.lit then [] else [letter current.lit]
  feed cell bytes := { cell with lit := bytes.foldl print cell.lit }
  resize cell rows cols := { cell with rows, cols }

instance : Replay OneCell OneCell where
  new rows cols := { rows, cols, lit := false }
  process := TerminalState.feed
  screen := id

theorem foldl_diff (current previous : Bool) :
    (if current = previous then [] else [letter current]).foldl print previous = current := by
  revert current previous
  decide

theorem lawful (tables : CellTables) : LawfulReplay OneCell tables where
  size_new _ _ _ _ := rfl
  screen_process _ _ _ _ := rfl
  diff cell frame _ _ := by
    exact congrArg (fun lit => ({ cell with lit } : OneCell)) (foldl_diff (frame.foldl print cell.lit) cell.lit)
  synchronized cell frame _ _ := by
    have quiet (lit : Bool) : syncBegin.foldl print lit = lit ∧ syncEnd.foldl print lit = lit := by
      revert lit
      decide
    intro delta
    refine congrArg (fun lit => ({ cell with lit } : OneCell)) ?_
    rw [List.foldl_append, List.foldl_append, (quiet _).1, (quiet _).2]
  feed_nil _ := rfl
  size_resize _ _ _ := rfl
  resize_same _ := rfl

end OneCell

def asciiTables : CellTables := { cellSize := 32, charWidth := fun _ => some 1, strWidth := List.length }

/-- Three frames: a full redraw, one without a change, and one that changes the cell. -/
def letterFrames : List ComposedFrame :=
  let frame (letter : String) (fullRedraw : Bool) : ComposedFrame :=
    { bytes := s!"\x1b[?2026h\x1b[0m\x1b[1;1H{letter}\x1b[?25l\x1b[?2026l".toUTF8.data.toList, cols := 1, rows := 1, fullRedraw }
  [frame "a" true, frame "a" false, frame "b" false]

/-- Two clients that saw all of them, on screens that were lit before. -/
def letterClients : Clients OneCell OneCell :=
  letterFrames.foldl (fun clients frame => clients.receive asciiTables frame)
    { raw := { rows := 24, cols := 80, lit := true }, encoded := { rows := 24, cols := 80, lit := true } }

theorem letterFrames_transparent : letterClients.encoded = letterClients.raw := by
  refine Clients.differ_transparent asciiTables (OneCell.lawful _) _ letterFrames (fun frame member redraw => ?_)
    letterFrames List.prefix_rfl
  intro before other sized sizedOther
  have letters : ∀ frame ∈ letterFrames, ∀ lit, frame.bytes.foldl OneCell.print lit = frame.bytes.foldl OneCell.print false := by
    decide +kernel
  have sameSize : (before.rows, before.cols) = (other.rows, other.cols) := Eq.trans sized sizedOther.symm
  obtain ⟨rows, cols⟩ := Prod.mk.inj sameSize
  simp only [TerminalState.feed, letters frame member before.lit, letters frame member other.lit, rows, cols]

end Ezpn
