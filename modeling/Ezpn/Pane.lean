import Ezpn.Layout.Geometry
import Ezpn.Terminal.Control

/-!
# Panes

A pane is a child process on a PTY with the terminal state built from its output.
The display parser is a parameter: any type with the `vt100` operations used here.
What the operating system answers is in `World`.
-/

set_option autoImplicit false

namespace Ezpn

/-- The display parser: the `vt100` module with the parser crate under it. -/
class Vt100 (G : Type) where
  /-- `Parser::new` -/
  new : (rows cols scrollback : Nat) → G
  /-- `(rows, cols)` -/
  size : G → Nat × Nat
  setSize : (rows cols : Nat) → G → G
  process : Bytes → G → G
  /-- View the rows that many above the live screen, clamped to the history. -/
  setScrollback : Nat → G → G
  scrollback : G → Nat
  /-- `screen.rows(0, cols)`: the text of each row in view -/
  rows : G → List String
  applicationCursor : G → Bool
  cursorPosition : G → Nat × Nat
  /-- `unicode_width`, for replayed history -/
  charWidth : Char → Nat

/-- What holds of the display parser's size. -/
class LawfulVt100 (G : Type) [Vt100 G] : Prop where
  size_new : ∀ rows cols scrollback, Vt100.size (Vt100.new rows cols scrollback : G) = (rows, cols)
  size_setSize : ∀ rows cols (grid : G), Vt100.size (Vt100.setSize rows cols grid) = (rows, cols)
  size_process : ∀ bytes (grid : G), Vt100.size (Vt100.process bytes grid) = Vt100.size grid
  size_setScrollback : ∀ offset (grid : G), Vt100.size (Vt100.setScrollback offset grid) = Vt100.size grid

/-- A display that keeps its input unread: what the parser is before any output. -/
structure RawDisplay where
  height : Nat
  width : Nat
  input : Bytes := []
  deriving DecidableEq, Repr

instance : Vt100 RawDisplay where
  new rows cols _ := { height := rows, width := cols }
  size display := (display.height, display.width)
  setSize rows cols display := { display with height := rows, width := cols }
  process bytes display := { display with input := display.input ++ bytes }
  setScrollback _ display := display
  scrollback _ := 0
  rows display := List.replicate display.height ""
  applicationCursor _ := false
  cursorPosition _ := (0, 0)
  charWidth _ := 1

instance : LawfulVt100 RawDisplay where
  size_new _ _ _ := rfl
  size_setSize _ _ _ := rfl
  size_process _ _ := rfl
  size_setScrollback _ _ := rfl

/-- What the program asks of its surroundings during one step. -/
structure World where
  now : Nat := 0
  hostname : Option Bytes := none
  /-- `readlink /proc/<pid>/cwd` of a process -/
  procCwd : Nat → Option String := fun _ => none
  /-- why the n-th spawn, of that program, fails; `none` when it succeeds -/
  spawnError : Nat → String → Option String := fun _ _ => none
  /-- whether resizing the PTY of a process fails -/
  resizeFails : Nat → Bool := fun _ => false
  /-- exit status that `kill` reaps -/
  killStatus : Nat → Option Nat := fun _ => none

abbrev EnvMap : Type := Std.ExtTreeMap String String compare

inductive PaneLaunch where
  | shell
  | command (command : String)
  deriving DecidableEq, Repr

structure Pane (G : Type) where
  /-- the spawn that made this process; the code does not keep it -/
  process : Nat
  parser : G
  /-- bytes handed to the PTY writer, in order -/
  written : Bytes := []
  readerEof : Bool := false
  alive : Bool := true
  launch : PaneLaunch
  scrollOffset : Nat := 0
  name : Option String := none
  snapshotSensitive : Bool := false
  persistScrollbackOverride : Option Bool := none
  scrollbackLines : Nat
  parserHasOutput : Bool := false
  exitCode : Option Nat := none
  osc52Pending : List Envelope := []
  state : PaneTerminalState := {}
  controlParser : ControlParser := {}
  initialCwd : Option String
  initialEnv : EnvMap
  initialShell : Option String := none
  clipboardPolicy : ClipboardPolicy := {}
  scrollbackByteBudget : Nat

/-- 32 MiB. -/
def defaultScrollbackBytes : Nat := 32 * 1024 * 1024

/-- `size_of::<vt100::Cell>()`. -/
def vt100CellBytes : Nat := 32

def budgetedScrollbackLines (requested cols budget : Nat) : Nat :=
  if budget = 0 then requested else min requested (budget / max ((cols * vt100CellBytes + 64) * 2) 1)

namespace Pane
variable {G : Type} [Vt100 G]

/-! ## Life cycle -/

/-- The n-th spawn. -/
def spawnInner (world : World) (attempt : Nat) (shell : String) (launch : PaneLaunch)
    (cols rows scrollback : Nat) (cwd : Option String) (env : EnvMap) : Except String (Pane G) :=
  if cols = 0 || rows = 0 then .error "PTY dimensions must be nonzero"
  else match world.spawnError attempt shell with
    | some error => .error error
    | none => .ok
        { process := attempt
          parser := Vt100.new rows cols (budgetedScrollbackLines scrollback cols defaultScrollbackBytes)
          launch
          scrollbackLines := scrollback
          initialCwd := cwd
          initialEnv := env
          scrollbackByteBudget := defaultScrollbackBytes }

def setScrollbackBudget (pane : Pane G) (byteBudget : Nat) : Pane G :=
  let pane := { pane with scrollbackByteBudget := byteBudget }
  if pane.parserHasOutput then pane
  else
    let (rows, cols) := Vt100.size pane.parser
    { pane with parser := Vt100.new rows cols (budgetedScrollbackLines pane.scrollbackLines cols byteBudget) }

def setClipboardPolicy (pane : Pane G) (policy : ClipboardPolicy) : Pane G :=
  { pane with clipboardPolicy := policy }

omit [Vt100 G] in
def kill (world : World) (pane : Pane G) : Pane G :=
  { pane with
    exitCode := pane.exitCode.or (world.killStatus pane.process)
    alive := false
    state.syncOpenedAt := none }

def resize (world : World) (cols rows : Nat) (pane : Pane G) : Pane G :=
  if cols = 0 || rows = 0 then pane
  else if Vt100.size pane.parser = (rows, cols) then pane
  else if world.resizeFails pane.process then pane
  else { pane with parser := Vt100.setSize rows cols pane.parser }

/-! ## Input -/

omit [Vt100 G] in
def writeBytes (bytes : Bytes) (pane : Pane G) : Pane G := { pane with written := pane.written ++ bytes }

/-! ## Output -/

omit [Vt100 G] in
def interceptEnv (world : World) (pane : Pane G) : InterceptEnv :=
  { policy := pane.clipboardPolicy, process := pane.process, now := world.now, hostname := world.hostname }

omit [Vt100 G] in
/-- The pane after scanning a chunk, and the bytes for the display parser. -/
def intercept (world : World) (chunk : Bytes) (pane : Pane G) : Pane G × Bytes :=
  let ctx : InterceptCtx :=
    { state := pane.state, osc52Pending := pane.osc52Pending, parser := pane.controlParser }
  let (ctx, filtered) := interceptChunk (pane.interceptEnv world) ctx chunk
  ({ pane with
      state := ctx.state
      osc52Pending := ctx.osc52Pending
      controlParser := ctx.parser
      written := pane.written ++ ctx.replies.flatten }, filtered)

def readChunk (world : World) (chunk : Bytes) (pane : Pane G) : Pane G :=
  let (pane, filtered) := pane.intercept world chunk
  { pane with
    parserHasOutput := true
    parser := Vt100.process filtered (Vt100.setScrollback 0 pane.parser)
    scrollOffset := 0 }

/-- What one call of `read_output` finds: the chunks waiting on the reader's
channel, whether the reader is gone, and the child's status. -/
structure Feed where
  chunks : List Bytes := []
  disconnected : Bool := false
  exited : Option Nat := none
  deriving DecidableEq, Repr

def maxDrain : Nat := 8

def readOutput (world : World) (feed : Feed) (pane : Pane G) : Pane G × Bool :=
  let taken := feed.chunks.take maxDrain
  let wasAlive := pane.alive
  let pane := taken.foldl (fun pane chunk => pane.readChunk world chunk) pane
  let eof := pane.readerEof || (feed.disconnected && feed.chunks.length < maxDrain)
  let exitCode := pane.exitCode.or feed.exited
  let alive := pane.alive && !(eof && exitCode.isSome)
  let pane :=
    { pane with
      readerEof := eof
      exitCode
      alive
      state.syncOpenedAt := if eof then none else pane.state.syncOpenedAt }
  (pane, !taken.isEmpty || wasAlive != alive)

omit [Vt100 G] in
def inSync (pane : Pane G) : Bool := pane.state.syncOpenedAt.isSome

omit [Vt100 G] in
/-- The 33 ms watchdog of the server loop, with whether it fired. -/
def syncWatchdog (world : World) (pane : Pane G) : Pane G × Bool :=
  if pane.state.syncOpenedAt.any fun opened => world.now - opened ≥ 33 then
    ({ pane with state.syncOpenedAt := none }, true)
  else (pane, false)

/-! ## View -/

/-- Show the rows that the scroll offset asks for. -/
def syncScrollback (pane : Pane G) : Pane G :=
  { pane with parser := Vt100.setScrollback pane.scrollOffset pane.parser }

def resetScrollbackView (pane : Pane G) : Pane G := { pane with parser := Vt100.setScrollback 0 pane.parser }

/-- The offset is clamped to the history by the display parser. -/
def scrollUp (lines : Nat) (pane : Pane G) : Pane G :=
  let probed := Vt100.setScrollback (pane.scrollOffset + lines) pane.parser
  { pane with parser := Vt100.setScrollback 0 probed, scrollOffset := Vt100.scrollback probed }

omit [Vt100 G] in
def scrollDown (lines : Nat) (pane : Pane G) : Pane G := { pane with scrollOffset := pane.scrollOffset - lines }

omit [Vt100 G] in
def snapToBottom (pane : Pane G) : Pane G := { pane with scrollOffset := 0 }

/-! ## History -/

/-- Read the history above the viewport in windows of `rows`, oldest first. -/
def dumpHistory (rows : Nat) : (fuel offset : Nat) → G → G × List String
  | 0, _, grid => (grid, [])
  | fuel + 1, offset, grid =>
      if offset = 0 then (grid, [])
      else
        let grid := Vt100.setScrollback offset grid
        let window := (Vt100.rows grid).take (min offset rows)
        let (grid, rest) := dumpHistory rows fuel (offset - rows) grid
        (grid, window ++ rest)

/-- The pane's text; the view offset is put back. -/
def dumpText (includeScrollback : Bool) (pane : Pane G) : Pane G × List String :=
  let savedOffset := Vt100.scrollback pane.parser
  let (rows, _) := Vt100.size pane.parser
  let (parser, history) : G × List String :=
    if includeScrollback then
      let probed := Vt100.setScrollback (usizeMax / 2) pane.parser
      let maxScrollback := Vt100.scrollback probed
      dumpHistory rows maxScrollback maxScrollback (Vt100.setScrollback 0 probed)
    else (pane.parser, [])
  let parser := Vt100.setScrollback 0 parser
  ({ pane with parser := Vt100.setScrollback savedOffset parser }, history ++ Vt100.rows parser)

/-- The characters of a saved row that fit in `cols` cells. -/
def fitRow (G : Type) [Vt100 G] (cols : Nat) : (width : Nat) → List Char → List Char
  | _, [] => []
  | width, c :: cs =>
      if Text.isControl c then fitRow G cols width cs
      else if width + Vt100.charWidth (G := G) c > cols then []
      else c :: fitRow G cols (width + Vt100.charWidth (G := G) c) cs

/-- Replay saved rows into a pane that has not produced output. -/
def restoreScrollback (rows : List String) (pane : Pane G) : Pane G :=
  if pane.parserHasOutput || pane.snapshotSensitive then pane
  else
    let (height, cols) := Vt100.size pane.parser
    let limit := budgetedScrollbackLines pane.scrollbackLines cols pane.scrollbackByteBudget + height
    let retained := rows.drop (rows.length - limit)
    let replay (grid : G) (text : String) : G :=
      let typed := (fitRow G cols 0 text.toList).foldl
        (fun grid c => Vt100.process (String.singleton c).toUTF8.data.toList grid) grid
      Vt100.process (ascii "\r\n") typed
    { pane with parser := retained.foldl replay pane.parser, parserHasOutput := !retained.isEmpty }

/-! ## OSC 52 -/

omit [Vt100 G] in
/-- Take the forward queue. -/
def takeOsc52 (pane : Pane G) : Pane G × List Envelope := ({ pane with osc52Pending := [] }, pane.osc52Pending)

omit [Vt100 G] in
def takeOsc52PendingConfirm (pane : Pane G) : Pane G × List Envelope :=
  ({ pane with state.osc52PendingConfirm := [] }, pane.state.osc52PendingConfirm)

omit [Vt100 G] in
def setOsc52Decision (decision : Osc52Decision) (pane : Pane G) : Pane G :=
  { pane with state.osc52Decision := decision }

omit [Vt100 G] in
/-- Put payloads back in front of what has arrived since. -/
def requeueOsc52PendingConfirm (payloads : List Envelope) (pane : Pane G) : Pane G :=
  { pane with state.osc52PendingConfirm := (payloads ++ pane.state.osc52PendingConfirm).foldl enqueueOsc [] }

omit [Vt100 G] in
/-- The answer `y`: cache the decision and forward the prompt's payloads. -/
def acceptOsc52 (payloads : List Envelope) (pane : Pane G) : Pane G :=
  let pane := pane.setOsc52Decision .allowed
  { pane with osc52Pending := pane.osc52Pending ++ payloads }

/-! ## Working directory -/

/-- 30 s. -/
def reportedCwdFreshFor : Nat := 30000

omit [Vt100 G] in
def reportedCwd (world : World) (pane : Pane G) : Option String :=
  match pane.state.reportedCwd with
  | some (path, reported) => if world.now - reported < reportedCwdFreshFor then some path else none
  | none => none

omit [Vt100 G] in
/-- OSC 7 while fresh, then procfs, then the launch directory. -/
def liveCwd (world : World) (pane : Pane G) : Option String :=
  (pane.reportedCwd world).or
    (((if pane.alive then world.procCwd pane.process else none)).or pane.initialCwd)

end Pane

abbrev PaneMap (G : Type) : Type := IdMap (Pane G)

end Ezpn
