import Ezpn.Lib.Transducer
import Ezpn.Terminal.State

/-!
# Control-sequence interception

The bounded state machine that every byte of a child's output passes through
before the display parser sees it. `interceptByte` is the body of the loop in
`intercept_chunk`; the bytes it emits go to the display parser, `replies` are the
writes back to the child.
-/

set_option autoImplicit false

namespace Ezpn

def oscPayloadMax : Nat := 1024 * 1024
def oscQueueMax : Nat := 8
def oscQueueBytesMax : Nat := 2 * 1024 * 1024

inductive ControlMode where
  | ground
  | escape
  | escapeIntermediate
  | csi
  | osc
  | string
  | stringEscape
  deriving DecidableEq, Repr

structure ControlParser where
  mode : ControlMode := .ground
  buffer : Bytes := []
  overflow : Bool := false
  deriving DecidableEq, Repr

/-- What the interceptor only reads, with the clock and `gethostname`. -/
structure InterceptEnv where
  policy : ClipboardPolicy := {}
  palette : ThemePalette := {}
  process : Nat := 0
  now : Nat := 0
  hostname : Option Bytes := none

/-- What the interceptor updates. -/
structure InterceptCtx where
  state : PaneTerminalState := {}
  osc52Pending : List Envelope := []
  parser : ControlParser := {}
  replies : List Bytes := []
  deriving DecidableEq, Repr

/-! ## Parameters -/

/-- `strip_prefix` on bytes. -/
def stripPrefix (lead payload : Bytes) : Option Bytes :=
  if lead.isPrefixOf payload then some (payload.drop lead.length) else none

def isAsciiDigit (b : UInt8) : Bool := 0x30 ≤ b && b ≤ 0x39

def parseU32Digits : (n : Nat) → Bytes → Option Nat
  | n, [] => some n
  | n, b :: rest =>
      if !isAsciiDigit b then none
      else
        let next := n * 10 + (b.toNat - 0x30)
        if next < 2 ^ 32 then parseU32Digits next rest else none

def parseU32 (s : Bytes) : Option Nat := if s.isEmpty then none else parseU32Digits 0 s

def parseDefault (s : Bytes) (default : Nat) : Option Nat :=
  if s.isEmpty then some default else parseU32 s

/-! ## DECSET tracking -/

/-- An independent mouse protocol toggle: only the matching reset clears it. -/
def toggleProtocol (state : PaneTerminalState) (protocol : MouseProtocol) (on : Bool) : PaneTerminalState :=
  if on then { state with mouseMode.protocol := protocol }
  else if state.mouseMode.protocol = protocol then { state with mouseMode.protocol := .off }
  else state

def toggleEncoding (state : PaneTerminalState) (encoding : MouseEncoding) (on : Bool) : PaneTerminalState :=
  if on then { state with mouseMode.encoding := encoding }
  else if state.mouseMode.encoding = encoding then { state with mouseMode.encoding := .x10 }
  else state

def applyDecset (now : Nat) (state : PaneTerminalState) (num : Nat) (on : Bool) : PaneTerminalState :=
  match num with
  | 47 | 1047 | 1049 => state.setAlternateScreen on
  | 2026 => { state with syncOpenedAt := if on then some (state.syncOpenedAt.getD now) else none }
  | 9 => toggleProtocol state .press on
  | 2004 => { state with bracketedPaste := on }
  | 1004 => { state with focusReporting := on }
  | 1000 => toggleProtocol state .x10 on
  | 1002 => toggleProtocol state .btn on
  | 1003 => toggleProtocol state .any on
  | 1005 => toggleEncoding state .utf8 on
  | 1006 => toggleEncoding state .sgr on
  | 1015 => toggleEncoding state .urxvt on
  | _ => state

/-- Each parameter is re-emitted as a sequence of its own; 1047 becomes 47, with
an explicit erase when it leaves the alternate screen. -/
def applyDecParams (now : Nat) (final : UInt8) : List Bytes → PaneTerminalState → PaneTerminalState × Bytes
  | [], state => (state, [])
  | param :: rest, state =>
      let mode := parseU32 param
      let erase := if mode = some 1047 && final == 0x6C && state.alternateScreen then ascii "\x1b[2J" else []
      let state := mode.elim state fun num => applyDecset now state num (final == 0x68)
      let shown := if mode = some 1047 then ascii "47" else param
      let (state, output) := applyDecParams now final rest state
      (state, erase ++ ascii "\x1b[?" ++ shown ++ [final] ++ output)

/-- `none` when the sequence is not a private mode change. -/
def interceptDecModes (now : Nat) (state : PaneTerminalState) (body : Bytes) (final : UInt8) :
    Option (PaneTerminalState × Bytes) :=
  match stripPrefix (ascii "?") body with
  | none => none
  | some params =>
      if !(final == 0x68 || final == 0x6C) || !params.all (fun b => isAsciiDigit b || b == 0x3B) then none
      else some (applyDecParams now final (params.splitOn 0x3B) state)

/-! ## Kitty keyboard -/

def kittySupported : UInt8 := 0b01011

def handleCsiU (ctx : InterceptCtx) (body : Bytes) : InterceptCtx :=
  let kbd := ctx.state.kittyKbd
  match body with
  | [] => ctx
  | sigil :: rest =>
      if sigil = 0x3E then  -- `>` pushes
        match parseDefault rest 0 with
        | none => ctx
        | some flags => { ctx with state.kittyKbd := kbd.push (UInt8.ofNat flags &&& kittySupported) }
      else if sigil = 0x3C then  -- `<` pops
        match parseDefault rest 1 with
        | none => ctx
        | some n => { ctx with state.kittyKbd := kbd.pop n }
      else if sigil = 0x3D then  -- `=` modifies the top entry
        let parts := rest.splitOn 0x3B
        match parseDefault (parts.headD []) 0, parseDefault (parts.getD 1 []) 1 with
        | some flags, some mode =>
            if mode > 255 || parts.length > 2 then ctx
            else { ctx with state.kittyKbd := kbd.modifyTop (UInt8.ofNat flags &&& kittySupported) mode }
        | _, _ => ctx
      else if sigil = 0x3F && rest.isEmpty then  -- `?` queries
        let active := kbd.active &&& KittyKbdStack.all
        { ctx with replies := ctx.replies ++ [ascii s!"\x1b[?{active.toNat}u"] }
      else ctx

/-! ## OSC -/

def queueBytes (queue : List Envelope) : Nat := (queue.map (·.bytes.length)).sum

def enqueueOsc (queue : List Envelope) (envelope : Envelope) : List Envelope :=
  if queue.length < oscQueueMax && envelope.bytes.length ≤ oscQueueBytesMax - queueBytes queue then
    queue ++ [envelope]
  else queue

def isSelection (b : UInt8) : Bool := (ascii "cpqs01234567").contains b

def isBase64 (b : UInt8) : Bool :=
  (0x41 ≤ b && b ≤ 0x5A) || (0x61 ≤ b && b ≤ 0x7A) || isAsciiDigit b || (ascii "+/=").contains b

def osc52Envelope (payload : Bytes) : Bytes := ascii "\x1b]" ++ payload ++ [0x07]

/-- The set policy after the pane's own decision. -/
def effectiveSet (policy : ClipboardPolicy) (decision : Osc52Decision) : Osc52SetPolicy :=
  if policy.set = .deny || decision = .denied then .deny
  else if decision = .allowed then .allow
  else policy.set

def handleOsc52 (env : InterceptEnv) (ctx : InterceptCtx) (fullPayload rest : Bytes) : InterceptCtx :=
  let selection := rest.takeWhile (· != 0x3B)
  match rest.dropWhile (· != 0x3B) with
  | [] => ctx
  | _ :: data =>
      let envelope : Envelope := { origin := env.process, bytes := osc52Envelope fullPayload }
      if !selection.all isSelection then ctx
      else if data = ascii "?" then
        match env.policy.get with
        | .allow => { ctx with osc52Pending := enqueueOsc ctx.osc52Pending envelope }
        | .deny => ctx
      else if data.length > min env.policy.maxBytes oscPayloadMax then ctx
      else if !data.all isBase64 then ctx
      else
        match effectiveSet env.policy ctx.state.osc52Decision with
        | .allow => { ctx with osc52Pending := enqueueOsc ctx.osc52Pending envelope }
        | .deny => ctx
        | .confirm =>
            { ctx with state.osc52PendingConfirm := enqueueOsc ctx.state.osc52PendingConfirm envelope }

def hexVal (b : UInt8) : Option UInt8 :=
  if isAsciiDigit b then some (b - 0x30)
  else if 0x61 ≤ b && b ≤ 0x66 then some (b - 0x61 + 10)
  else if 0x41 ≤ b && b ≤ 0x46 then some (b - 0x41 + 10)
  else none

/-- Decode `%XX` escapes, leaving anything that is not one alone. -/
def percentDecode : Bytes → Bytes
  | [] => []
  | [a] => [a]
  | [a, b] => [a, b]
  | a :: b :: c :: rest =>
      match (if a = 0x25 then (hexVal b).bind fun hi => (hexVal c).map fun lo => hi * 16 + lo else none) with
      | some decoded => decoded :: percentDecode rest
      | none => a :: percentDecode (b :: c :: rest)

def lowerAscii (b : UInt8) : UInt8 := if 0x41 ≤ b && b ≤ 0x5A then b + 0x20 else b

def eqIgnoreAsciiCase (a b : Bytes) : Bool := a.map lowerAscii == b.map lowerAscii

def localOsc7Host (env : InterceptEnv) (host : Bytes) : Bool :=
  host.isEmpty || eqIgnoreAsciiCase host (ascii "localhost") ||
    env.hostname.any fun name => (Text.fromUtf8 name).isSome && eqIgnoreAsciiCase host name

def handleOsc7 (env : InterceptEnv) (ctx : InterceptCtx) (rest : Bytes) : InterceptCtx :=
  if (Text.fromUtf8 rest).isNone then ctx
  else match stripPrefix (ascii "file://") rest with
    | none => ctx
    | some afterScheme =>
        let pathPart := afterScheme.dropWhile (· != 0x2F)
        if pathPart.isEmpty || !localOsc7Host env (afterScheme.takeWhile (· != 0x2F)) then ctx
        else
          let decoded := Text.fromUtf8Lossy (percentDecode pathPart)
          if !decoded.startsWith "/" || decoded.toList.any Text.isControl then ctx
          else { ctx with state.reportedCwd := some (decoded, env.now) }

def hexDigit (n : Nat) : Char := "0123456789abcdef".toList.getD n '0'

def hexByte (b : UInt8) : String := String.ofList [hexDigit (b.toNat / 16), hexDigit (b.toNat % 16)]

/-- `rgb:RRRR/GGGG/BBBB`, each byte duplicated to fill its 16-bit channel. -/
def Rgb.toXtermRgbStr (c : Rgb) : String :=
  s!"rgb:{hexByte c.r}{hexByte c.r}/{hexByte c.g}{hexByte c.g}/{hexByte c.b}{hexByte c.b}"

/-- OSC 10, 11 and 12; only a query of a known colour is answered. -/
def handleOscColor (env : InterceptEnv) (ctx : InterceptCtx) (number : Nat) (slot : Option Rgb) (rest : Bytes) :
    InterceptCtx :=
  if rest ≠ ascii "?" || !env.palette.isActive then ctx
  else match slot with
    | none => ctx
    | some rgb => { ctx with replies := ctx.replies ++ [ascii s!"\x1b]{number};{rgb.toXtermRgbStr}\x07"] }

def handleOsc4 (env : InterceptEnv) (ctx : InterceptCtx) (rest : Bytes) : InterceptCtx :=
  let indexBytes := rest.takeWhile (· != 0x3B)
  let spec := (rest.dropWhile (· != 0x3B)).drop 1
  if spec ≠ ascii "?" || !env.palette.isActive then ctx
  else match parseU32 indexBytes with
    | none => ctx
    | some index =>
        if inRange : index < 256 then
          match env.palette.palette ⟨index, inRange⟩ with
          | none => ctx
          | some rgb => { ctx with replies := ctx.replies ++ [ascii s!"\x1b]4;{index};{rgb.toXtermRgbStr}\x07"] }
        else ctx

def handleTitle (ctx : InterceptCtx) (title : Bytes) : InterceptCtx :=
  if title.length ≤ 8192 then
    match Text.fromUtf8 title with
    | some text =>
        { ctx with state.title := String.ofList (text.toList.filter fun c => !Text.isControl c) }
    | none => ctx
  else ctx

def handleOsc (env : InterceptEnv) (ctx : InterceptCtx) (payload : Bytes) : InterceptCtx :=
  match (stripPrefix (ascii "0;") payload).or (stripPrefix (ascii "2;") payload) with
  | some title => handleTitle ctx title
  | none =>
      match stripPrefix (ascii "52;") payload with
      | some rest => handleOsc52 env ctx payload rest
      | none =>
          match stripPrefix (ascii "7;") payload with
          | some rest => handleOsc7 env ctx rest
          | none =>
              match stripPrefix (ascii "10;") payload with
              | some rest => handleOscColor env ctx 10 env.palette.fg rest
              | none =>
                  match stripPrefix (ascii "11;") payload with
                  | some rest => handleOscColor env ctx 11 env.palette.bg rest
                  | none =>
                      match stripPrefix (ascii "12;") payload with
                      | some rest => handleOscColor env ctx 12 env.palette.cursor rest
                      | none =>
                          match stripPrefix (ascii "4;") payload with
                          | some rest => handleOsc4 env ctx rest
                          | none => ctx

/-- The OSC titles that the display parser renders. -/
def isTitlePayload (payload : Bytes) : Bool :=
  payload.length ≤ 8192 &&
    ((ascii "0;").isPrefixOf payload || (ascii "1;").isPrefixOf payload || (ascii "2;").isPrefixOf payload)

/-! ## The machine -/

def isCancel (b : UInt8) : Bool := b == 0x18 || b == 0x1A

/-- The end of a string command, entering `mode`. -/
def finishOsc (env : InterceptEnv) (ctx : InterceptCtx) (mode : ControlMode) : InterceptCtx × Bytes :=
  let payload := ctx.parser.buffer
  if ctx.parser.overflow then ({ ctx with parser := { mode } }, [])
  else
    let ctx := handleOsc env ctx payload
    let title := if isTitlePayload payload then ascii "\x1b]" ++ payload ++ [0x07] else []
    ({ ctx with parser := { mode } }, title)

def finishCsi (env : InterceptEnv) (ctx : InterceptCtx) (final : UInt8) : InterceptCtx × Bytes :=
  let body := ctx.parser.buffer
  if ctx.parser.overflow then ({ ctx with parser := {} }, [])
  else
    let ctx := if final = 0x75 then handleCsiU ctx body else ctx
    match interceptDecModes env.now ctx.state body final with
    | some (state, output) => ({ ctx with state, parser := {} }, output)
    | none => ({ ctx with parser := {} }, ascii "\x1b[" ++ body ++ [final])

def stepEscape (ctx : InterceptCtx) (byte : UInt8) : InterceptCtx × Bytes :=
  let enter (mode : ControlMode) : InterceptCtx := { ctx with parser := { mode } }
  if byte = 0x5B then (enter .csi, [])
  else if byte = 0x5D then (enter .osc, [])
  else if byte = 0x50 || byte = 0x58 || byte = 0x5E || byte = 0x5F then (enter .string, [])
  else if byte = 0x1B then (enter .escape, [])
  else if 0x20 ≤ byte && byte ≤ 0x2F then (enter .escapeIntermediate, [0x1B, byte])
  else if byte ≤ 0x1F then (enter .escape, [byte])
  else if 0x30 ≤ byte && byte ≤ 0x7E then
    let state := if byte = 0x63 then ctx.state.resetTerminalModes else ctx.state
    ({ enter .ground with state }, [0x1B, byte])
  else (enter .escape, [])

def stepIntermediate (ctx : InterceptCtx) (byte : UInt8) : InterceptCtx × Bytes :=
  if byte = 0x1B then ({ ctx with parser.mode := .escape }, [0x18])
  else if 0x30 ≤ byte && byte ≤ 0x7E then ({ ctx with parser.mode := .ground }, [byte])
  else (ctx, [byte])

def stepCsi (env : InterceptEnv) (ctx : InterceptCtx) (byte : UInt8) : InterceptCtx × Bytes :=
  if byte = 0x1B then ({ ctx with parser.buffer := [], parser.mode := .escape }, [])
  else if 0x40 ≤ byte && byte ≤ 0x7E then finishCsi env ctx byte
  else if byte ≤ 0x1F then (ctx, [byte])
  else if byte = 0x7F then (ctx, [])
  else if 0x20 ≤ byte && byte ≤ 0x3F && !ctx.parser.overflow && ctx.parser.buffer.length < 256 then
    ({ ctx with parser.buffer := ctx.parser.buffer ++ [byte] }, [])
  else ({ ctx with parser.overflow := true }, [])

def stepOsc (env : InterceptEnv) (ctx : InterceptCtx) (byte : UInt8) : InterceptCtx × Bytes :=
  if byte = 0x07 then finishOsc env ctx .ground
  else if byte = 0x1B then finishOsc env ctx .escape  -- ESC alone ends the OSC; `\` may follow
  else if byte ≤ 0x1F then (ctx, [])
  else if !ctx.parser.overflow && ctx.parser.buffer.length < oscPayloadMax then
    ({ ctx with parser.buffer := ctx.parser.buffer ++ [byte] }, [])
  else ({ ctx with parser.overflow := true, parser.buffer := [] }, [])

def stepString (ctx : InterceptCtx) (byte : UInt8) : InterceptCtx :=
  if byte = 0x1B then { ctx with parser.mode := .stringEscape }
  else if byte = 0x9C then { ctx with parser.mode := .ground }
  else ctx

def stepStringEscape (ctx : InterceptCtx) (byte : UInt8) : InterceptCtx :=
  { ctx with parser.mode := if byte = 0x5C then .ground else .string }

def interceptByte (env : InterceptEnv) (ctx : InterceptCtx) (byte : UInt8) : InterceptCtx × Bytes :=
  if isCancel byte && ctx.parser.mode ≠ .ground then ({ ctx with parser := {} }, [byte])
  else match ctx.parser.mode with
    | .ground => if byte = 0x1B then ({ ctx with parser.mode := .escape }, []) else (ctx, [byte])
    | .escape => stepEscape ctx byte
    | .escapeIntermediate => stepIntermediate ctx byte
    | .csi => stepCsi env ctx byte
    | .osc => stepOsc env ctx byte
    | .string => (stepString ctx byte, [])
    | .stringEscape => (stepStringEscape ctx byte, [])

def interceptChunk (env : InterceptEnv) : InterceptCtx → Bytes → InterceptCtx × Bytes :=
  Transducer.run (interceptByte env)

example : interceptChunk {} {} (ascii "a\x1b]52;c;aGk=\x07\x1bPq\x1b\\b") =
    ({ state.osc52PendingConfirm := [⟨0, ascii "\x1b]52;c;aGk=\x07"⟩] }, ascii "ab") := by
  decide +kernel

end Ezpn
