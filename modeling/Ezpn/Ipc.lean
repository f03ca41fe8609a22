import Ezpn.Lib.Lines
import Ezpn.Text

/-!
# The control socket

`ipc.rs` and the place where the main loop takes commands from it. Every worker
thread of the listener, the bounded command channel, the one-shot reply channels
and the main loop are one machine. A deadline may pass whenever it is waited on.
-/

set_option autoImplicit false

namespace Ezpn

abbrev ControlBytes : Type := List UInt8

/-- `DUMP_MAX_BYTES`. -/
def dumpMaxBytes : Nat := 16 * 1024 * 1024

/-- The listener's bound on the command channel. -/
def commandChannelBound : Nat := 16

def maxControlWorkers : Nat := 16

/-- `IpcCommand`, over the two vocabularies. -/
inductive IpcCommand (L E : Type) where
  | legacy (request : L)
  | ext (request : E)
  deriving DecidableEq

/-- `IpcResponse`; the payload is one of its typed results. -/
structure IpcResponse (P : Type) where
  ok : Bool
  message : Option String := none
  error : Option String := none
  payload : Option P := none
  deriving DecidableEq

namespace IpcResponse
variable {P : Type}

def success (message : String) : IpcResponse P := { ok := true, message := some message }

def failure (message : String) : IpcResponse P := { ok := false, error := some message }

def busy : IpcResponse P := failure "listener unavailable or busy"

def timedOut : IpcResponse P := failure "response unavailable or timed out; command may have executed"

end IpcResponse

/-- `serde_json` on a line, and the handlers of the main loop. -/
structure IpcService (σ L E P : Type) where
  /-- the string under `cmd`, where the line is JSON with one -/
  cmdTag : String → Option String
  legacy : String → Except String L
  ext : String → Except String E
  dispatch : σ → IpcCommand L E → σ × IpcResponse P

def extCmdTags : List String := ["ls_tree", "dump", "send_keys"]

section Service
variable {σ L E P : Type} (service : IpcService σ L E P)

def isExtCommand (line : String) : Bool :=
  match service.cmdTag line with
  | none => false
  | some cmd => extCmdTags.contains cmd

/-- The two parses of `handle_client`. -/
def parseCommand (line : String) : Except String (IpcCommand L E) :=
  if isExtCommand service line then
    match service.ext line with
    | .ok request => .ok (.ext request)
    | .error e => .error ("invalid request: " ++ e)
  else
    match service.legacy line with
    | .ok request => .ok (.legacy request)
    | .error e => .error ("invalid request: " ++ e)

end Service

/-- `line.trim().is_empty()`. -/
def isBlankLine (line : String) : Bool := (Text.trim line.toList).isEmpty

/-! ## Workers -/

/-- Where the response to a request comes from; the channels are those of its own request. -/
inductive Verdict where
  | invalid
  | busy
  | replied (channel : Nat)
  | timedOut (channel : Nat)
  deriving DecidableEq

def Verdict.channel? : Verdict → Option Nat
  | invalid | busy => none
  | replied channel | timedOut channel => some channel

/-- A response, with the request line that it is for. -/
structure Exchange (P : Type) where
  line : String
  response : IpcResponse P
  verdict : Verdict
  deriving DecidableEq

inductive Ending where
  /-- the client's bytes are at an end -/
  | ended
  /-- a line is too long, or not UTF-8 -/
  | broken
  | late
  | unsent
  | refused
  /-- never taken up: too many workers -/
  | declined
  deriving DecidableEq

/-- Where `handle_client` is. -/
inductive ControlPhase (L E P : Type) where
  | reading
  | submitting (text : String) (command : IpcCommand L E)
  | waiting (text : String) (channel : Nat)
  | writing (exchange : Exchange P) (last : Bool)
  | closed (ending : Ending)
  deriving DecidableEq

structure ControlWorker (L E P : Type) where
  phase : ControlPhase L E P := .reading
  /-- in the socket -/
  inbound : ControlBytes := []
  /-- the client has closed its writing side -/
  hungUp : Bool := false
  /-- in the `BufReader` -/
  buffer : ControlBytes := []
  /-- the line of `read_request_line` -/
  line : ControlBytes := []
  /-- the responses written on the connection -/
  exchanges : List (Exchange P) := []
  /-- the response that could not be written -/
  unsent : List (Exchange P) := []
  /-- everything the client has sent -/
  stream : ControlBytes := []
  /-- the lines that were read -/
  handled : List ControlBytes := []
  deriving DecidableEq

namespace ControlWorker
variable {σ L E P : Type}

/-- What `handle_client` does with a line. -/
def handle (service : IpcService σ L E P) (text : String) (w : ControlWorker L E P) : ControlWorker L E P :=
  if isBlankLine text then { w with phase := .reading }
  else
    match parseCommand service text with
    | .error message => { w with phase := .writing ⟨text, .failure message, .invalid⟩ false }
    | .ok command => { w with phase := .submitting text command }

/-- A line has been read to its end. -/
def finishLine (service : IpcService σ L E P) (w : ControlWorker L E P) : ControlWorker L E P :=
  match Text.fromUtf8 w.line with
  | none => { w with phase := .closed .broken }
  | some text => { w with line := [], handled := w.handled ++ [w.line] }.handle service text

/-- `fill_buf`, getting at most `n + 1` bytes. -/
def fillBuf (n : Nat) (w : ControlWorker L E P) : ControlWorker L E P :=
  if w.buffer.isEmpty then { w with buffer := w.inbound.take (n + 1), inbound := w.inbound.drop (n + 1) } else w

/-- One round of the loop of `read_request_line`; a read of an empty socket blocks. -/
def readRequestLine (service : IpcService σ L E P) (n : Nat) (w : ControlWorker L E P) : ControlWorker L E P :=
  let filled := w.fillBuf n
  if filled.buffer.isEmpty then
    if !filled.hungUp then w
    else if filled.line.isEmpty then { filled with phase := .closed .ended }
    else filled.finishLine service
  else
    let stop := filled.buffer.findIdx? (· == 10)
    let size := match stop with
      | some i => i + 1
      | none => filled.buffer.length
    if size > dumpMaxBytes - filled.line.length then { filled with phase := .closed .broken }
    else
      let read := { filled with line := filled.line ++ filled.buffer.take size, buffer := filled.buffer.drop size }
      if stop.isSome then read.finishLine service else read

def read (service : IpcService σ L E P) (n : Nat) (w : ControlWorker L E P) : ControlWorker L E P :=
  match w.phase with
  | .reading => w.readRequestLine service n
  | _ => w

/-- The deadline of the request passes. -/
def expire (w : ControlWorker L E P) : ControlWorker L E P :=
  match w.phase with
  | .reading => { w with phase := .closed .late }
  | _ => w

/-- `write_response`, and whether the loop goes on. -/
def write (sent : Bool) (w : ControlWorker L E P) : ControlWorker L E P :=
  match w.phase with
  | .writing exchange last =>
      if !sent then { w with unsent := [exchange], phase := .closed .unsent }
      else { w with exchanges := w.exchanges ++ [exchange], phase := if last then .closed .refused else .reading }
  | _ => w

def arrive (bytes : ControlBytes) (w : ControlWorker L E P) : ControlWorker L E P :=
  if w.hungUp then w else { w with inbound := w.inbound ++ bytes, stream := w.stream ++ bytes }

def hangUp (w : ControlWorker L E P) : ControlWorker L E P := { w with hungUp := true }

def isActive (w : ControlWorker L E P) : Bool :=
  match w.phase with
  | .closed _ => false
  | _ => true

end ControlWorker

/-! ## The whole socket -/

/-- A one-shot reply channel, and the request it was made for. -/
structure ReplyChannel (L E P : Type) where
  conn : Nat
  position : Nat
  command : IpcCommand L E
  listening : Bool := true
  reply : Option (IpcResponse P) := none

/-- `resp_tx.send`; without a receiver it fails, and the failure is ignored. -/
def ReplyChannel.send {L E P : Type} (response : IpcResponse P) (c : ReplyChannel L E P) : ReplyChannel L E P :=
  if c.listening then { c with reply := some response } else c

/-- A command that the main loop has executed. -/
structure Execution (L E P : Type) where
  command : IpcCommand L E
  channel : Nat
  response : IpcResponse P

structure Control (σ L E P : Type) where
  loop : σ
  running : Bool := true
  queue : List (IpcCommand L E × Nat) := []
  channels : List (ReplyChannel L E P) := []
  workers : List (ControlWorker L E P) := []
  executions : List (Execution L E P) := []

inductive ControlAction where
  /-- a client connects -/
  | accept
  | arrive (conn : Nat) (bytes : ControlBytes)
  | hangUp (conn : Nat)
  | read (conn n : Nat)
  | expire (conn : Nat)
  | submit (conn : Nat)
  | receive (conn : Nat)
  | timeout (conn : Nat)
  | write (conn : Nat) (sent : Bool)
  /-- the main loop takes the next command -/
  | execute
  /-- the main loop ends -/
  | stop

namespace Control
variable {σ L E P : Type}

def setWorker (conn : Nat) (w : ControlWorker L E P) (s : Control σ L E P) : Control σ L E P :=
  { s with workers := s.workers.set conn w }

/-- A step of one worker that touches nothing else. -/
def updateWorker (conn : Nat) (f : ControlWorker L E P → ControlWorker L E P) (s : Control σ L E P) : Control σ L E P :=
  match s.workers[conn]? with
  | none => s
  | some w => s.setWorker conn (f w)

/-- The listener's loop. -/
def accept (s : Control σ L E P) : Control σ L E P :=
  let admitted := (s.workers.filter (·.isActive)).length < maxControlWorkers
  { s with workers := s.workers ++ [if admitted then {} else { phase := .closed .declined }] }

/-- `tx.try_send`. -/
def submit (conn : Nat) (s : Control σ L E P) : Control σ L E P :=
  match s.workers[conn]? with
  | some w =>
      match w.phase with
      | .submitting text command =>
          if s.running && s.queue.length < commandChannelBound then
            let sent : Control σ L E P := { s with
              queue := s.queue ++ [(command, s.channels.length)]
              channels := s.channels ++ [{ conn, command, position := w.exchanges.length }] }
            sent.setWorker conn { w with phase := .waiting text s.channels.length }
          else s.setWorker conn { w with phase := .writing ⟨text, .busy, .busy⟩ true }
      | _ => s
  | none => s

def replyTo (channel : Nat) (s : Control σ L E P) : Option (IpcResponse P) := s.channels[channel]?.bind (·.reply)

/-- `recv_timeout` returns a reply, or sees that there will be none. -/
def receive (conn : Nat) (s : Control σ L E P) : Control σ L E P :=
  match s.workers[conn]? with
  | some w =>
      match w.phase with
      | .waiting text channel =>
          match s.replyTo channel with
          | some response => s.setWorker conn { w with phase := .writing ⟨text, response, .replied channel⟩ false }
          | none =>
              if s.running then s
              else s.setWorker conn { w with phase := .writing ⟨text, .timedOut, .timedOut channel⟩ false }
      | _ => s
  | none => s

/-- `recv_timeout` gives up, and the receiver is dropped. -/
def timeout (conn : Nat) (s : Control σ L E P) : Control σ L E P :=
  match s.workers[conn]? with
  | some w =>
      match w.phase with
      | .waiting text channel =>
          if (s.replyTo channel).isSome then s
          else
            let dropped : Control σ L E P := { s with channels := s.channels.modify channel fun c => { c with listening := false } }
            dropped.setWorker conn { w with phase := .writing ⟨text, .timedOut, .timedOut channel⟩ false }
      | _ => s
  | none => s

/-- One round of the loop over `rx.try_iter`. -/
def execute (service : IpcService σ L E P) (s : Control σ L E P) : Control σ L E P :=
  match s.queue with
  | [] => s
  | (command, channel) :: queue =>
      let (loop, response) := service.dispatch s.loop command
      { s with
        loop, queue
        channels := s.channels.modify channel (·.send response)
        executions := s.executions ++ [⟨command, channel, response⟩] }

def step (service : IpcService σ L E P) (s : Control σ L E P) : ControlAction → Control σ L E P
  | .accept => s.accept
  | .arrive conn bytes => s.updateWorker conn (·.arrive bytes)
  | .hangUp conn => s.updateWorker conn (·.hangUp)
  | .read conn n => s.updateWorker conn (·.read service n)
  | .expire conn => s.updateWorker conn (·.expire)
  | .submit conn => s.submit conn
  | .receive conn => s.receive conn
  | .timeout conn => s.timeout conn
  | .write conn sent => s.updateWorker conn (·.write sent)
  | .execute => s.execute service
  | .stop => { s with running := false, queue := [] }

end Control

end Ezpn
