import Ezpn.Server.Clients
import Ezpn.Server.Output

/-!
# Client input queue

`client_reader` and `ClientReceiver` of `connection.rs`. The reader thread takes
room in a byte budget before it sends a message through the bounded channel; the
main loop gives the room back when it has received the message. A step is one
operation on the connection, the channel, the budget or the closed flag.
-/

set_option autoImplicit false

namespace Ezpn

namespace Input

open Output (queueBytes fetchSub Bytes)

/-- `sync_channel(64)` -/
def queueDepth : Nat := 64

/-- `E` stands for the events of the terminal library. -/
inductive ClientMsg (E : Type) where
  | event (event : E)
  | resize (cols rows : Nat)
  | detach
  | disconnected
  | kill

abbrev Frame : Type := UInt8 × Bytes

def decodeResize (payload : Bytes) : Option (Nat × Nat) :=
  match payload with
  | [a, b, c, d] => some (a.toNat * 256 + b.toNat, c.toNat * 256 + d.toNat)
  | _ => none

def resized {E : Type} (size : Nat × Nat) : ClientMsg E :=
  let size := normalizeSize size.1 size.2
  .resize size.1 size.2

/-- What a client can send: `parse` is the event decoder, `resizeOf` the size of a resize event. -/
structure Codec (E : Type) where
  parse : Bytes → Option E
  resizeOf : E → Option (Nat × Nat)

/-- The `match tag` of the reader; `none` for a frame that is skipped. -/
def decode {E : Type} (codec : Codec E) (frame : Frame) : Option (ClientMsg E) :=
  let (tag, payload) := frame
  if tag = 0x01 then
    (codec.parse payload).map fun event =>
      match codec.resizeOf event with
      | some size => resized size
      | none => .event event
  else if tag = 0x03 then (decodeResize payload).map resized
  else if tag = 0x02 && payload.isEmpty then some .detach
  else if tag = 0x04 && payload.isEmpty then some .kill
  else none

/-- What a message takes of the budget. -/
def accountedSize (frame : Frame) : Nat := max frame.2.length 64

/-- Where the reader thread stands. -/
inductive Reader (E : Type) where
  | reading
  /-- about to take room in the budget -/
  | reserving (msg : ClientMsg E) (size : Nat)
  /-- there was no room; about to look at the closed flag -/
  | checking (msg : ClientMsg E) (size : Nat)
  /-- in `send` -/
  | sending (msg : ClientMsg E) (size : Nat)
  /-- `send` has failed; about to give the room back -/
  | refunding (msg : ClientMsg E) (size : Nat)
  /-- about to announce the end -/
  | leaving
  | exited

/-- Where the main loop stands with the receiver. -/
inductive Receiver (E : Type) where
  | idle
  /-- a message is out of the channel, and about to be taken off the budget -/
  | accounting (msg : ClientMsg E) (size : Nat)
  /-- the closed flag is set; the channel is about to be dropped -/
  | closing
  | dropped

structure State (E : Type) where
  reader : Reader E := .reading
  receiver : Receiver E := .idle
  queue : List (ClientMsg E × Nat) := []
  bytes : Nat := 0
  closed : Bool := false
  /-- the frames that the reader has read -/
  frames : List Frame := []
  received : List (ClientMsg E × Nat) := []
  /-- the loop knows that the connection has ended -/
  sawEnd : Bool := false
  /-- what was in the channel when it was dropped -/
  lost : List (ClientMsg E × Nat) := []
  /-- what the reader could not send any more -/
  refused : List (ClientMsg E × Nat) := []

inductive Action where
  /-- the next frame; `none` for the end of the connection or an error -/
  | read (frame : Option Frame)
  /-- the next operation of the reader -/
  | work
  /-- `try_recv` on the channel -/
  | poll
  /-- the end of a `try_recv` that took a message -/
  | account
  | drop
  /-- the end of the drop -/
  | release

namespace State
variable {E : Type} (codec : Codec E)

def read (frame : Option Frame) (s : State E) : State E :=
  match frame with
  | none => { s with reader := .leaving }
  | some frame =>
      let s := { s with frames := s.frames ++ [frame] }
      match decode codec frame with
      | none => s
      | some msg => { s with reader := .reserving msg (accountedSize frame) }

def work (s : State E) : State E :=
  match s.reader with
  | .reading | .exited => s
  | .reserving msg size =>
      if s.bytes + size ≤ queueBytes then { s with reader := .sending msg size, bytes := s.bytes + size }
      else { s with reader := .checking msg size }
  | .checking msg size =>
      if s.closed then { s with reader := .leaving, refused := s.refused ++ [(msg, size)] }
      else { s with reader := .reserving msg size }
  | .sending msg size =>
      match s.receiver with
      | .dropped => { s with reader := .refunding msg size }
      | _ => { s with reader := .reading, queue := s.queue ++ [(msg, size)] }
  | .refunding msg size => { s with reader := .leaving, bytes := fetchSub s.bytes size, refused := s.refused ++ [(msg, size)] }
  | .leaving =>
      match s.receiver with
      | .dropped => { s with reader := .exited }
      | _ =>
          if s.queue.length < queueDepth then { s with reader := .exited, queue := s.queue ++ [(.disconnected, 0)] }
          else { s with reader := .exited }

/-- A channel without a sender is disconnected once it is empty. -/
def poll (s : State E) : State E :=
  match s.queue, s.reader with
  | (msg, size) :: queue, _ => { s with receiver := .accounting msg size, queue }
  | [], .exited => { s with sawEnd := true }
  | [], _ => s

def account (s : State E) : State E :=
  match s.receiver with
  | .accounting .disconnected size =>
      { s with receiver := .idle, bytes := fetchSub s.bytes size, sawEnd := true }
  | .accounting msg size =>
      { s with receiver := .idle, bytes := fetchSub s.bytes size, received := s.received ++ [(msg, size)] }
  | _ => s

end State

def step {E : Type} (codec : Codec E) (s : State E) : Action → State E
  | .read frame => s.read codec frame
  | .work => s.work
  | .poll => s.poll
  | .account => s.account
  | .drop => { s with receiver := .closing, closed := true }
  | .release => { s with receiver := .dropped, lost := s.queue, queue := [] }

/-- The reader reads what a stream holds, and `send` waits for a place in the channel. -/
def Allowed {E : Type} (s : State E) : Action → Prop
  | .read frame =>
      match s.reader with
      | .reading => ∀ message, frame = some message →
          ∃ window source rest, Protocol.readMsg window source = .ok message rest
      | _ => False
  | .work =>
      match s.reader with
      | .reading | .exited => False
      | .sending _ _ =>
          match s.receiver with
          | .dropped => True
          | _ => s.queue.length < queueDepth
      | _ => True
  | .poll | .drop =>
      match s.receiver with
      | .idle => True
      | _ => False
  | .account =>
      match s.receiver with
      | .accounting _ _ => True
      | _ => False
  | .release =>
      match s.receiver with
      | .closing => True
      | _ => False

/-- The states that some interleaving reaches. -/
def Reached {E : Type} (codec : Codec E) (s : State E) : Prop := Machine.Run (step codec) Allowed {} s

end Input

end Ezpn
