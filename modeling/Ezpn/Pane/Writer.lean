import Ezpn.Pane
import Ezpn.Lib.Machine

/-!
# Input to the child

`BufferedPtyWriter` and `write_bytes` of `pane.rs`, and the two places that paste
into a pane. What the PTY answers to the writes of one flush is an input.
-/

set_option autoImplicit false

namespace Ezpn

def ptyInputMax : Nat := 1024 * 1024

/-- What one write to the PTY returns. -/
inductive PtyAnswer where
  | written (count : Nat)
  | interrupted
  | wouldBlock
  | failed

inductive WriteError where
  | writeZero | failed
  | inputQueueFull
  deriving DecidableEq, Repr

structure BufferedPtyWriter where
  pending : Bytes := []
  /-- what the PTY has taken -/
  received : Bytes := []

namespace BufferedPtyWriter

/-- The PTY takes nothing more where the answers end. -/
def flush : List PtyAnswer → BufferedPtyWriter → Except WriteError Unit × BufferedPtyWriter
  | [], writer => (.ok (), writer)
  | answer :: answers, writer =>
      if writer.pending.isEmpty then (.ok (), writer)
      else match answer with
        | .written 0 => (.error .writeZero, writer)
        | .written count => flush answers
            { pending := writer.pending.drop count, received := writer.received ++ writer.pending.take count }
        | .interrupted => flush answers writer
        | .wouldBlock => (.ok (), writer)
        | .failed => (.error .failed, { writer with pending := [] })

def write (answers : List PtyAnswer) (bytes : Bytes) (writer : BufferedPtyWriter) :
    Except WriteError Unit × BufferedPtyWriter :=
  match writer.flush answers with
  | (.error error, writer) => (.error error, writer)
  | (.ok (), writer) =>
      if bytes.length > ptyInputMax - writer.pending.length then (.error .inputQueueFull, writer)
      else (.ok (), { writer with pending := writer.pending ++ bytes })

/-- `write_all`, which does not write an empty slice. -/
def writeAll (answers : List PtyAnswer) (bytes : Bytes) (writer : BufferedPtyWriter) :
    Except WriteError Unit × BufferedPtyWriter :=
  if bytes.isEmpty then (.ok (), writer) else writer.write answers bytes

end BufferedPtyWriter

/-- What the PTY answers during one `write_bytes`. -/
structure Answers where
  /-- in the flush before the bytes are queued -/
  before : List PtyAnswer := []
  after : List PtyAnswer := []

/-- The input side of a pane. -/
structure PaneInput where
  writer : BufferedPtyWriter := {}
  bracketedPaste : Bool := false
  alive : Bool := true
  /-- the writes that were accepted -/
  accepted : List Bytes := []

namespace PaneInput

def writeBytes (answers : Answers) (bytes : Bytes) (pane : PaneInput) : PaneInput :=
  match pane.writer.writeAll answers.before bytes with
  | (.error _, writer) => { pane with writer }
  | (.ok (), writer) =>
      { pane with writer := (writer.flush answers.after).2, accepted := pane.accepted ++ [bytes] }

def pasteStart : Bytes := [0x1B, 0x5B, 0x32, 0x30, 0x30, 0x7E]

def pasteEnd : Bytes := [0x1B, 0x5B, 0x32, 0x30, 0x31, 0x7E]

/-- What the PTY answers during the writes of a paste. -/
structure PasteAnswers where
  start : Answers := {}
  text : Answers := {}
  stop : Answers := {}

/-- The three writes of a paste. -/
def pasteText (answers : PasteAnswers) (text : Bytes) (pane : PaneInput) : PaneInput :=
  let pane := if pane.bracketedPaste then pane.writeBytes answers.start pasteStart else pane
  let pane := pane.writeBytes answers.text text
  if pane.bracketedPaste then pane.writeBytes answers.stop pasteEnd else pane

/-- `Event::Paste` of `process_event` in normal mode, for one pane. -/
def processPaste (broadcast active : Bool) (answers : PasteAnswers) (text : Bytes) (pane : PaneInput) : PaneInput :=
  if pane.alive && (broadcast || active) then pane.pasteText answers text else pane

/-- `Action::PasteBuffer` of `execute_action`, for the active pane. -/
def pasteBuffer (answers : PasteAnswers) (entry : Option Bytes) (pane : PaneInput) : PaneInput :=
  match entry with
  | none => pane
  | some text => if pane.alive then pane.pasteText answers text else pane

inductive Action where
  /-- keys, mouse reports, focus reports and replies to queries -/
  | write (answers : Answers) (bytes : Bytes)
  /-- the flush of each tick -/
  | tick (answers : List PtyAnswer)
  /-- the child switches mode 2004 -/
  | setBracketed (on : Bool)
  | exit
  | paste (broadcast active : Bool) (answers : PasteAnswers) (text : Bytes)
  | pasteBuffer (answers : PasteAnswers) (entry : Option Bytes)

def step (pane : PaneInput) : Action → PaneInput
  | .write answers bytes => pane.writeBytes answers bytes
  | .tick answers => { pane with writer := (pane.writer.flush answers).2 }
  | .setBracketed on => { pane with bracketedPaste := on }
  | .exit => { pane with alive := false }
  | .paste broadcast active answers text => pane.processPaste broadcast active answers text
  | .pasteBuffer answers entry => pane.pasteBuffer answers entry

end PaneInput

/-! ## A child that takes its input -/

namespace PtyAnswer

def isAccepting : PtyAnswer → Bool
  | written 0 | failed => false
  | _ => true

/-- What the PTY is ready to take in one flush. -/
def offered : List PtyAnswer → Nat
  | written count :: answers => count + offered answers
  | interrupted :: answers => offered answers
  | _ => 0

end PtyAnswer

/-- The child takes bytes at some rate. -/
def Accepting (answers : List PtyAnswer) : Prop := ∀ answer ∈ answers, answer.isAccepting = true

namespace Answers

def Accepting (answers : Answers) : Prop := Ezpn.Accepting answers.before ∧ Ezpn.Accepting answers.after

end Answers

namespace PaneInput

def PasteAnswers.Accepting (answers : PasteAnswers) : Prop :=
  answers.start.Accepting ∧ answers.text.Accepting ∧ answers.stop.Accepting

def Allowed (_ : PaneInput) : Action → Prop
  | .write answers _ => answers.Accepting
  | .tick answers => Accepting answers
  | .paste _ _ answers _ | .pasteBuffer answers _ => answers.Accepting
  | _ => True

end PaneInput

end Ezpn
