import Ezpn.Terminal.Lexeme
import Ezpn.Terminal.Timing

/-!
# The interceptor as a filter

The reads of one stream, taken at arbitrary times, add up to the uncut stream;
what the display parser receives is safe and carries no string payload.
-/

set_option autoImplicit false

namespace Ezpn

/-- The reads of a child's output, each with the time it happened. -/
def interceptReads (env : InterceptEnv) : InterceptCtx → List (Nat × Bytes) → InterceptCtx × Bytes :=
  Transducer.runReads fun now => interceptByte { env with now }

/-- However a stream is cut into reads, the output and, timestamps aside, the
final state are those of the uncut stream. -/
theorem interceptReads_uncut (env : InterceptEnv) (start : InterceptCtx) (now : Nat) (reads : List (Nat × Bytes)) :
    (interceptReads env start reads).2 = (interceptChunk { env with now } start (reads.flatMap (·.2))).2 ∧
      (interceptReads env start reads).1.untimed =
        (interceptChunk { env with now } start (reads.flatMap (·.2))).1.untimed := by
  have agree (now' : Nat) (ctx ctx' : InterceptCtx) (byte : UInt8) (_ : True) (same : ctx.untimed = ctx'.untimed) :
      (interceptByte { env with now := now' } ctx byte).1.untimed =
          (interceptByte { env with now } ctx' byte).1.untimed ∧
        (interceptByte { env with now := now' } ctx byte).2 = (interceptByte { env with now } ctx' byte).2 :=
    interceptByte_same_untimed rfl same
  have unchanged : start.untimed = start.untimed := rfl
  obtain ⟨state, output⟩ := Transducer.runReads_related (fun ctx ctx' : InterceptCtx => ctx.untimed = ctx'.untimed)
    (fun _ => True) agree unchanged (fun read (_ : read ∈ reads) => trivial)
  exact ⟨output, state⟩

/-- What the interceptor has done after reading `front` of a child's output. -/
def afterBytes (env : InterceptEnv) (state : PaneTerminalState) (forward : List Envelope) (front : Bytes) :
    InterceptCtx :=
  (interceptChunk env { state, osc52Pending := forward } front).1

/-- For every stream, cut into reads at any times: the cut does not matter; every
ESC of the output begins a dispatched escape, a complete CSI sequence or a
complete title of at most 8192 bytes, emitted by one step; read as lexemes, a
string command contributes nothing but the cancel that ends it and an OSC
nothing but a title; and the retained buffer stays within its bounds. -/
theorem interceptReads_filters (env : InterceptEnv) (state : PaneTerminalState) (forward : List Envelope) (now : Nat)
    (reads : List (Nat × Bytes)) :
    let start : InterceptCtx := { state, osc52Pending := forward }
    let stream := reads.flatMap (·.2)
    let env := { env with now }
    let output := (interceptReads env start reads).2
    (output = (interceptChunk env start stream).2 ∧
        (interceptReads env start reads).1.untimed = (interceptChunk env start stream).1.untimed) ∧
      (∀ front rest, output = front ++ 0x1B :: rest → FollowsEscape rest) ∧
      (∀ front b, front ++ [b] <+: stream →
        DisplayOutput (interceptByte env (afterBytes env state forward front) b).2) ∧
      (lexemes false stream).flatMap Lexeme.source = stream ∧
      (∃ outs, List.Forall₂ Lexeme.Emits (lexemes false stream) outs ∧ output = outs.flatten) ∧
      ∀ front, front <+: stream →
        (afterBytes env state forward front).parser.buffer.length ≤ oscPayloadMax ∧
          ((afterBytes env state forward front).parser.mode = .csi →
            (afterBytes env state forward front).parser.buffer.length ≤ 256) ∧
          ((afterBytes env state forward front).parser.mode ≠ .csi →
            (afterBytes env state forward front).parser.mode ≠ .osc →
              (afterBytes env state forward front).parser.buffer = []) := by
  intro start stream env output
  have uncut := interceptReads_uncut env start now reads
  have clean : start.parser.Bounded := .start .ground
  have bounded (front : Bytes) : (afterBytes env state forward front).parser.Bounded :=
    interceptChunk_bounded clean front
  refine ⟨uncut, ?_, ?_, lexemes_source false stream, ?_, ?_⟩
  · intro front rest shape
    have display : DisplayOutput (interceptChunk env start stream).2 := interceptChunk_display clean stream
    exact display.after_escape (uncut.1.symm.trans shape)
  · intro front b _
    exact interceptByte_display (bounded front)
  · obtain ⟨outs, emits, whole⟩ := interceptChunk_lexemes env start false stream rfl clean
    exact ⟨outs, emits, uncut.1.trans whole⟩
  · intro front _
    exact ⟨(bounded front).length_le, fun csi => ((bounded front).csi csi).1, (bounded front).idle⟩

/-- A stream cut inside a DCS, an OSC title and a multi-byte character. -/
example :
    (interceptReads {} {}
      [(0, ascii "a\x1bPsec"), (9, ascii "ret\x1b\\\x1b]0;t"), (3, [0xC3]), (4, [0x9C, 0x07, 0x62])]).2 =
      ascii "a\x1b]0;t" ++ [0xC3, 0x9C, 0x07, 0x62] := by
  decide +kernel

end Ezpn
