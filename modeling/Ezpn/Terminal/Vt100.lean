import Ezpn.Terminal.Display

/-!
# The display parser's screen

The alternate-screen bit of `vt100/screen.rs` and `vt100/perform.rs`. The `vte`
crate in front of it is a parameter: what it calls the performer with, for each
item that the interceptor lets through.
-/

set_option autoImplicit false

namespace Ezpn

/-- The calls of `vte::Perform`. -/
inductive Perform where
  | print (text : Bytes)
  | execute (b : UInt8)
  | oscDispatch (payload : Bytes)
  | escDispatch (intermediates : Bytes) (b : UInt8)
  | csiDispatch (params : List (List Nat)) (intermediates : Bytes) (c : UInt8)
  deriving DecidableEq, Repr

/-- Calls that no sequence was dispatched for. -/
def Perform.Inert : Perform → Prop
  | print _ | execute _ | oscDispatch _ => True
  | escDispatch _ _ | csiDispatch _ _ _ => False

/-! ## The alternate screen -/

/-- `decset` and `decrst`, as far as the alternate screen goes. -/
def setScreen (on : Bool) (alternate : Bool) (param : List Nat) : Bool :=
  if param = [47] || param = [1049] then on else alternate

def Perform.screen (alternate : Bool) : Perform → Bool
  | print _ | execute _ | oscDispatch _ => alternate
  | escDispatch intermediates b => if intermediates.isEmpty && b == 0x63 then false else alternate
  | csiDispatch params intermediates c =>
      if intermediates.head? = some 0x3F && c == 0x68 then params.foldl (setScreen true) alternate
      else if intermediates.head? = some 0x3F && c == 0x6C then params.foldl (setScreen false) alternate
      else alternate

def performAll (alternate : Bool) (calls : List Perform) : Bool := calls.foldl Perform.screen alternate

theorem performAll_append (alternate : Bool) (front back : List Perform) :
    performAll alternate (front ++ back) = performAll (performAll alternate front) back := by
  simp only [performAll, List.foldl_append]

theorem performAll_inert {calls : List Perform} (inert : ∀ call ∈ calls, call.Inert) (alternate : Bool) :
    performAll alternate calls = alternate := by
  induction calls with
  | nil => rfl
  | cons call calls ih =>
      have rest := ih fun other member => inert other (List.mem_cons_of_mem _ member)
      have first := inert call (List.mem_cons_self ..)
      have kept : call.screen alternate = alternate := by
        cases call with
        | print _ | execute _ | oscDispatch _ => rfl
        | escDispatch _ _ | csiDispatch _ _ _ => exact first.elim
      simpa only [performAll, List.foldl_cons, kept] using rest

/-! ## The parser in front of it -/

/-- A decimal parameter; an empty one is 0. -/
def digitsValue (digits : Bytes) : Nat := digits.foldl (fun value b => value * 10 + (b.toNat - 0x30)) 0

/-- A byte that ends an escape sequence without introducing a longer one. -/
def IsEscapeFinal (b : UInt8) : Prop := 0x30 ≤ b ∧ IsDispatch b

/-- The parser of the `vte` crate: between sequences (`ready`) or after ESC and
intermediates (`collecting`). `readCsi` is its reading of a CSI body into
parameters and intermediates, `none` where the sequence is ignored. -/
structure Vte where
  State : Type
  start : State
  advance : State → UInt8 → State × List Perform
  ready : State → Prop
  collecting : State → Prop
  readCsi : Bytes → Option (List (List Nat) × Bytes)
  start_ready : ready start
  plain {s : State} {b : UInt8} : ready s → b ≠ 0x1B →
    ready (advance s b).1 ∧ ∀ call ∈ (advance s b).2, call.Inert
  escape {s : State} {b : UInt8} : ready s → IsEscapeFinal b →
    ready (Transducer.run advance s [0x1B, b]).1 ∧ ∃ before, (∀ call ∈ before, call.Inert) ∧
      (Transducer.run advance s [0x1B, b]).2 = before ++ [.escDispatch [] b]
  collect {s : State} {b : UInt8} : ready s → 0x20 ≤ b ∧ b ≤ 0x2F →
    collecting (Transducer.run advance s [0x1B, b]).1 ∧
      ∀ call ∈ (Transducer.run advance s [0x1B, b]).2, call.Inert
  collected {s : State} {b : UInt8} : collecting s → 0x30 ≤ b ∧ b ≤ 0x7E →
    ready (advance s b).1 ∧ ∃ intermediate intermediates,
      (advance s b).2 = [.escDispatch (intermediate :: intermediates) b]
  cancelled {s : State} {b : UInt8} : collecting s → isCancel b = true →
    ready (advance s b).1 ∧ ∀ call ∈ (advance s b).2, call.Inert
  collects {s : State} {b : UInt8} : collecting s → isCancel b = false → b ≠ 0x1B → ¬ (0x30 ≤ b ∧ b ≤ 0x7E) →
    collecting (advance s b).1 ∧ ∀ call ∈ (advance s b).2, call.Inert
  csi {s : State} {body : Bytes} {final : UInt8} : ready s → (∀ b ∈ body, 0x20 ≤ b ∧ b ≤ 0x3F) →
    0x40 ≤ final ∧ final ≤ 0x7E →
    ready (Transducer.run advance s (0x1B :: 0x5B :: (body ++ [final]))).1 ∧
      ∃ before, (∀ call ∈ before, call.Inert) ∧
        (Transducer.run advance s (0x1B :: 0x5B :: (body ++ [final]))).2 =
          before ++ ((readCsi body).map fun read => Perform.csiDispatch read.1 read.2 final).toList
  title {s : State} {payload : Bytes} : ready s → isTitlePayload payload = true → (∀ b ∈ payload, 0x20 ≤ b) →
    ready (Transducer.run advance s (0x1B :: 0x5D :: (payload ++ [0x07]))).1 ∧
      ∀ call ∈ (Transducer.run advance s (0x1B :: 0x5D :: (payload ++ [0x07]))).2, call.Inert
  /-- a private sequence of one number, which saturates -/
  readCsi_private {digits : Bytes} : digits.all isAsciiDigit = true →
    readCsi (0x3F :: digits) = some ([[min (digitsValue digits) 65535]], [0x3F])

namespace Vte
variable (vte : Vte)

/-- One item from a parser between sequences, and what it does to the screen. -/
theorem csi_screen {s : vte.State} {body : Bytes} {final : UInt8} (ready : vte.ready s)
    (params : ∀ b ∈ body, 0x20 ≤ b ∧ b ≤ 0x3F) (dispatch : 0x40 ≤ final ∧ final ≤ 0x7E) (alternate : Bool) :
    vte.ready (Transducer.run vte.advance s (0x1B :: 0x5B :: (body ++ [final]))).1 ∧
      performAll alternate (Transducer.run vte.advance s (0x1B :: 0x5B :: (body ++ [final]))).2 =
        match vte.readCsi body with
        | some (params, intermediates) => (Perform.csiDispatch params intermediates final).screen alternate
        | none => alternate := by
  obtain ⟨next, before, inert, calls⟩ := vte.csi ready params dispatch
  refine ⟨next, ?_⟩
  rw [calls, performAll_append, performAll_inert inert]
  cases vte.readCsi body with
  | none => rfl
  | some read => rfl

end Vte

end Ezpn
