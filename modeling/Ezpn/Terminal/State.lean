import Ezpn.Text

/-!
# Per-pane terminal state

The state of `terminal_state.rs`: DECSET bits, the Kitty keyboard stacks, the
reported working directory and the OSC 52 decision with its confirm queue.
Instants are natural numbers of milliseconds.
-/

set_option autoImplicit false

namespace Ezpn

abbrev Bytes : Type := List UInt8

/-- A byte-string literal. -/
def ascii (s : String) : Bytes := s.toList.map fun c => UInt8.ofNat c.toNat

inductive MouseProtocol where
  | off
  /-- `?9` -/
  | press
  /-- `?1000` -/
  | x10
  /-- `?1002` -/
  | btn
  /-- `?1003` -/
  | any
  deriving DecidableEq, Repr

inductive MouseEncoding where
  | x10
  /-- `?1005` -/
  | utf8
  /-- `?1015` -/
  | urxvt
  /-- `?1006` -/
  | sgr
  deriving DecidableEq, Repr

structure MouseMode where
  protocol : MouseProtocol := .off
  encoding : MouseEncoding := .x10
  deriving DecidableEq, Repr

def MouseMode.isOff (mode : MouseMode) : Bool := mode.protocol = .off

/-! ## Kitty keyboard stack -/

/-- Entries from the bottom up; the active flags are the last entry. -/
structure KittyKbdStack where
  entries : List UInt8 := []
  deriving DecidableEq, Repr

namespace KittyKbdStack

def all : UInt8 := 0b11111

/-- Flags of the top entry, or 0 if empty. -/
def active (stack : KittyKbdStack) : UInt8 := stack.entries.getLast?.getD 0

def maxDepth : Nat := 32

def push (stack : KittyKbdStack) (flags : UInt8) : KittyKbdStack :=
  let kept := if stack.entries.length ≥ maxDepth then stack.entries.drop 1 else stack.entries
  { entries := kept ++ [flags] }

/-- Pop `n` entries, at least one, saturating at empty. -/
def pop (stack : KittyKbdStack) (n : Nat) : KittyKbdStack :=
  { entries := stack.entries.take (stack.entries.length - max n 1) }

/-- Mode 1 sets the top entry, 2 adds bits, 3 removes bits; other modes are ignored. -/
def modifyTop (stack : KittyKbdStack) (flags : UInt8) (mode : Nat) : KittyKbdStack :=
  if mode < 1 || mode > 3 then stack
  else
    let entries := if stack.entries.isEmpty then [0] else stack.entries
    let top := entries.getLast?.getD 0
    let top := if mode = 1 then flags else if mode = 2 then top ||| flags else top &&& ~~~flags
    { entries := entries.dropLast ++ [top] }

end KittyKbdStack

/-! ## OSC 52 policy -/

inductive Osc52SetPolicy where
  | allow
  | confirm
  | deny
  deriving DecidableEq, Repr

inductive Osc52GetPolicy where
  | allow
  | deny
  deriving DecidableEq, Repr

structure ClipboardPolicy where
  set : Osc52SetPolicy := .confirm
  get : Osc52GetPolicy := .deny
  maxBytes : Nat := 1024 * 1024
  deriving DecidableEq, Repr

inductive Osc52Decision where
  | pending
  | allowed
  | denied
  deriving DecidableEq, Repr

/-- A complete OSC 52 sequence ready for forwarding. `origin` is the process
whose output produced it; the code does not keep it. -/
structure Envelope where
  origin : Nat
  bytes : Bytes
  deriving DecidableEq, Repr

/-! ## Colour palette -/

structure Rgb where
  r : UInt8
  g : UInt8
  b : UInt8
  deriving DecidableEq, Repr

/-- The theme colours consulted for OSC 4/10/11/12 queries. -/
structure ThemePalette where
  fg : Option Rgb := none
  bg : Option Rgb := none
  cursor : Option Rgb := none
  palette : Fin 256 → Option Rgb := fun _ => none

def ThemePalette.isActive (theme : ThemePalette) : Bool :=
  theme.fg.isSome || theme.bg.isSome || theme.cursor.isSome ||
    (List.finRange 256).any fun index => (theme.palette index).isSome

/-! ## Aggregate pane state -/

structure PaneTerminalState where
  title : String := ""
  bracketedPaste : Bool := false
  focusReporting : Bool := false
  mouseMode : MouseMode := {}
  kittyKbd : KittyKbdStack := {}
  inactiveKittyKbd : KittyKbdStack := {}
  alternateScreen : Bool := false
  syncOpenedAt : Option Nat := none
  reportedCwd : Option (String × Nat) := none
  osc52Decision : Osc52Decision := .pending
  osc52PendingConfirm : List Envelope := []
  deriving DecidableEq, Repr

namespace PaneTerminalState

def setAlternateScreen (state : PaneTerminalState) (alternate : Bool) : PaneTerminalState :=
  if state.alternateScreen != alternate then
    { state with
      kittyKbd := state.inactiveKittyKbd
      inactiveKittyKbd := state.kittyKbd
      alternateScreen := alternate }
  else state

/-- RIS resets terminal modes, but must not forget a clipboard denial. -/
def resetTerminalModes (state : PaneTerminalState) : PaneTerminalState :=
  { osc52Decision := state.osc52Decision
    osc52PendingConfirm := state.osc52PendingConfirm
    title := state.title }

end PaneTerminalState

end Ezpn
