import Ezpn.Emulator.Grid

/-!
# The parser's screen

`vt100/screen.rs`: printed text, controls, escape and CSI sequences, and the two
grids. What no sequence is implemented for goes to callbacks that do nothing.
-/

set_option autoImplicit false

namespace Ezpn.Emulator

inductive MouseProtocolMode where
  | none | press | pressRelease | buttonMotion | anyMotion
  deriving DecidableEq, Repr

inductive MouseProtocolEncoding where
  | default | utf8 | sgr
  deriving DecidableEq, Repr

/-- The bits of `modes`. -/
structure Modes where
  applicationKeypad : Bool := false
  applicationCursor : Bool := false
  hideCursor : Bool := false
  alternateScreen : Bool := false
  bracketedPaste : Bool := false
  deriving DecidableEq, Repr

structure Screen where
  main : Grid
  alternate : Grid
  attrs : Attrs := {}
  savedAttrs : Attrs := {}
  modes : Modes := {}
  mouseProtocolMode : MouseProtocolMode := .none
  mouseProtocolEncoding : MouseProtocolEncoding := .default
  deriving DecidableEq, Repr

namespace Screen

def new (size : Size) (scrollbackLen : Nat) : Screen :=
  { main := (Grid.new size scrollbackLen).allocateRows, alternate := .new size 0 }

/-- The grid in use. -/
def grid (screen : Screen) : Grid := if screen.modes.alternateScreen then screen.alternate else screen.main

/-- `grid_mut` and what is done to it. -/
def onGrid (f : Grid → Grid) (screen : Screen) : Screen :=
  if screen.modes.alternateScreen then { screen with alternate := f screen.alternate }
  else { screen with main := f screen.main }

def tryGrid (f : Grid → Option Grid) (screen : Screen) : Option Screen :=
  if screen.modes.alternateScreen then (f screen.alternate).map fun alternate => { screen with alternate }
  else (f screen.main).map fun main => { screen with main }

def setSize (rows cols : Nat) (screen : Screen) : Screen :=
  { screen with main := screen.main.setSize { rows, cols }, alternate := screen.alternate.setSize { rows, cols } }

def setScrollback (rows : Nat) (screen : Screen) : Screen := screen.onGrid (.setScrollback rows)

/-! ## Text -/

/-- Add a zero-width character to the one that ends in a column. -/
def join (c : Char) (last : Nat) (row : Row) : Option Row := do
  let cell ← row.cells[last]?
  let col ← (if cell.wideContinuation then Checked.sub last 1 else some last)
  row.update col (.append c)

/-- The character before the cursor may be on a row that has wrapped. -/
def combine (c : Char) (grid : Grid) : Option Grid :=
  if grid.pos.col > 0 then grid.updateRow grid.pos.row (join c (grid.pos.col - 1))
  else if grid.pos.row > 0 then do
    let prevRow ← grid.drawingRow (grid.pos.row - 1)
    if prevRow.wrapped then grid.updateRow (grid.pos.row - 1) (join c (grid.size.cols - 1)) else some grid
  else some grid

/-- Whether a character that does not fit leaves its row by wrapping. -/
def wraps (columns : Nat) (grid : Grid) : Option Bool := do
  let room ← Checked.sub grid.size.cols columns
  if grid.pos.col > room then do
    let lastCell ← grid.drawingCell { row := grid.pos.row, col := grid.size.cols - 1 }
    some (lastCell.contents != [] || lastCell.wideContinuation || columns > 1)
  else some false

def drawText (width : Width) (attrs : Attrs) (c : Char) (grid : Grid) : Option Grid := do
  let wrap ← wraps (width.columns c) grid
  let grid ← grid.colWrap (width.columns c) wrap
  if width.columns c = 0 then combine c grid
  else do
    let drawn ← grid.updateRow grid.pos.row (Row.place width c attrs grid.size.cols grid.pos.col)
    some (if width.columns c > 1 then (drawn.colInc 1).colInc 1 else drawn.colInc 1)

/-- Control characters and characters that are wider than the screen are not drawn. -/
def text (width : Width) (c : Char) (screen : Screen) : Option Screen :=
  if width c = none ∧ c.toNat < 256 then some screen
  else if width.columns c > screen.grid.size.cols then some screen
  else screen.tryGrid (drawText width screen.attrs c)

/-! ## Modes -/

def enterAlternateGrid (screen : Screen) : Screen :=
  let screen := screen.onGrid (.setScrollback 0)
  { screen with
    modes := { screen.modes with alternateScreen := true }
    alternate := screen.alternate.allocateRows }

def exitAlternateGrid (screen : Screen) : Screen :=
  { screen with modes := { screen.modes with alternateScreen := false } }

/-- `save_cursor` -/
def decsc (screen : Screen) : Screen := { screen.onGrid .saveCursor with savedAttrs := screen.attrs }

/-- `restore_cursor` -/
def decrc (screen : Screen) : Screen := { screen.onGrid .restoreCursor with attrs := screen.savedAttrs }

def clearMouseMode (mode : MouseProtocolMode) (screen : Screen) : Screen :=
  if screen.mouseProtocolMode = mode then { screen with mouseProtocolMode := .none } else screen

def clearMouseEncoding (encoding : MouseProtocolEncoding) (screen : Screen) : Screen :=
  if screen.mouseProtocolEncoding = encoding then { screen with mouseProtocolEncoding := .default } else screen

def ris (screen : Screen) : Screen := new screen.main.size screen.main.scrollbackLen

/-- One parameter of `decset`. -/
def decsetParam (screen : Screen) : List Nat → Screen
  | [1] => { screen with modes := { screen.modes with applicationCursor := true } }
  | [6] => screen.onGrid (.setOriginMode true)
  | [9] => { screen with mouseProtocolMode := .press }
  | [25] => { screen with modes := { screen.modes with hideCursor := false } }
  | [47] => screen.enterAlternateGrid
  | [1000] => { screen with mouseProtocolMode := .pressRelease }
  | [1002] => { screen with mouseProtocolMode := .buttonMotion }
  | [1003] => { screen with mouseProtocolMode := .anyMotion }
  | [1005] => { screen with mouseProtocolEncoding := .utf8 }
  | [1006] => { screen with mouseProtocolEncoding := .sgr }
  | [1049] =>
      let saved := screen.decsc
      enterAlternateGrid { saved with alternate := saved.alternate.clear }
  | [2004] => { screen with modes := { screen.modes with bracketedPaste := true } }
  | _ => screen

def decset (params : List (List Nat)) (screen : Screen) : Screen := params.foldl decsetParam screen

/-- One parameter of `decrst`. -/
def decrstParam (screen : Screen) : List Nat → Screen
  | [1] => { screen with modes := { screen.modes with applicationCursor := false } }
  | [6] => screen.onGrid (.setOriginMode false)
  | [9] => screen.clearMouseMode .press
  | [25] => { screen with modes := { screen.modes with hideCursor := true } }
  | [47] => screen.exitAlternateGrid
  | [1000] => screen.clearMouseMode .pressRelease
  | [1002] => screen.clearMouseMode .buttonMotion
  | [1003] => screen.clearMouseMode .anyMotion
  | [1005] => screen.clearMouseEncoding .utf8
  | [1006] => screen.clearMouseEncoding .sgr
  | [1049] => screen.exitAlternateGrid.decrc
  | [2004] => { screen with modes := { screen.modes with bracketedPaste := false } }
  | _ => screen

def decrst (params : List (List Nat)) (screen : Screen) : Screen := params.foldl decrstParam screen

/-! ## Attributes -/

def u16ToU8 (i : Nat) : Option Nat := if i > 255 then none else some i

def rgb (r g b : Nat) : Option Color := do return .rgb (← u16ToU8 r) (← u16ToU8 g) (← u16ToU8 b)

/-- A parameter of `sgr` that stands alone; `none` for what is not implemented. -/
def sgrParam (attrs : Attrs) : List Nat → Option Attrs
  | [0] => some {}
  | [1] => some { attrs with intensity := .bold }
  | [2] => some { attrs with intensity := .dim }
  | [3] => some { attrs with italic := true }
  | [4] => some { attrs with underline := true }
  | [7] => some { attrs with inverse := true }
  | [22] => some { attrs with intensity := .normal }
  | [23] => some { attrs with italic := false }
  | [24] => some { attrs with underline := false }
  | [27] => some { attrs with inverse := false }
  | [39] => some { attrs with fgcolor := .default }
  | [49] => some { attrs with bgcolor := .default }
  | [n] =>
      if 30 ≤ n ∧ n ≤ 37 then some { attrs with fgcolor := .idx (n - 30) }
      else if 40 ≤ n ∧ n ≤ 47 then some { attrs with bgcolor := .idx (n - 40) }
      else if 90 ≤ n ∧ n ≤ 97 then some { attrs with fgcolor := .idx (n - 82) }
      else if 100 ≤ n ∧ n ≤ 107 then some { attrs with bgcolor := .idx (n - 92) }
      else none
  | _ => none

/-- The loop of `sgr`. It returns where a color is not complete or not of 8 bits. -/
def sgrLoop (attrs : Attrs) : List (List Nat) → Attrs
  | [] => attrs
  | [38, 2, r, g, b] :: rest =>
      match rgb r g b with
      | some color => sgrLoop { attrs with fgcolor := color } rest
      | none => attrs
  | [38, 5, i] :: rest =>
      match u16ToU8 i with
      | some i => sgrLoop { attrs with fgcolor := .idx i } rest
      | none => attrs
  | [38] :: [2] :: [r] :: [g] :: [b] :: rest =>
      match rgb r g b with
      | some color => sgrLoop { attrs with fgcolor := color } rest
      | none => attrs
  | [38] :: [5] :: [i] :: rest =>
      match u16ToU8 i with
      | some i => sgrLoop { attrs with fgcolor := .idx i } rest
      | none => attrs
  | [38] :: _ => attrs
  | [48, 2, r, g, b] :: rest =>
      match rgb r g b with
      | some color => sgrLoop { attrs with bgcolor := color } rest
      | none => attrs
  | [48, 5, i] :: rest =>
      match u16ToU8 i with
      | some i => sgrLoop { attrs with bgcolor := .idx i } rest
      | none => attrs
  | [48] :: [2] :: [r] :: [g] :: [b] :: rest =>
      match rgb r g b with
      | some color => sgrLoop { attrs with bgcolor := color } rest
      | none => attrs
  | [48] :: [5] :: [i] :: rest =>
      match u16ToU8 i with
      | some i => sgrLoop { attrs with bgcolor := .idx i } rest
      | none => attrs
  | [48] :: _ => attrs
  | param :: rest => sgrLoop ((sgrParam attrs param).getD attrs) rest

def sgr (params : List (List Nat)) (screen : Screen) : Screen :=
  if params = [] then { screen with attrs := {} } else { screen with attrs := sgrLoop screen.attrs params }

end Screen

/-! ## What the `vte` crate calls -/

/-- The calls of `vte::Perform` that do anything here. -/
inductive Call where
  | print (c : Char)
  | execute (b : Nat)
  | escDispatch (intermediates : List Nat) (b : Nat)
  | csiDispatch (params : List (List Nat)) (intermediates : List Nat) (c : Char)
  | oscDispatch (params : List (List Nat))
  deriving DecidableEq, Repr

/-- A parameter of a sequence: the first number of each group, with a default for zero. -/
def canonicalizeParam (params : List (List Nat)) (n default : Nat) : Nat :=
  let value := ((params[n]?).bind List.head?).getD 0
  if value = 0 then default else value

namespace Screen

/-- `print` of `vt100/perform.rs`. -/
def print (width : Width) (c : Char) (screen : Screen) : Option Screen :=
  if c = '\uFFFD' ∨ (0x80 ≤ c.toNat ∧ c.toNat < 0xA0) then some screen else screen.text width c

def execute (b : Nat) (screen : Screen) : Option Screen :=
  match b with
  | 8 => some (screen.onGrid (.colDec 1))
  | 9 => some (screen.onGrid .colTab)
  | 10 | 11 | 12 => screen.tryGrid fun grid => (grid.rowIncScroll 1).map Prod.fst
  | 13 => some (screen.onGrid (.colSet 0))
  | _ => some screen

def escDispatch (intermediates : List Nat) (b : Nat) (screen : Screen) : Option Screen :=
  if intermediates ≠ [] then some screen
  else if b = 0x37 then some screen.decsc
  else if b = 0x38 then some screen.decrc
  else if b = 0x3D then some { screen with modes := { screen.modes with applicationKeypad := true } }
  else if b = 0x3E then some { screen with modes := { screen.modes with applicationKeypad := false } }
  else if b = 0x4D then screen.tryGrid (Grid.rowDecScroll 1)
  else if b = 0x63 then some screen.ris
  else some screen

/-- `ed` and `decsed`. -/
def ed (mode : Nat) (screen : Screen) : Option Screen :=
  match mode with
  | 0 => screen.tryGrid (Grid.eraseAllForward screen.attrs)
  | 1 => screen.tryGrid (Grid.eraseAllBackward screen.attrs)
  | 2 => some (screen.onGrid (.eraseAll screen.attrs))
  | _ => some screen

/-- `el` and `decsel`. -/
def el (mode : Nat) (screen : Screen) : Option Screen :=
  match mode with
  | 0 => screen.tryGrid (Grid.eraseRowForward screen.attrs)
  | 1 => screen.tryGrid (Grid.eraseRowBackward screen.attrs)
  | 2 => screen.tryGrid (Grid.eraseRow screen.attrs)
  | _ => some screen

/-- A sequence without intermediates. -/
def csi (params : List (List Nat)) (c : Char) (screen : Screen) : Option Screen :=
  let one := canonicalizeParam params 0 1
  let mode := canonicalizeParam params 0 0
  match c with
  | '@' => screen.tryGrid (Grid.insertCells one)
  | 'A' => some (screen.onGrid (.rowDecClamp one))
  | 'B' => some (screen.onGrid (.rowIncClamp one))
  | 'C' => some (screen.onGrid (.colIncClamp one))
  | 'D' => some (screen.onGrid (.colDec one))
  | 'E' => some (screen.onGrid fun grid => (grid.colSet 0).rowIncClamp one)
  | 'F' => some (screen.onGrid fun grid => (grid.colSet 0).rowDecClamp one)
  | 'G' => do
      let col ← Checked.sub one 1
      some (screen.onGrid (.colSet col))
  | 'H' => do
      let row ← Checked.sub one 1
      let col ← Checked.sub (canonicalizeParam params 1 1) 1
      some (screen.onGrid (.setPos { row, col }))
  | 'J' => screen.ed mode
  | 'K' => screen.el mode
  | 'L' => screen.tryGrid (Grid.insertLines one)
  | 'M' => screen.tryGrid (Grid.deleteLines one)
  | 'P' => screen.tryGrid (Grid.deleteCells one)
  | 'S' => screen.tryGrid (Grid.scrollUp one)
  | 'T' => screen.tryGrid (Grid.scrollDown one)
  | 'X' => screen.tryGrid (Grid.eraseCells one screen.attrs)
  | 'd' => do
      let row ← Checked.sub one 1
      some (screen.onGrid (.rowSet row))
  | 'm' => some (screen.sgr params)
  | 'r' => do
      let top ← Checked.sub one 1
      let bottom ← Checked.sub (canonicalizeParam params 1 screen.grid.size.rows) 1
      some (screen.onGrid (.setScrollRegion top bottom))
  | _ => some screen

/-- A sequence that starts with `?`. -/
def csiPrivate (params : List (List Nat)) (c : Char) (screen : Screen) : Option Screen :=
  match c with
  | 'J' => screen.ed (canonicalizeParam params 0 0)
  | 'K' => screen.el (canonicalizeParam params 0 0)
  | 'h' => some (screen.decset params)
  | 'l' => some (screen.decrst params)
  | _ => some screen

def csiDispatch (params : List (List Nat)) (intermediates : List Nat) (c : Char) (screen : Screen) : Option Screen :=
  match intermediates.head? with
  | none => screen.csi params c
  | some 0x3F => screen.csiPrivate params c
  | some _ => some screen

/-- What one call does. The callbacks of the parser that panes use do nothing. -/
def perform (width : Width) (screen : Screen) : Call → Option Screen
  | .print c => screen.print width c
  | .execute b => screen.execute b
  | .escDispatch intermediates b => screen.escDispatch intermediates b
  | .csiDispatch params intermediates c => screen.csiDispatch params intermediates c
  | .oscDispatch _ => some screen

end Screen

end Ezpn.Emulator
