import Mathlib.Data.List.Sort
import Ezpn.Layout.Geometry
import Ezpn.Lib.Display
import Ezpn.Screen

/-!
# Drawing the cells of a pane

The text that `draw_screen_content_with_matches` writes: runs of plain cells are kept
in a buffer until something else has to be written.
-/

set_option autoImplicit false

namespace Ezpn

/-- A cell with its attributes. -/
structure PaneCell extends Cell where
  fgcolor : Color := .default
  bgcolor : Color := .default
  bold : Bool := false
  italic : Bool := false
  underline : Bool := false
  inverse : Bool := false
  dim : Bool := false
  deriving DecidableEq, Repr

/-- The columns of what a cell shows. -/
def Cell.columns (cell : Cell) : Nat := if cell.wide then 2 else 1

/-- A cell holds one character with its marks, or nothing. -/
structure Cell.Printable (widths : CharWidths) (cell : Cell) : Prop where
  glyph : ∀ base marks, cell.contents = base :: marks →
    widths.width base = some cell.columns ∧ ∀ m ∈ marks, widths.width m = some 0
  full : cell.wide = true → cell.contents ≠ []
  shadow : cell.wideContinuation = true → cell.wide = false

/-- The rows in view, as the parser keeps them: a continuation has its wide cell to the left. -/
structure PaneScreen (widths : CharWidths) where
  rows : List (List PaneCell)
  printable : ∀ row ∈ rows, ∀ cell ∈ row, cell.toCell.Printable widths
  paired : ∀ row ∈ rows, ∀ (col : Nat) (cell : PaneCell), row[col]? = some cell → cell.wideContinuation = true →
    ∃ left cell', col = left + 1 ∧ row[left]? = some cell' ∧ cell'.wide = true

/-- `Screen::cell`. -/
def PaneScreen.cell {widths : CharWidths} (screen : PaneScreen widths) (r c : Nat) : Option PaneCell :=
  screen.rows[r]?.bind fun row => row[c]?

/-- A span of columns that a search has found. -/
structure SearchMatch where
  row : Nat
  col : Nat
  len : Nat
  deriving DecidableEq, Repr

/-- `u16::saturating_add`. -/
def saturatingAdd (a b : Nat) : Nat := min (a + b) u16Max

def SearchMatch.stop (m : SearchMatch) : Nat := saturatingAdd m.col m.len

/-- Sorted by rows, then by columns. -/
def SearchMatch.Sorted (found : List SearchMatch) : Prop :=
  found.Pairwise fun a b => a.row < b.row ∨ (a.row = b.row ∧ a.col ≤ b.col)

/-- From `(sr, sc)` to `(er, ec)`. -/
structure Selected where
  sr : Nat
  sc : Nat
  er : Nat
  ec : Nat
  deriving DecidableEq, Repr

/-- The closure `selected`. -/
def selected (selection : Option Selected) (r column : Nat) : Bool :=
  match selection with
  | none => false
  | some s =>
      if r < s.sr || r > s.er then false
      else if r = s.sr && r = s.er then column ≥ s.sc && column ≤ s.ec
      else if r = s.sr then column ≥ s.sc
      else if r = s.er then column ≤ s.ec
      else true

/-- The colours and attributes of a cell. -/
def PaneCell.style (cell : PaneCell) (isAlive isSelected matchHit : Bool) : Pen where
  fg := if !isAlive then .idx 8 else if matchHit then .idx 0 else cell.fgcolor
  bg := if matchHit then .idx 3 else cell.bgcolor
  bold := isAlive && cell.bold
  italic := isAlive && cell.italic
  underline := isAlive && cell.underline
  reverse := Bool.xor (isAlive && cell.inverse) isSelected
  dim := isAlive && cell.dim

/-! ## Sequences -/

/-- `cursor::MoveTo`. -/
def moveToText (x y : Nat) : List Char := Display.csiText [y + 1, x + 1] 'H'

/-- `SetAttribute(Attribute::Reset)`, and `ResetColor`. -/
def resetText : List Char := Display.csiText [0] 'm'

def writePaneColor (color : Color) (foreground : Bool) : List Char :=
  let slot := if foreground then 38 else 48
  match color with
  | .default => Display.csiText [slot + 1] 'm'
  | .idx i => Display.csiText [slot, 5, i.toNat] 'm'
  | .rgb r g b => Display.csiText [slot, 2, r.toNat, g.toNat, b.toNat] 'm'

/-- The attributes that are set, in the order of the source. -/
def attributeCodes (style : Pen) : List Nat :=
  (if style.bold then [1] else []) ++ (if style.italic then [3] else []) ++ (if style.underline then [4] else []) ++
    (if style.reverse then [7] else []) ++ if style.dim then [2] else []

def styleText (style : Pen) : List Char :=
  resetText ++ writePaneColor style.fg true ++ writePaneColor style.bg false ++
    (attributeCodes style).flatMap fun code => Display.csiText [code] 'm'

/-! ## The loops -/

/-- The locals, with what has been written. -/
structure Painter where
  out : List Char
  buf : List Char := []
  lastStyle : Option Pen := none
  matchIndex : Nat := 0

section Draw
variable {widths : CharWidths} (screen : PaneScreen widths) (rect : Rect) (isAlive : Bool) (selection : Option Selected)
  (found : List SearchMatch)

def isAscii (contents : List Char) : Bool := contents.all fun c => c.toNat < 128

/-- The cell at the cursor of the matches. -/
def matchHit (r c columns : Nat) (m : SearchMatch) : Bool :=
  m.row = r && 0 < m.len && m.col < saturatingAdd c columns && m.stop > c

/-- Matches of the row that end before a column are skipped. -/
def skipMatches (r c index : Nat) : Nat :=
  index + ((found.drop index).takeWhile fun m => m.row = r && m.stop ≤ c).length

def Painter.missing (painter : Painter) : Painter :=
  let painter :=
    if painter.lastStyle.isSome then
      { painter with out := painter.out ++ painter.buf ++ resetText ++ resetText, buf := [], lastStyle := none }
    else painter
  { painter with buf := painter.buf ++ [' '] }

def Painter.setStyle (style : Pen) (painter : Painter) : Painter :=
  if painter.lastStyle = some style then painter
  else { painter with out := painter.out ++ painter.buf ++ styleText style, buf := [], lastStyle := some style }

def Painter.contents (r c : Nat) (cell : Cell) (painter : Painter) : Painter :=
  if cell.contents = [] || (cell.wide && c + 1 ≥ rect.w) then { painter with buf := painter.buf ++ [' '] }
  else if isAscii cell.contents then { painter with buf := painter.buf ++ cell.contents }
  else
    -- What comes next is placed again, wherever a terminal has left its cursor.
    let out := painter.out ++ painter.buf ++ (moveToText (rect.x + c) (rect.y + r) ++ cell.contents)
    let next := c + cell.columns
    { painter with
      out := if next < rect.w then out ++ moveToText (rect.x + next) (rect.y + r) else out
      buf := [] }

def Painter.cell (r c : Nat) (painter : Painter) : Painter :=
  match screen.cell r c with
  | none => painter.missing
  | some cell =>
      if cell.wideContinuation then painter
      else
        let isSelected := selected selection r c || (cell.wide && selected selection r (c + 1))
        let matchIndex := skipMatches found r c painter.matchIndex
        let hit := (found[matchIndex]?.map (matchHit r c cell.columns)).getD false
        let painter := { painter with matchIndex }
        (painter.setStyle (cell.style isAlive isSelected hit)).contents rect r c cell.toCell

/-- The index that `partition_point` finds among sorted matches. -/
def partitionPoint (r : Nat) : Nat := (found.takeWhile fun m => m.row < r).length

def Painter.startRow (r : Nat) (painter : Painter) : Painter :=
  { painter with out := painter.out ++ moveToText rect.x (rect.y + r), buf := [], matchIndex := partitionPoint found r }

def Painter.row (r : Nat) (painter : Painter) : Painter :=
  let painter := (List.range rect.w).foldl (fun painter c => painter.cell screen rect isAlive selection found r c)
    (painter.startRow rect found r)
  { painter with out := painter.out ++ painter.buf, buf := [] }

def drawScreenContentWithMatches : List Char :=
  if rect.w = 0 || rect.h = 0 then []
  else
    let start : Painter := { out := resetText ++ resetText }
    let painter := (List.range rect.h).foldl (fun painter r => painter.row screen rect isAlive selection found r) start
    painter.out ++ resetText ++ resetText

/-! ## What is to be shown -/

/-- The first match of the row that goes on after a column decides. -/
def hit (r c columns : Nat) : Bool :=
  match found.find? fun m => m.row = r && m.stop > c with
  | none => false
  | some m => 0 < m.len && m.col < saturatingAdd c columns

/-- The style of a cell. -/
def computedStyle (r c : Nat) (cell : PaneCell) : Pen :=
  cell.style isAlive (selected selection r c || (cell.wide && selected selection r (c + 1))) (hit found r c cell.columns)

/-- What a cell of the rectangle shows. -/
def shownAt (r c : Nat) : Shown :=
  match screen.cell r c with
  | none => .blank {}
  | some cell =>
      let style := computedStyle isAlive selection found r c cell
      if cell.wideContinuation then
        match screen.cell r (c - 1) with
        | none => .rest style
        | some left => .rest (computedStyle isAlive selection found r (c - 1) left)
      else if cell.contents = [] || (cell.wide && c + 1 ≥ rect.w) then .blank style
      else .glyph cell.contents style

end Draw

end Ezpn
