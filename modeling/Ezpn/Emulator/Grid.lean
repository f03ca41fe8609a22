import Ezpn.Emulator.Rows

/-!
# The parser's grid

`vt100/grid.rs`, as far as it changes the grid. `none` is a panic: an index outside,
nothing to unwrap, or a difference below zero. The differences `rows - 1` and
`cols - 1` are those of a grid with at least one cell.
-/

set_option autoImplicit false

namespace Ezpn.Emulator

structure Size where
  rows : Nat
  cols : Nat
  deriving DecidableEq, Repr

structure Pos where
  row : Nat := 0
  col : Nat := 0
  deriving DecidableEq, Repr

structure Grid where
  size : Size
  pos : Pos := {}
  savedPos : Pos := {}
  rows : List Row := []
  scrollTop : Nat := 0
  scrollBottom : Nat
  originMode : Bool := false
  savedOriginMode : Bool := false
  scrollback : List Row := []
  scrollbackLen : Nat
  scrollbackOffset : Nat := 0
  deriving DecidableEq, Repr

/-- Sums of `u16` that stop at its largest value. -/
def saturatingAdd (a b : Nat) : Nat := min (a + b) u16Max

namespace Grid

/-- No rows are allocated yet. -/
def new (size : Size) (scrollbackLen : Nat) : Grid := { size, scrollBottom := size.rows - 1, scrollbackLen }

def newRow (grid : Grid) : Row := .new grid.size.cols

def allocateRows (grid : Grid) : Grid :=
  if grid.rows = [] then { grid with rows := List.replicate grid.size.rows grid.newRow } else grid

def clear (grid : Grid) : Grid :=
  { grid with
    pos := {}
    savedPos := {}
    rows := grid.rows.map (.clear {})
    scrollTop := 0
    scrollBottom := grid.size.rows - 1
    originMode := false
    savedOriginMode := false }

/-! ## Where the cursor may be -/

/-- With the number of rows that the cursor was above the region. -/
def rowClampTop (limitToScrollRegion : Bool) (grid : Grid) : Grid × Nat :=
  if limitToScrollRegion ∧ grid.pos.row < grid.scrollTop then
    ({ grid with pos := { grid.pos with row := grid.scrollTop } }, grid.scrollTop - grid.pos.row)
  else (grid, 0)

/-- With the number of rows that the cursor was below the last one. -/
def rowClampBottom (limitToScrollRegion : Bool) (grid : Grid) : Grid × Nat :=
  let bottom := if limitToScrollRegion then grid.scrollBottom else grid.size.rows - 1
  if grid.pos.row > bottom then ({ grid with pos := { grid.pos with row := bottom } }, grid.pos.row - bottom)
  else (grid, 0)

def rowClamp (grid : Grid) : Grid :=
  if grid.pos.row > grid.size.rows - 1 then { grid with pos := { grid.pos with row := grid.size.rows - 1 } } else grid

def colClamp (grid : Grid) : Grid :=
  if grid.pos.col > grid.size.cols - 1 then { grid with pos := { grid.pos with col := grid.size.cols - 1 } } else grid

def inScrollRegion (grid : Grid) : Bool := grid.pos.row ≥ grid.scrollTop && grid.pos.row ≤ grid.scrollBottom

def scrollRegionActive (grid : Grid) : Bool := grid.scrollTop != 0 || grid.scrollBottom != grid.size.rows - 1

/-- Every row takes on the width, and there are as many as the height asks for. -/
def resizeRows (size : Size) (rows : List Row) : List Row :=
  let rows := rows.map (.resize size.cols {})
  rows.take size.rows ++ List.replicate (size.rows - rows.length) (.new size.cols)

def setSize (size : Size) (grid : Grid) : Grid :=
  let rows := if size.cols ≠ grid.size.cols then grid.rows.map (.wrap false) else grid.rows
  let scrollBottom := if grid.scrollBottom = grid.size.rows - 1 then size.rows - 1 else grid.scrollBottom
  let rows := resizeRows size rows
  let scrollBottom := if scrollBottom ≥ size.rows then size.rows - 1 else scrollBottom
  let scrollTop := if scrollBottom < grid.scrollTop then 0 else grid.scrollTop
  let grid := { grid with size, rows, scrollTop, scrollBottom }
  let grid := ((grid.rowClampTop false).1.rowClampBottom false).1.colClamp
  { grid with savedPos := { row := min grid.savedPos.row (size.rows - 1), col := min grid.savedPos.col (size.cols - 1) } }

def setPos (pos : Pos) (grid : Grid) : Grid :=
  let pos := if grid.originMode then { pos with row := saturatingAdd pos.row grid.scrollTop } else pos
  let grid := { grid with pos }
  ((grid.rowClampTop grid.originMode).1.rowClampBottom grid.originMode).1.colClamp

def saveCursor (grid : Grid) : Grid := { grid with savedPos := grid.pos, savedOriginMode := grid.originMode }

def restoreCursor (grid : Grid) : Grid := { grid with pos := grid.savedPos, originMode := grid.savedOriginMode }

def setScrollback (rows : Nat) (grid : Grid) : Grid :=
  { grid with scrollbackOffset := min rows grid.scrollback.length }

def setScrollRegion (top bottom : Nat) (grid : Grid) : Grid :=
  let bottom := min bottom (grid.size.rows - 1)
  let grid :=
    if top < bottom then { grid with scrollTop := top, scrollBottom := bottom }
    else { grid with scrollTop := 0, scrollBottom := grid.size.rows - 1 }
  { grid with pos := { row := grid.scrollTop, col := 0 } }

def setOriginMode (mode : Bool) (grid : Grid) : Grid := setPos {} { grid with originMode := mode }

/-! ## Rows and cells -/

def drawingRow (row : Nat) (grid : Grid) : Option Row := grid.rows[row]?

def drawingCell (pos : Pos) (grid : Grid) : Option Cell := (grid.drawingRow pos.row).bind fun row => row.cells[pos.col]?

/-- `drawing_row_mut`, unwrapped, and what is done to the row. -/
def updateRow (row : Nat) (f : Row → Option Row) (grid : Grid) : Option Grid :=
  (Checked.update row f grid.rows).map fun rows => { grid with rows }

def wrapRow (row : Nat) (wrap : Bool) (grid : Grid) : Option Grid := grid.updateRow row fun row => some (row.wrap wrap)

/-- Columns from one up to another, erased one after the other. -/
def eraseColumns (attrs : Attrs) (first last : Nat) (row : Row) : Option Row :=
  (List.range' first (last - first)).foldlM (fun (row : Row) col => row.erase col attrs) row

def eraseAll (attrs : Attrs) (grid : Grid) : Grid := { grid with rows := grid.rows.map (.clear attrs) }

def eraseRow (attrs : Attrs) (grid : Grid) : Option Grid := grid.updateRow grid.pos.row fun row => some (row.clear attrs)

def eraseRowForward (attrs : Attrs) (grid : Grid) : Option Grid :=
  grid.updateRow grid.pos.row (eraseColumns attrs grid.pos.col grid.size.cols)

def eraseRowBackward (attrs : Attrs) (grid : Grid) : Option Grid :=
  grid.updateRow grid.pos.row (eraseColumns attrs 0 (min grid.pos.col (grid.size.cols - 1) + 1))

def eraseAllForward (attrs : Attrs) (grid : Grid) : Option Grid :=
  eraseRowForward attrs { grid with
    rows := grid.rows.take (grid.pos.row + 1) ++ (grid.rows.drop (grid.pos.row + 1)).map (.clear attrs) }

def eraseAllBackward (attrs : Attrs) (grid : Grid) : Option Grid :=
  eraseRowBackward attrs { grid with
    rows := (grid.rows.take grid.pos.row).map (.clear attrs) ++ grid.rows.drop grid.pos.row }

def eraseCells (count : Nat) (attrs : Attrs) (grid : Grid) : Option Grid :=
  grid.updateRow grid.pos.row
    (eraseColumns attrs grid.pos.col (min (saturatingAdd grid.pos.col count) grid.size.cols))

def insertCells (count : Nat) (grid : Grid) : Option Grid := do
  let wide ← (if grid.pos.col < grid.size.cols then (grid.drawingCell grid.pos).map (·.wideContinuation) else some false)
  grid.updateRow grid.pos.row fun row =>
    (Checked.times (Row.insertCell wide grid.pos.col) count row).map (.truncate grid.size.cols)

def deleteCells (count : Nat) (grid : Grid) : Option Grid := do
  let room ← Checked.sub grid.size.cols grid.pos.col
  grid.updateRow grid.pos.row fun row =>
    (Checked.times (Row.remove grid.pos.col) (min count room) row).map (.resize grid.size.cols {})

/-! ## Lines -/

/-- A line leaves at `from`, and a new one comes in at `into`, where it then is. -/
def insertLine (into : Nat) (grid : Grid) : Option Grid := do
  let rows ← Checked.remove grid.scrollBottom grid.rows
  let rows ← Checked.insert into grid.newRow rows
  wrapRow grid.scrollBottom false { grid with rows }

def insertLines (count : Nat) (grid : Grid) : Option Grid :=
  Checked.times (fun grid => grid.insertLine grid.pos.row) count grid

def scrollDown (count : Nat) (grid : Grid) : Option Grid :=
  Checked.times (fun grid => grid.insertLine grid.scrollTop) count grid

def deleteLine (grid : Grid) : Option Grid := do
  let rows ← Checked.insert (grid.scrollBottom + 1) grid.newRow grid.rows
  let rows ← Checked.remove grid.pos.row rows
  some { grid with rows }

def deleteLines (count : Nat) (grid : Grid) : Option Grid := do
  let room ← Checked.sub grid.size.rows grid.pos.row
  Checked.times deleteLine (min count room) grid

/-- A row goes to the end of the history, whose oldest rows are dropped. A view of the history moves along. -/
def pushHistory (removed : Row) (grid : Grid) : Grid :=
  let scrollback := grid.scrollback ++ [removed]
  let scrollback := scrollback.drop (scrollback.length - grid.scrollbackLen)
  { grid with
    scrollback
    scrollbackOffset :=
      if grid.scrollbackOffset > 0 then min scrollback.length (grid.scrollbackOffset + 1) else grid.scrollbackOffset }

def scrollLine (grid : Grid) : Option Grid := do
  let rows ← Checked.insert (grid.scrollBottom + 1) grid.newRow grid.rows
  let removed ← rows[grid.scrollTop]?
  let rows ← Checked.remove grid.scrollTop rows
  let grid := { grid with rows }
  some (if grid.scrollbackLen > 0 ∧ ¬ grid.scrollRegionActive then grid.pushHistory removed else grid)

def scrollUp (count : Nat) (grid : Grid) : Option Grid := do
  let room ← Checked.sub grid.size.rows grid.scrollTop
  Checked.times scrollLine (min count room) grid

/-! ## Moving the cursor -/

def moveRow (row : Nat) (grid : Grid) : Grid := { grid with pos := { grid.pos with row } }

def moveCol (col : Nat) (grid : Grid) : Grid := { grid with pos := { grid.pos with col } }

def rowIncClamp (count : Nat) (grid : Grid) : Grid :=
  ((grid.moveRow (saturatingAdd grid.pos.row count)).rowClampBottom grid.inScrollRegion).1

/-- With the number of rows that the region has scrolled. -/
def rowIncScroll (count : Nat) (grid : Grid) : Option (Grid × Nat) :=
  let (next, lines) := (grid.moveRow (saturatingAdd grid.pos.row count)).rowClampBottom grid.inScrollRegion
  if grid.inScrollRegion then (next.scrollUp lines).map fun next => (next, lines) else some (next, 0)

def rowDecClamp (count : Nat) (grid : Grid) : Grid :=
  ((grid.moveRow (grid.pos.row - count)).rowClampTop grid.inScrollRegion).1

/-- The rows above the screen that the cursor would have to go to count as well. -/
def rowDecScroll (count : Nat) (grid : Grid) : Option Grid :=
  let extraLines := count - grid.pos.row
  let (next, lines) := (grid.moveRow (grid.pos.row - count)).rowClampTop grid.inScrollRegion
  next.scrollDown (lines + extraLines)

def rowSet (i : Nat) (grid : Grid) : Grid := (grid.moveRow i).rowClamp

def colInc (count : Nat) (grid : Grid) : Grid := grid.moveCol (saturatingAdd grid.pos.col count)

def colIncClamp (count : Nat) (grid : Grid) : Grid := (grid.colInc count).colClamp

def colDec (count : Nat) (grid : Grid) : Grid := grid.moveCol (grid.pos.col - count)

/-- The sum wraps around, as in a release build. -/
def colTab (grid : Grid) : Grid := (grid.moveCol ((grid.pos.col - grid.pos.col % 8 + 8) % (u16Max + 1))).colClamp

def colSet (i : Nat) (grid : Grid) : Grid := (grid.moveCol i).colClamp

/-- Go to the next row, if a character of this width does not fit on the present one. -/
def colWrap (width : Nat) (wrap : Bool) (grid : Grid) : Option Grid :=
  if grid.pos.col > grid.size.cols - width then do
    let marked ← grid.wrapRow grid.pos.row wrap
    let (next, scrolled) ← (marked.moveCol 0).rowIncScroll 1
    if scrolled = 0 ∧ next.pos.row = grid.pos.row then next.wrapRow grid.pos.row false else some next
  else some grid

end Grid

end Ezpn.Emulator
