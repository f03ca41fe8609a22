import Ezpn.Pane

/-!
# Screens

What the bundled parser lets its readers see: cells, rows, and the grid in use with
its history. A grid carries what the parser maintains of it.
-/

set_option autoImplicit false

namespace Ezpn

structure Cell where
  contents : List Char := []
  wide : Bool := false
  wideContinuation : Bool := false
  deriving DecidableEq, Repr

/-- Line breaks are never drawn. A wide cell shows a wide character, and its
continuation shows nothing. -/
structure Cell.Formed (cell : Cell) : Prop where
  unbroken : '\n' ∉ cell.contents
  glyph : cell.wide = true → ∃ c marks, cell.contents = c :: marks ∧ c ≠ ' '
  shadow : cell.wideContinuation = true → cell.contents = [] ∧ cell.wide = false

/-- A cell that is no part of a wide character. -/
def Cell.Narrow (cell : Cell) : Prop :=
  '\n' ∉ cell.contents ∧ cell.wide = false ∧ cell.wideContinuation = false

instance (cell : Cell) : Decidable cell.Narrow := by
  unfold Cell.Narrow
  infer_instance

theorem Cell.Narrow.formed {cell : Cell} (narrow : cell.Narrow) : cell.Formed :=
  ⟨narrow.1, fun wide => absurd narrow.2.1 (by simp [wide]), fun shadow => absurd narrow.2.2 (by simp [shadow])⟩

structure Row where
  cells : List Cell
  wrapped : Bool := false
  deriving DecidableEq, Repr

namespace Row

/-- A continuation has its wide cell to the left. -/
structure Formed (row : Row) : Prop where
  cells : ∀ cell ∈ row.cells, cell.Formed
  paired : ∀ (col : Nat) (cell : Cell), row.cells[col]? = some cell → cell.wideContinuation = true →
    ∃ left cell', col = left + 1 ∧ row.cells[left]? = some cell' ∧ cell'.wide = true

theorem Formed.of_narrow {row : Row} (narrow : ∀ cell ∈ row.cells, cell.Narrow) : row.Formed := by
  refine ⟨fun cell member => (narrow cell member).formed, fun col cell shown shadow => ?_⟩
  exact absurd (narrow cell (List.mem_of_getElem? shown)).2.2 (by simp [shadow])

/-- The locals of the loop of `write_contents`. -/
structure Writer where
  contents : List Char := []
  prevWasWide : Bool := false
  prevCol : Nat

def Writer.cell (writer : Writer) (col : Nat) (cell : Cell) : Writer :=
  if writer.prevWasWide then { writer with prevWasWide := false }
  else if cell.contents = [] then { writer with prevWasWide := cell.wide }
  else
    { contents := writer.contents ++ List.replicate (col - writer.prevCol) ' ' ++ cell.contents
      prevWasWide := cell.wide
      prevCol := col + if cell.wide then 2 else 1 }

/-- `write_contents` into an empty text: blank cells become spaces once a later cell has contents. -/
def writeContents (start width : Nat) (row : Row) : String :=
  let cells := (row.cells.zipIdx.drop start).take width
  let writer := cells.foldl (fun (writer : Writer) (entry : Cell × Nat) => writer.cell entry.2 entry.1) { prevCol := start }
  String.ofList writer.contents

end Row

/-- The grid in use: that of the main screen, or that of the alternate screen, which keeps no history. -/
structure Grid where
  height : Nat
  width : Nat
  rows : List Row
  scrollback : List Row := []
  scrollbackOffset : Nat := 0
  height_pos : 0 < height
  width_pos : 0 < width
  representable : height ≤ u16Max ∧ width ≤ u16Max
  allocated : rows.length = height
  bounded : scrollback.length ≤ usizeMax / 2
  in_history : scrollbackOffset ≤ scrollback.length
  formed : ∀ row ∈ scrollback ++ rows, row.Formed

namespace Grid

def setScrollback (offset : Nat) (grid : Grid) : Grid :=
  { grid with scrollbackOffset := min offset grid.scrollback.length, in_history := Nat.min_le_right _ _ }

/-- The rows in view: as much history as the offset asks for and the height allows, then the live rows below it. -/
def visibleRows (grid : Grid) : List Row :=
  (grid.scrollback.drop (grid.scrollback.length - grid.scrollbackOffset)).take grid.rows.length ++
    grid.rows.take (grid.rows.length - grid.scrollbackOffset)

def visibleRow (grid : Grid) (row : Nat) : Option Row := grid.visibleRows[row]?

/-- `Screen::cell`. -/
def cell (grid : Grid) (row col : Nat) : Option Cell := (grid.visibleRow row).bind fun r => r.cells[col]?

def rowWrapped (grid : Grid) (row : Nat) : Bool := ((grid.visibleRow row).map Row.wrapped).getD false

/-- `Screen::rows`. -/
def rowTexts (start width : Nat) (grid : Grid) : List String := grid.visibleRows.map (Row.writeContents start width)

theorem length_visibleRows (grid : Grid) : grid.visibleRows.length = grid.height := by
  have kept := grid.in_history
  have allocated := grid.allocated
  simp only [visibleRows, List.length_append, List.length_take, List.length_drop]
  omega

theorem visibleRow_formed {grid : Grid} {r : Nat} {row : Row} (visible : grid.visibleRow r = some row) :
    row.Formed := by
  have member : row ∈ grid.visibleRows := List.mem_of_getElem? visible
  refine grid.formed row (List.mem_append.mpr ?_)
  rcases List.mem_append.mp member with history | live
  · exact .inl (List.mem_of_mem_drop (List.mem_of_mem_take history))
  · exact .inr (List.mem_of_mem_take live)

theorem visibleRow_none_iff {grid : Grid} {r : Nat} : grid.visibleRow r = none ↔ grid.height ≤ r := by
  rw [visibleRow, List.getElem?_eq_none_iff, length_visibleRows]

/-- At offset zero the live rows are in view. -/
theorem visibleRows_bottom {grid : Grid} (bottom : grid.scrollbackOffset = 0) : grid.visibleRows = grid.rows := by
  simp [visibleRows, bottom]

@[simp] theorem setScrollback_setScrollback (first second : Nat) (grid : Grid) :
    (grid.setScrollback first).setScrollback second = grid.setScrollback second := rfl

/-- The present offset, set again, changes nothing. -/
theorem setScrollback_self (grid : Grid) : grid.setScrollback grid.scrollbackOffset = grid := by
  obtain ⟨height, width, rows, scrollback, offset, height_pos, width_pos, representable, allocated, bounded, in_history, formed⟩ := grid
  simp only [setScrollback, Nat.min_eq_left in_history]

/-- A live screen of narrow cells below such a history. -/
def narrow (width : Nat) (rows scrollback : List Row) (positive : 0 < rows.length ∧ 0 < width)
    (representable : rows.length ≤ u16Max ∧ width ≤ u16Max) (bounded : scrollback.length ≤ usizeMax / 2)
    (plain : ∀ row ∈ scrollback ++ rows, ∀ cell ∈ row.cells, cell.Narrow) : Grid where
  height := rows.length
  width := width
  rows := rows
  scrollback := scrollback
  height_pos := positive.1
  width_pos := positive.2
  representable := representable
  allocated := rfl
  bounded := bounded
  in_history := Nat.zero_le _
  formed row member := .of_narrow (plain row member)

end Grid

/-- Single narrow cells are written one after the other. -/
theorem Row.writeContents_replicate (c : Char) (width : Nat) :
    Row.writeContents 0 width { cells := List.replicate width { contents := [c] } } =
      String.ofList (List.replicate width c) := by
  have written (n col : Nat) (before : List Char) :
      ((List.replicate n ({ contents := [c] } : Cell)).zipIdx col).foldl
        (fun (writer : Writer) (entry : Cell × Nat) => writer.cell entry.2 entry.1)
        { contents := before, prevCol := col } =
      { contents := before ++ List.replicate n c, prevCol := col + n } := by
    induction n generalizing col before with
    | zero => simp
    | succ n ih =>
        rw [List.replicate_succ, List.zipIdx_cons, List.foldl_cons]
        have first : Writer.cell { contents := before, prevCol := col } col { contents := [c] } =
            { contents := before ++ [c], prevCol := col + 1 } := by
          simp [Writer.cell]
        rw [first, ih, List.append_assoc, List.singleton_append, Nat.add_right_comm, Nat.add_assoc]
        rfl
  simp only [writeContents, List.drop_zero]
  rw [List.take_of_length_le (by simp), written]
  rfl

end Ezpn
