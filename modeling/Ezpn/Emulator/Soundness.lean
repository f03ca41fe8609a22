import Ezpn.Emulator.Grid
import Ezpn.Lib.Window

/-!
# Sound grids

What the parser's comments assume of a grid: the cursor is on a row of it, the scroll
region is a part of it, rows are as wide as it, and the halves of wide characters are
next to each other. Each operation on a sound grid goes through, leaves it sound, and
adds to its history only.
-/

set_option autoImplicit false

namespace Ezpn.Emulator

open Checked (Ensures)

/-- A row of a screen of that width. -/
def Row.Fits (cols : Nat) (row : Row) : Prop := row.plain.Paired ∧ row.cells.length = cols

theorem Row.new_fits (cols : Nat) : (Row.new cols).Fits cols := ⟨new_paired cols, length_new cols⟩

theorem Row.Fits.wrap {cols : Nat} {row : Row} (fits : row.Fits cols) (wrap : Bool) : (row.wrap wrap).Fits cols :=
  ⟨wrap_paired fits.1 wrap, fits.2⟩

theorem Row.Fits.clear {cols : Nat} {row : Row} (fits : row.Fits cols) (attrs : Attrs) : (row.clear attrs).Fits cols :=
  ⟨clear_paired attrs row, (length_clear attrs row).trans fits.2⟩

/-- Sizes that panes ask for. -/
structure Size.Proper (size : Size) : Prop where
  rows_pos : 0 < size.rows
  cols_pos : 0 < size.cols
  rows_le : size.rows ≤ u16Max
  cols_le : size.cols ≤ u16Max

namespace Grid

structure Sound (grid : Grid) : Prop where
  proper : grid.size.Proper
  allocated : grid.rows.length = grid.size.rows
  live : ∀ row ∈ grid.rows, row.Fits grid.size.cols
  past : ∀ row ∈ grid.scrollback, row.plain.Paired
  bounded : grid.scrollback.length ≤ grid.scrollbackLen
  in_history : grid.scrollbackOffset ≤ grid.scrollback.length
  row_lt : grid.pos.row < grid.size.rows
  col_le : grid.pos.col ≤ grid.size.cols
  saved_row_lt : grid.savedPos.row < grid.size.rows
  saved_col_le : grid.savedPos.col ≤ grid.size.cols
  region : grid.scrollTop ≤ grid.scrollBottom
  bottom_lt : grid.scrollBottom < grid.size.rows

/-- What no drawing changes, and the history that drawing adds to. -/
structure Evolves (grid next : Grid) : Prop where
  size : next.size = grid.size
  scrollbackLen : next.scrollbackLen = grid.scrollbackLen
  history : ∃ pushed, Window.Follows grid.scrollbackLen grid.scrollback grid.scrollbackOffset
    next.scrollback next.scrollbackOffset pushed

/-- A step that drawing may take. -/
structure Step (grid next : Grid) : Prop where
  sound : next.Sound
  evolves : grid.Evolves next

variable {grid : Grid}

theorem Sound.still (sound : grid.Sound) : grid.Evolves grid :=
  ⟨rfl, rfl, [], .refl sound.bounded sound.in_history⟩

theorem Sound.step (sound : grid.Sound) : grid.Step grid := ⟨sound, sound.still⟩

theorem Step.trans (sound : grid.Sound) {next last : Grid} (earlier : grid.Step next) (later : next.Step last) :
    grid.Step last := by
  obtain ⟨first, follows⟩ := earlier.evolves.history
  obtain ⟨second, follows'⟩ := later.evolves.history
  rw [earlier.evolves.scrollbackLen] at follows'
  exact ⟨later.sound, later.evolves.size.trans earlier.evolves.size,
    later.evolves.scrollbackLen.trans earlier.evolves.scrollbackLen, first ++ second,
    follows.trans sound.bounded sound.in_history follows'⟩

/-- A step that changes rows and history only. -/
structure Draws (grid next : Grid) : Prop extends Step grid next where
  frame : ∃ rows scrollback scrollbackOffset, next = { grid with rows, scrollback, scrollbackOffset }

theorem Sound.draws (sound : grid.Sound) : grid.Draws grid := ⟨sound.step, _, _, _, rfl⟩

theorem Draws.trans (sound : grid.Sound) {next last : Grid} (earlier : grid.Draws next) (later : next.Draws last) :
    grid.Draws last := by
  refine ⟨earlier.toStep.trans sound later.toStep, ?_⟩
  obtain ⟨rows, scrollback, offset, rfl⟩ := earlier.frame
  obtain ⟨rows', scrollback', offset', rfl⟩ := later.frame
  exact ⟨_, _, _, rfl⟩

theorem Draws.pos {next : Grid} (draws : grid.Draws next) : next.pos = grid.pos := by
  obtain ⟨rows, scrollback, offset, rfl⟩ := draws.frame
  rfl

/-! ## Moving the cursor -/

theorem Sound.moved (sound : grid.Sound) {pos : Pos} (row : pos.row < grid.size.rows) (col : pos.col ≤ grid.size.cols) :
    grid.Step { grid with pos } where
  sound := { sound with row_lt := row, col_le := col }
  evolves := ⟨rfl, rfl, sound.still.history⟩

theorem rowClampTop_fst (limit : Bool) (grid : Grid) : (grid.rowClampTop limit).1 =
    grid.moveRow (if limit ∧ grid.pos.row < grid.scrollTop then grid.scrollTop else grid.pos.row) := by
  unfold rowClampTop
  split_ifs <;> rfl

theorem rowClampBottom_fst (limit : Bool) (grid : Grid) : (grid.rowClampBottom limit).1 =
    grid.moveRow (min grid.pos.row (if limit then grid.scrollBottom else grid.size.rows - 1)) := by
  unfold rowClampBottom
  dsimp only
  generalize (if limit then grid.scrollBottom else grid.size.rows - 1) = bottom
  split_ifs with below
  · rw [Nat.min_eq_right (Nat.le_of_lt below)]
    rfl
  · rw [Nat.min_eq_left (Nat.le_of_not_lt below)]
    rfl

theorem rowClamp_eq (grid : Grid) : grid.rowClamp = grid.moveRow (min grid.pos.row (grid.size.rows - 1)) := by
  unfold rowClamp
  split_ifs with below
  · rw [Nat.min_eq_right (Nat.le_of_lt below)]
    rfl
  · rw [Nat.min_eq_left (Nat.le_of_not_lt below)]
    rfl

theorem colClamp_eq (grid : Grid) : grid.colClamp = grid.moveCol (min grid.pos.col (grid.size.cols - 1)) := by
  unfold colClamp
  split_ifs with right
  · rw [Nat.min_eq_right (Nat.le_of_lt right)]
    rfl
  · rw [Nat.min_eq_left (Nat.le_of_not_lt right)]
    rfl

theorem Sound.colSet (sound : grid.Sound) (i : Nat) : grid.Step (grid.colSet i) := by
  have positive := sound.proper.cols_pos
  rw [Grid.colSet, colClamp_eq]
  refine sound.moved sound.row_lt ?_
  dsimp only [moveCol]
  omega

theorem Sound.colTab (sound : grid.Sound) : grid.Step grid.colTab := sound.colSet _

theorem Sound.colIncClamp (sound : grid.Sound) (count : Nat) : grid.Step (grid.colIncClamp count) := sound.colSet _

theorem Sound.colDec (sound : grid.Sound) (count : Nat) : grid.Step (grid.colDec count) :=
  sound.moved sound.row_lt (Nat.le_trans (Nat.sub_le ..) sound.col_le)

theorem Sound.rowSet (sound : grid.Sound) (i : Nat) : grid.Step (grid.rowSet i) := by
  have positive := sound.proper.rows_pos
  rw [Grid.rowSet, rowClamp_eq]
  refine sound.moved ?_ sound.col_le
  dsimp only [moveRow]
  omega

/-- The cursor may leave the grid for a moment: what clamping makes of it is on the grid. -/
theorem Sound.clamped (sound : grid.Sound) (row : Nat) (limit : Bool) :
    grid.Step ((grid.moveRow row).rowClampBottom limit).1 := by
  have positive := sound.proper.rows_pos
  have bottom := sound.bottom_lt
  rw [rowClampBottom_fst]
  refine sound.moved ?_ sound.col_le
  dsimp only [moveRow]
  split_ifs <;> omega

theorem Sound.clampedTop (sound : grid.Sound) (count : Nat) (limit : Bool) :
    grid.Step ((grid.moveRow (grid.pos.row - count)).rowClampTop limit).1 := by
  have top := Nat.lt_of_le_of_lt sound.region sound.bottom_lt
  have placed := sound.row_lt
  rw [rowClampTop_fst]
  refine sound.moved ?_ sound.col_le
  by_cases above : limit ∧ grid.pos.row - count < grid.scrollTop
  · exact (if_pos above).trans_lt top
  · exact (if_neg above).trans_lt (by dsimp only [moveRow]; omega)

theorem Sound.rowIncClamp (sound : grid.Sound) (count : Nat) : grid.Step (grid.rowIncClamp count) := sound.clamped _ _

theorem Sound.rowDecClamp (sound : grid.Sound) (count : Nat) : grid.Step (grid.rowDecClamp count) :=
  sound.clampedTop _ _

theorem Sound.setPos (sound : grid.Sound) (pos : Pos) : grid.Step (grid.setPos pos) := by
  have rows := sound.proper.rows_pos
  have cols := sound.proper.cols_pos
  have bottom := sound.bottom_lt
  unfold Grid.setPos
  dsimp only
  rw [colClamp_eq, rowClampBottom_fst, rowClampTop_fst]
  refine sound.moved ?_ ?_
  · dsimp only [moveRow, moveCol]
    split_ifs <;> omega
  · dsimp only [moveRow, moveCol]
    omega

theorem Sound.setOriginMode (sound : grid.Sound) (mode : Bool) : grid.Step (grid.setOriginMode mode) :=
  have changed : grid.Step { grid with originMode := mode } := ⟨{ sound with }, rfl, rfl, sound.still.history⟩
  changed.trans sound (changed.sound.setPos {})

theorem Sound.saveCursor (sound : grid.Sound) : grid.Step grid.saveCursor where
  sound := { sound with saved_row_lt := sound.row_lt, saved_col_le := sound.col_le }
  evolves := ⟨rfl, rfl, sound.still.history⟩

theorem Sound.restoreCursor (sound : grid.Sound) : grid.Step grid.restoreCursor where
  sound := { sound with row_lt := sound.saved_row_lt, col_le := sound.saved_col_le }
  evolves := ⟨rfl, rfl, sound.still.history⟩

theorem Sound.setScrollRegion (sound : grid.Sound) (top bottom : Nat) : grid.Step (grid.setScrollRegion top bottom) := by
  have rows := sound.proper.rows_pos
  unfold Grid.setScrollRegion
  dsimp only
  split_ifs with proper
  · refine ⟨{ sound with row_lt := ?_, col_le := Nat.zero_le _, region := Nat.le_of_lt proper, bottom_lt := ?_ },
      rfl, rfl, sound.still.history⟩
    · dsimp only
      omega
    · dsimp only
      omega
  · refine ⟨{ sound with row_lt := rows, col_le := Nat.zero_le _, region := Nat.zero_le _, bottom_lt := ?_ },
      rfl, rfl, sound.still.history⟩
    dsimp only
    omega

/-! ## Changing rows -/

theorem Sound.withRows (sound : grid.Sound) {rows : List Row} (length : rows.length = grid.size.rows)
    (fit : ∀ row ∈ rows, row.Fits grid.size.cols) : grid.Draws { grid with rows } where
  sound := { sound with allocated := length, live := fit }
  evolves := ⟨rfl, rfl, sound.still.history⟩
  frame := ⟨_, _, _, rfl⟩

/-- The row of the cursor, or another one. -/
theorem Sound.row (sound : grid.Sound) {i : Nat} (inside : i < grid.size.rows) :
    Ensures (grid.drawingRow i) (Row.Fits grid.size.cols) := by
  have present : i < grid.rows.length := sound.allocated ▸ inside
  exact ⟨grid.rows[i], List.getElem?_eq_getElem present, sound.live _ (List.getElem_mem present)⟩

theorem Sound.updateRow (sound : grid.Sound) {i : Nat} (inside : i < grid.size.rows) {f : Row → Option Row}
    (kept : ∀ row, grid.drawingRow i = some row → row.Fits grid.size.cols → Ensures (f row) (Row.Fits grid.size.cols)) :
    Ensures (grid.updateRow i f) grid.Draws := by
  have present : i < grid.rows.length := sound.allocated ▸ inside
  refine .map (Checked.ensures_update present (Q := fun rows => rows.length = grid.size.rows ∧
    ∀ row ∈ rows, row.Fits grid.size.cols) ?_) fun rows made => sound.withRows made.1 made.2
  have drawn : grid.drawingRow i = some grid.rows[i] := List.getElem?_eq_getElem present
  refine (kept _ drawn (sound.live _ (List.getElem_mem present))).mono fun row fits => ⟨?_, fun other member => ?_⟩
  · rw [List.length_set, sound.allocated]
  · rcases List.mem_or_eq_of_mem_set member with old | rfl
    · exact sound.live other old
    · exact fits

theorem Sound.wrapRow (sound : grid.Sound) {i : Nat} (inside : i < grid.size.rows) (wrap : Bool) :
    Ensures (grid.wrapRow i wrap) grid.Draws :=
  sound.updateRow inside fun _ _ fits => .some (fits.wrap wrap)

theorem ensures_eraseColumns (attrs : Attrs) {cols : Nat} (first : Nat) {last : Nat} (inside : last ≤ cols) {row : Row}
    (fits : row.Fits cols) : Ensures (eraseColumns attrs first last row) (Row.Fits cols) := by
  refine Checked.ensures_foldlM _ (fun row col member kept => ?_) fits
  have range := List.mem_range'_1.mp member
  refine (Row.ensures_erase kept.1 (show col < row.cells.length by rw [kept.2]; omega) attrs).mono fun next made => ?_
  exact ⟨made.1, made.2.trans kept.2⟩

theorem Sound.eraseAll (sound : grid.Sound) (attrs : Attrs) : grid.Draws (grid.eraseAll attrs) := by
  refine sound.withRows (by rw [List.length_map, sound.allocated]) fun row member => ?_
  obtain ⟨old, present, rfl⟩ := List.mem_map.mp member
  exact (sound.live old present).clear attrs

theorem Sound.eraseRow (sound : grid.Sound) (attrs : Attrs) : Ensures (grid.eraseRow attrs) grid.Draws :=
  sound.updateRow sound.row_lt fun _ _ fits => .some (fits.clear attrs)

theorem Sound.eraseRowForward (sound : grid.Sound) (attrs : Attrs) : Ensures (grid.eraseRowForward attrs) grid.Draws :=
  sound.updateRow sound.row_lt fun _ _ fits => ensures_eraseColumns attrs _ (Nat.le_refl _) fits

theorem Sound.eraseRowBackward (sound : grid.Sound) (attrs : Attrs) : Ensures (grid.eraseRowBackward attrs) grid.Draws := by
  have positive := sound.proper.cols_pos
  exact sound.updateRow sound.row_lt fun _ _ fits => ensures_eraseColumns attrs _ (by omega) fits

/-- Rows on one side of the cursor are cleared. -/
theorem Sound.clearedPart (sound : grid.Sound) (attrs : Attrs) (n : Nat) :
    grid.Draws { grid with rows := grid.rows.take n ++ (grid.rows.drop n).map (.clear attrs) } ∧
      grid.Draws { grid with rows := (grid.rows.take n).map (.clear attrs) ++ grid.rows.drop n } := by
  have old (row : Row) (member : row ∈ grid.rows.take n ∨ row ∈ grid.rows.drop n) : row.Fits grid.size.cols :=
    sound.live row (member.elim List.mem_of_mem_take List.mem_of_mem_drop)
  have length : (grid.rows.take n).length + (grid.rows.drop n).length = grid.size.rows := by
    rw [← List.length_append, List.take_append_drop, sound.allocated]
  constructor
  · refine sound.withRows (by rw [List.length_append, List.length_map, length]) fun row member => ?_
    rcases List.mem_append.mp member with kept | cleared
    · exact old row (.inl kept)
    · obtain ⟨before, present, rfl⟩ := List.mem_map.mp cleared
      exact (old before (.inr present)).clear attrs
  · refine sound.withRows (by rw [List.length_append, List.length_map, length]) fun row member => ?_
    rcases List.mem_append.mp member with cleared | kept
    · obtain ⟨before, present, rfl⟩ := List.mem_map.mp cleared
      exact (old before (.inl present)).clear attrs
    · exact old row (.inr kept)

theorem Sound.eraseAllForward (sound : grid.Sound) (attrs : Attrs) : Ensures (grid.eraseAllForward attrs) grid.Draws :=
  have cleared := (sound.clearedPart attrs (grid.pos.row + 1)).1
  (cleared.sound.eraseRowForward attrs).mono fun _ later => cleared.trans sound later

theorem Sound.eraseAllBackward (sound : grid.Sound) (attrs : Attrs) : Ensures (grid.eraseAllBackward attrs) grid.Draws :=
  have cleared := (sound.clearedPart attrs grid.pos.row).2
  (cleared.sound.eraseRowBackward attrs).mono fun _ later => cleared.trans sound later

theorem Sound.eraseCells (sound : grid.Sound) (count : Nat) (attrs : Attrs) :
    Ensures (grid.eraseCells count attrs) grid.Draws :=
  sound.updateRow sound.row_lt fun _ _ fits => ensures_eraseColumns attrs _ (Nat.min_le_right ..) fits

/-! ## Cells in and out of a row -/

theorem Sound.insertCells (sound : grid.Sound) (count : Nat) : Ensures (grid.insertCells count) grid.Draws := by
  obtain ⟨row, drawn, fits⟩ := sound.row sound.row_lt
  have length := fits.2
  have col := sound.col_le
  refine .bind (P := fun wide => (row.plain.get grid.pos.col).wideContinuation = wide) ?_ fun wide here => ?_
  · split_ifs with inside
    · rw [drawingCell, drawn, Option.bind_some, List.getElem?_eq_getElem (length ▸ inside)]
      exact .some (by rw [Row.get_plain_of_some (List.getElem?_eq_getElem (length ▸ inside))])
    · exact .some (by rw [Ezpn.Row.get_outside (by rw [Row.length_plain]; omega)])
  refine sound.updateRow sound.row_lt fun row' same _ => ?_
  obtain rfl : row = row' := Option.some.inj (drawn.symm.trans same)
  refine .map (P := fun next => next.plain.Paired ∧ grid.size.cols ≤ next.cells.length) ?_ fun next made =>
    Row.truncate_paired made.1 made.2
  refine (Checked.ensures_times (I := fun _ next => next.plain.Paired ∧ grid.size.cols ≤ next.cells.length ∧
    (next.plain.get grid.pos.col).wideContinuation = wide) _ (fun _ next _ inv => ?_) ⟨fits.1, length.ge, here⟩).mono
    fun next inv => ⟨inv.1, inv.2.1⟩
  exact (Row.ensures_insertCell inv.1 (by omega) inv.2.2).mono fun longer made => ⟨made.1, by omega, made.2.2⟩

theorem Sound.deleteCells (sound : grid.Sound) (count : Nat) : Ensures (grid.deleteCells count) grid.Draws := by
  refine .bind (P := fun room => room = grid.size.cols - grid.pos.col) ⟨_, Checked.sub_of_le sound.col_le, rfl⟩ ?_
  rintro room rfl
  refine sound.updateRow sound.row_lt fun row _ fits => ?_
  refine .map (P := fun next => next.plain.Paired ∧ grid.pos.col ≤ next.cells.length) ?_ fun next made =>
    Row.resize_paired made.1 _
  refine (Checked.ensures_times (I := fun left next => next.plain.Paired ∧ grid.pos.col + left ≤ next.cells.length)
    _ (fun left next _ inv => ?_) ⟨fits.1, ?_⟩).mono fun next inv => ⟨inv.1, by omega⟩
  · exact (Row.ensures_remove inv.1 (by omega)).mono fun shorter made => ⟨made.1, by omega⟩
  · have col := sound.col_le
    rw [fits.2]
    omega

/-! ## Lines in and out of the scroll region -/

theorem mem_insertIdx_fits {cols i : Nat} {rows : List Row} (fit : ∀ row ∈ rows, row.Fits cols) :
    ∀ row ∈ rows.insertIdx i (.new cols), row.Fits cols := fun row member =>
  (List.eq_or_mem_of_mem_insertIdx member).elim (fun fresh => fresh ▸ Row.new_fits cols) (fit row)

/-- A line leaves at the bottom of the region and another comes in. -/
theorem Sound.insertLine (sound : grid.Sound) {into : Nat} (inside : into < grid.size.rows) :
    Ensures (grid.insertLine into) grid.Draws := by
  have bottom := sound.bottom_lt
  have allocated := sound.allocated
  refine .bind (Checked.ensures_remove (by omega) (Q := fun rows => rows.length = grid.size.rows - 1 ∧
    ∀ row ∈ rows, row.Fits grid.size.cols) ⟨?_, fun row member => sound.live row (List.mem_of_mem_eraseIdx member)⟩) ?_
  · rw [List.length_eraseIdx_of_lt (by omega), allocated]
  rintro rows ⟨length, fit⟩
  refine .bind (Checked.ensures_insert (by omega) (Q := fun rows => rows.length = grid.size.rows ∧
    ∀ row ∈ rows, row.Fits grid.size.cols) ⟨?_, mem_insertIdx_fits fit⟩) ?_
  · rw [List.length_insertIdx_of_le_length (by omega), length]
    omega
  rintro rows' ⟨length', fit'⟩
  have replaced := sound.withRows length' fit'
  exact (replaced.sound.wrapRow bottom false).mono fun _ later => replaced.trans sound later

/-- A loop whose body takes a step from any sound grid. -/
theorem Sound.times (sound : grid.Sound) {body : Grid → Option Grid}
    (round : ∀ next : Grid, next.Sound → Ensures (body next) next.Draws) (n : Nat) :
    Ensures (Checked.times body n grid) grid.Draws :=
  Checked.ensures_times (I := fun _ next => grid.Draws next) n
    (fun _ next _ inv => (round next inv.sound).mono fun _ later => inv.trans sound later) sound.draws

theorem Sound.insertLines (sound : grid.Sound) (count : Nat) : Ensures (grid.insertLines count) grid.Draws :=
  sound.times (fun _ sound => sound.insertLine sound.row_lt) count

theorem Sound.scrollDown (sound : grid.Sound) (count : Nat) : Ensures (grid.scrollDown count) grid.Draws :=
  sound.times (fun _ sound => sound.insertLine (Nat.lt_of_le_of_lt sound.region sound.bottom_lt)) count

/-- A new line comes in below the region, before another one leaves. -/
theorem Sound.lineBelow (sound : grid.Sound) :
    Ensures (Checked.insert (grid.scrollBottom + 1) grid.newRow grid.rows) fun rows =>
      rows.length = grid.size.rows + 1 ∧ ∀ row ∈ rows, row.Fits grid.size.cols := by
  have inside : grid.scrollBottom + 1 ≤ grid.rows.length := sound.allocated ▸ sound.bottom_lt
  refine Checked.ensures_insert inside ⟨?_, mem_insertIdx_fits sound.live⟩
  rw [List.length_insertIdx_of_le_length inside, sound.allocated]

theorem Sound.deleteLine (sound : grid.Sound) : Ensures grid.deleteLine grid.Draws := by
  have placed := sound.row_lt
  refine sound.lineBelow.bind ?_
  rintro rows ⟨length, fit⟩
  refine .bind (Checked.ensures_remove (by omega) (Q := fun rows => rows.length = grid.size.rows ∧
    ∀ row ∈ rows, row.Fits grid.size.cols) ⟨?_, fun row member => fit row (List.mem_of_mem_eraseIdx member)⟩) ?_
  · rw [List.length_eraseIdx_of_lt (by omega), length, Nat.add_sub_cancel]
  rintro rows' ⟨length', fit'⟩
  exact .some (sound.withRows length' fit')

theorem Sound.deleteLines (sound : grid.Sound) (count : Nat) : Ensures (grid.deleteLines count) grid.Draws := by
  refine .bind ⟨_, Checked.sub_of_le (Nat.le_of_lt sound.row_lt), trivial⟩ (P := fun _ => True) fun room _ => ?_
  exact sound.times (fun _ sound => sound.deleteLine) _

theorem Sound.pushHistory (sound : grid.Sound) {removed : Row} (paired : removed.plain.Paired) :
    grid.Draws (grid.pushHistory removed) := by
  have log := Window.length_rtake (grid.scrollback ++ [removed]) grid.scrollbackLen
  have follows : Window.Follows grid.scrollbackLen grid.scrollback grid.scrollbackOffset
      (grid.pushHistory removed).scrollback (grid.pushHistory removed).scrollbackOffset [removed] := by
    refine ⟨rfl, ?_⟩
    simp only [Grid.pushHistory, Window.follow, List.length_singleton]
    split_ifs <;> omega
  have bounded := sound.bounded
  have place := sound.in_history
  refine ⟨⟨{ sound with past := fun row member => ?_, bounded := ?_, in_history := ?_ },
    rfl, rfl, [removed], follows⟩, _, _, _, rfl⟩
  · rcases List.mem_append.mp (List.mem_of_mem_drop member) with old | fresh
    · exact sound.past row old
    · exact List.mem_singleton.mp fresh ▸ paired
  · rw [follows.log, log]
    exact Nat.min_le_right ..
  · rw [follows.offset]
    unfold Window.follow
    split_ifs
    · exact Nat.zero_le _
    · exact Nat.min_le_left ..

theorem Sound.scrollLine (sound : grid.Sound) : Ensures grid.scrollLine grid.Draws := by
  have top := Nat.lt_of_le_of_lt sound.region sound.bottom_lt
  refine sound.lineBelow.bind ?_
  rintro rows ⟨length, fit⟩
  have present : grid.scrollTop < rows.length := by omega
  refine .bind ⟨_, List.getElem?_eq_getElem present, fit _ (List.getElem_mem present)⟩ fun removed fits => ?_
  refine .bind (Checked.ensures_remove present (Q := fun rows => rows.length = grid.size.rows ∧
    ∀ row ∈ rows, row.Fits grid.size.cols) ⟨?_, fun row member => fit row (List.mem_of_mem_eraseIdx member)⟩) ?_
  · rw [List.length_eraseIdx_of_lt present, length, Nat.add_sub_cancel]
  rintro rows' ⟨length', fit'⟩
  have scrolled := sound.withRows length' fit'
  refine .some ?_
  split_ifs
  · exact scrolled.trans sound (scrolled.sound.pushHistory fits.1)
  · exact scrolled

theorem Sound.scrollUp (sound : grid.Sound) (count : Nat) : Ensures (grid.scrollUp count) grid.Draws := by
  have top := Nat.le_of_lt (Nat.lt_of_le_of_lt sound.region sound.bottom_lt)
  refine .bind ⟨_, Checked.sub_of_le top, trivial⟩ (P := fun _ => True) fun room _ => ?_
  exact sound.times (fun _ sound => sound.scrollLine) _

theorem Sound.rowIncScroll (sound : grid.Sound) (count : Nat) :
    Ensures (grid.rowIncScroll count) fun made => grid.Step made.1 ∧ made.1.pos.col = grid.pos.col := by
  have clamped := sound.clamped (saturatingAdd grid.pos.row count) grid.inScrollRegion
  have col : ((grid.moveRow (saturatingAdd grid.pos.row count)).rowClampBottom grid.inScrollRegion).1.pos.col =
      grid.pos.col := by rw [rowClampBottom_fst]; rfl
  unfold Grid.rowIncScroll
  dsimp only
  split_ifs
  · refine (clamped.sound.scrollUp _).map fun next later => ⟨clamped.trans sound later.toStep, ?_⟩
    rw [later.pos, col]
  · exact .some ⟨clamped, col⟩

theorem Sound.rowDecScroll (sound : grid.Sound) (count : Nat) : Ensures (grid.rowDecScroll count) grid.Step :=
  have clamped := sound.clampedTop count grid.inScrollRegion
  (clamped.sound.scrollDown _).mono fun _ later => clamped.trans sound later.toStep

/-- After a possible wrap a character of that width fits. -/
theorem Sound.colWrap (sound : grid.Sound) {width : Nat} (narrow : width ≤ grid.size.cols) (wrap : Bool) :
    Ensures (grid.colWrap width wrap) fun next => grid.Step next ∧ next.pos.col + width ≤ grid.size.cols := by
  unfold Grid.colWrap
  split_ifs
  · refine (sound.wrapRow sound.row_lt wrap).bind fun marked step => ?_
    have home : marked.Step (marked.moveCol 0) := step.sound.moved step.sound.row_lt (Nat.zero_le _)
    refine (home.sound.rowIncScroll 1).bind ?_
    rintro ⟨next, scrolled⟩ ⟨later, col⟩
    have whole := step.toStep.trans sound (home.trans step.sound later)
    have fits : next.pos.col + width ≤ grid.size.cols := by
      rw [show next.pos.col = 0 from col, Nat.zero_add]
      exact narrow
    dsimp only
    split_ifs
    · refine (whole.sound.wrapRow ?_ false).mono fun last drawn => ⟨whole.trans sound drawn.toStep, ?_⟩
      · rw [whole.evolves.size]
        exact sound.row_lt
      · rw [drawn.pos]
        exact fits
    · exact .some ⟨whole, fits⟩
  · exact .some ⟨sound.step, by omega⟩

end Grid

end Ezpn.Emulator
