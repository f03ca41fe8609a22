import Ezpn.Emulator.Safety

/-!
# The history and its limit

The parser writes rows to the history of the main screen and never reads them. So its
limit changes nothing else, and a smaller history is the end of a larger one.
-/

set_option autoImplicit false

namespace Ezpn.Emulator

open Window (Writes)

/-- The part of a grid that a view of the past shows. -/
structure History where
  scrollback : List Row := []
  scrollbackLen : Nat
  scrollbackOffset : Nat := 0
  deriving DecidableEq, Repr

namespace History

inductive Edit where
  | push (removed : Row)
  | scroll (rows : Nat)
  | forget
  deriving DecidableEq, Repr

def edit (history : History) : Edit → History
  | .push removed =>
      if history.scrollbackLen > 0 then
        let scrollback := history.scrollback ++ [removed]
        let scrollback := scrollback.drop (scrollback.length - history.scrollbackLen)
        { history with
          scrollback
          scrollbackOffset :=
            if history.scrollbackOffset > 0 then min scrollback.length (history.scrollbackOffset + 1)
            else history.scrollbackOffset }
      else history
  | .scroll rows => { history with scrollbackOffset := min rows history.scrollback.length }
  | .forget => { scrollbackLen := history.scrollbackLen }

/-- What is written without a limit. -/
def append (lines : List Row) : Edit → List Row
  | .push removed => lines ++ [removed]
  | .scroll _ => lines
  | .forget => []

/-- The end of what has been written is kept. -/
theorem edit_window {history : History} {lines : List Row} (window : history.scrollback = lines.rtake history.scrollbackLen)
    (change : Edit) : (history.edit change).scrollbackLen = history.scrollbackLen ∧
      (history.edit change).scrollback = (append lines change).rtake history.scrollbackLen := by
  cases change with
  | push removed =>
      by_cases kept : history.scrollbackLen > 0
      · simp only [edit, if_pos kept, true_and]
        show (history.scrollback ++ [removed]).rtake history.scrollbackLen = _
        rw [window, Window.rtake_rtake_append]
        rfl
      · have unkept : history.scrollbackLen = 0 := by omega
        simp only [edit, if_neg kept, true_and]
        rw [window, unkept, List.rtake_zero, List.rtake_zero]
  | scroll rows => exact ⟨rfl, window⟩
  | forget => exact ⟨rfl, (List.rtake_nil _).symm⟩

theorem edits_window (changes : List Edit) {history : History} {lines : List Row}
    (window : history.scrollback = lines.rtake history.scrollbackLen) :
    (changes.foldl edit history).scrollbackLen = history.scrollbackLen ∧
      (changes.foldl edit history).scrollback = (changes.foldl append lines).rtake history.scrollbackLen := by
  induction changes generalizing history lines with
  | nil => exact ⟨rfl, window⟩
  | cons change changes ih =>
      obtain ⟨limit, window'⟩ := edit_window window change
      rw [← limit] at window'
      obtain ⟨limit', kept⟩ := ih window'
      exact ⟨limit'.trans limit, by rw [List.foldl_cons, List.foldl_cons, kept, limit]⟩

end History

/-! ## Grids -/

namespace Grid

def withHistory (history : History) (grid : Grid) : Grid :=
  { grid with
    scrollback := history.scrollback
    scrollbackLen := history.scrollbackLen
    scrollbackOffset := history.scrollbackOffset }

/-- What an operation of the grid does is the same with every history, which it only writes to. -/
def Logs (f : Grid → Option Grid) : Prop :=
  ∀ grid : Grid, Writes withHistory History.edit fun history => f (grid.withHistory history)

variable {grid : Grid}

theorem writes_updateRow (i : Nat) (f : Row → Option Row) (grid : Grid) :
    Writes withHistory History.edit fun history => (grid.withHistory history).updateRow i f := by
  have shape (history : History) : (grid.withHistory history).updateRow i f =
      Checked.update i f grid.rows >>= fun rows => some (withHistory history { grid with rows }) := by
    show (Checked.update i f grid.rows).map _ = _
    cases Checked.update i f grid.rows <;> rfl
  simp only [shape]
  exact .given _ fun rows => .unchanged _

theorem writes_wrapRow (i : Nat) (wrap : Bool) (grid : Grid) :
    Writes withHistory History.edit fun history => (grid.withHistory history).wrapRow i wrap :=
  writes_updateRow i _ grid

theorem logs_insertLine (into : Nat) : Logs (insertLine into) := by
  intro grid
  show Writes _ _ fun history => Checked.remove grid.scrollBottom grid.rows >>= fun rows =>
    Checked.insert into grid.newRow rows >>= fun rows => (withHistory history { grid with rows }).wrapRow grid.scrollBottom false
  exact .given _ fun _ => .given _ fun _ => writes_wrapRow _ _ _

theorem logs_deleteLine : Logs deleteLine := by
  intro grid
  show Writes _ _ fun history => Checked.insert (grid.scrollBottom + 1) grid.newRow grid.rows >>= fun rows =>
    Checked.remove grid.pos.row rows >>= fun rows => some (withHistory history { grid with rows })
  exact .given _ fun _ => .given _ fun _ => .unchanged _

theorem pushHistory_withHistory (removed : Row) (grid : Grid) (history : History) :
    (if history.scrollbackLen > 0 then (grid.withHistory history).pushHistory removed else grid.withHistory history) =
      grid.withHistory (history.edit (.push removed)) := by
  by_cases kept : history.scrollbackLen > 0
  · simp only [History.edit, if_pos kept]
    rfl
  · simp only [History.edit, if_neg kept]

/-- A row that leaves the screen is written, unless a part of the screen scrolls. -/
theorem logs_scrollLine : Logs scrollLine := by
  intro grid
  show Writes _ _ fun history => Checked.insert (grid.scrollBottom + 1) grid.newRow grid.rows >>= fun rows =>
    rows[grid.scrollTop]? >>= fun removed => Checked.remove grid.scrollTop rows >>= fun rows =>
    some (if history.scrollbackLen > 0 ∧ ¬ (withHistory history { grid with rows }).scrollRegionActive then
      (withHistory history { grid with rows }).pushHistory removed else withHistory history { grid with rows })
  refine .given _ fun _ => .given _ fun removed => .given _ fun rows => ?_
  by_cases active : scrollRegionActive { grid with rows }
  · have same (history : History) : (withHistory history { grid with rows }).scrollRegionActive = true := active
    simp only [same, not_true_eq_false, and_false, if_false]
    exact .unchanged _
  · have same (history : History) : (withHistory history { grid with rows }).scrollRegionActive = false :=
      Bool.eq_false_iff.mpr active
    simp only [same, Bool.false_eq_true, not_false_eq_true, and_true]
    simp only [pushHistory_withHistory]
    exact .edits _ [History.Edit.push removed]

theorem Logs.times {body : Grid → Option Grid} (logs : Logs body) (n : Nat) : Logs (Checked.times body n) :=
  fun grid => .times logs n grid

theorem logs_scrollUp (count : Nat) : Logs (scrollUp count) := by
  intro grid
  show Writes _ _ fun history => Checked.sub grid.size.rows grid.scrollTop >>= fun room =>
    Checked.times scrollLine (min count room) (grid.withHistory history)
  exact .given _ fun room => logs_scrollLine.times _ grid

theorem logs_insertLines (count : Nat) : Logs (insertLines count) := by
  intro grid
  exact Logs.times (fun grid => logs_insertLine grid.pos.row grid) count grid

theorem logs_scrollDown (count : Nat) : Logs (scrollDown count) := by
  intro grid
  exact Logs.times (fun grid => logs_insertLine grid.scrollTop grid) count grid

theorem logs_deleteLines (count : Nat) : Logs (deleteLines count) := by
  intro grid
  show Writes _ _ fun history => Checked.sub grid.size.rows grid.pos.row >>= fun room =>
    Checked.times deleteLine (min count room) (grid.withHistory history)
  exact .given _ fun room => logs_deleteLine.times _ grid

/-- The other operations do not even write to it. -/
def Still (f : Grid → Grid) : Prop := ∀ (grid : Grid) (history : History), f (grid.withHistory history) = (f grid).withHistory history

theorem Still.comp {f g : Grid → Grid} (outer : Still f) (inner : Still g) : Still fun grid => f (g grid) :=
  fun grid history => by
    show f (g (grid.withHistory history)) = _
    rw [inner, outer]

theorem still_colClamp : Still colClamp := by
  intro grid history
  rw [colClamp_eq, colClamp_eq]
  rfl

theorem still_rowClamp : Still rowClamp := by
  intro grid history
  rw [rowClamp_eq, rowClamp_eq]
  rfl

theorem rowClampTop_withHistory (limited : Bool) (grid : Grid) (history : History) :
    (grid.withHistory history).rowClampTop limited =
      ((grid.rowClampTop limited).1.withHistory history, (grid.rowClampTop limited).2) := by
  by_cases above : limited ∧ grid.pos.row < grid.scrollTop <;> simp [rowClampTop, withHistory, above]

theorem rowClampBottom_withHistory (limited : Bool) (grid : Grid) (history : History) :
    (grid.withHistory history).rowClampBottom limited =
      ((grid.rowClampBottom limited).1.withHistory history, (grid.rowClampBottom limited).2) := by
  by_cases below : grid.pos.row > (if limited then grid.scrollBottom else grid.size.rows - 1) <;>
    simp [rowClampBottom, withHistory, below]

theorem still_setPos (pos : Pos) : Still (setPos pos) := by
  intro grid history
  unfold setPos
  dsimp only
  show (((withHistory history { grid with pos := _ }).rowClampTop grid.originMode).1.rowClampBottom grid.originMode).1.colClamp = _
  rw [rowClampTop_withHistory, rowClampBottom_withHistory, still_colClamp]
  rfl

theorem still_rowIncClamp (count : Nat) : Still (rowIncClamp count) := by
  intro grid history
  unfold rowIncClamp
  show ((withHistory history (grid.moveRow _)).rowClampBottom grid.inScrollRegion).1 = _
  rw [rowClampBottom_withHistory]
  rfl

theorem still_rowDecClamp (count : Nat) : Still (rowDecClamp count) := by
  intro grid history
  unfold rowDecClamp
  show ((withHistory history (grid.moveRow _)).rowClampTop grid.inScrollRegion).1 = _
  rw [rowClampTop_withHistory]
  rfl

theorem still_colSet (i : Nat) : Still (colSet i) := fun grid history => still_colClamp (grid.moveCol i) history

theorem still_setSize (size : Size) : Still (setSize size) := by
  intro grid history
  unfold setSize
  dsimp only
  show (let grid := (((withHistory history { grid with size, rows := _, scrollTop := _, scrollBottom := _ }).rowClampTop
    false).1.rowClampBottom false).1.colClamp
    ({ grid with savedPos := { row := min grid.savedPos.row (size.rows - 1), col := min grid.savedPos.col (size.cols - 1) } } : Grid)) = _
  rw [rowClampTop_withHistory, rowClampBottom_withHistory, still_colClamp]
  rfl

theorem still_setScrollRegion (top bottom : Nat) : Still (setScrollRegion top bottom) := by
  intro grid history
  by_cases narrow : top < min bottom (grid.size.rows - 1) <;> simp [setScrollRegion, withHistory, narrow]

theorem writes_rowIncScroll (count : Nat) (grid : Grid) :
    Writes (fun history (made : Grid × Nat) => (made.1.withHistory history, made.2)) History.edit
      fun history => (grid.withHistory history).rowIncScroll count := by
  obtain ⟨⟨next, lines⟩, clamped⟩ : ∃ made,
      (grid.moveRow (saturatingAdd grid.pos.row count)).rowClampBottom grid.inScrollRegion = made := ⟨_, rfl⟩
  have shape (history : History) : (grid.withHistory history).rowIncScroll count =
      if grid.inScrollRegion then ((next.withHistory history).scrollUp lines).map fun next => (next, lines)
      else some (next.withHistory history, 0) := by
    have clamped' := rowClampBottom_withHistory grid.inScrollRegion (grid.moveRow (saturatingAdd grid.pos.row count)) history
    rw [clamped] at clamped'
    show (let made := (withHistory history (grid.moveRow (saturatingAdd grid.pos.row count))).rowClampBottom grid.inScrollRegion
      if grid.inScrollRegion then (made.1.scrollUp made.2).map fun next => (next, made.2) else some (made.1, 0)) = _
    rw [clamped']
  simp only [shape]
  refine .ite (fun _ => ?_) fun _ => ⟨some ((next, 0), []), fun _ => rfl⟩
  exact (logs_scrollUp lines next).map (g := fun next => (next, lines)) fun _ _ => rfl

theorem logs_rowInc (count : Nat) : Logs fun grid => (grid.rowIncScroll count).map Prod.fst :=
  fun grid => (writes_rowIncScroll count grid).map fun _ _ => rfl

theorem logs_rowDecScroll (count : Nat) : Logs (rowDecScroll count) := by
  intro grid
  obtain ⟨⟨next, lines⟩, clamped⟩ : ∃ made,
      (grid.moveRow (grid.pos.row - count)).rowClampTop grid.inScrollRegion = made := ⟨_, rfl⟩
  have shape (history : History) : (grid.withHistory history).rowDecScroll count =
      (next.withHistory history).scrollDown (lines + (count - grid.pos.row)) := by
    have clamped' := rowClampTop_withHistory grid.inScrollRegion (grid.moveRow (grid.pos.row - count)) history
    rw [clamped] at clamped'
    show (let made := (withHistory history (grid.moveRow (grid.pos.row - count))).rowClampTop grid.inScrollRegion
      made.1.scrollDown (made.2 + (count - grid.pos.row))) = _
    rw [clamped']
  simp only [shape]
  exact logs_scrollDown _ next

theorem logs_colWrap (width : Nat) (wrap : Bool) : Logs (colWrap width wrap) := by
  intro grid
  show Writes _ _ fun history => if grid.pos.col > grid.size.cols - width then
      (grid.withHistory history).wrapRow grid.pos.row wrap >>= fun marked => (marked.moveCol 0).rowIncScroll 1 >>= fun made =>
        if made.2 = 0 ∧ made.1.pos.row = grid.pos.row then made.1.wrapRow grid.pos.row false else some made.1
    else some (grid.withHistory history)
  refine .ite (fun _ => (writes_wrapRow _ _ grid).bind fun marked => ?_) fun _ => .unchanged grid
  refine (writes_rowIncScroll 1 (marked.moveCol 0)).bind fun made => ?_
  show Writes _ _ fun history => if made.2 = 0 ∧ made.1.pos.row = grid.pos.row then
    (made.1.withHistory history).wrapRow grid.pos.row false else some (made.1.withHistory history)
  exact .ite (fun _ => writes_wrapRow _ _ _) fun _ => .unchanged _

theorem logs_eraseAllForward (attrs : Attrs) : Logs (eraseAllForward attrs) := fun grid =>
  writes_updateRow grid.pos.row (eraseColumns attrs grid.pos.col grid.size.cols)
    { grid with rows := grid.rows.take (grid.pos.row + 1) ++ (grid.rows.drop (grid.pos.row + 1)).map (.clear attrs) }

theorem logs_eraseAllBackward (attrs : Attrs) : Logs (eraseAllBackward attrs) := fun grid =>
  writes_updateRow grid.pos.row (eraseColumns attrs 0 (min grid.pos.col (grid.size.cols - 1) + 1))
    { grid with rows := (grid.rows.take grid.pos.row).map (.clear attrs) ++ grid.rows.drop grid.pos.row }

theorem logs_insertCells (count : Nat) : Logs (insertCells count) := by
  intro grid
  show Writes _ _ fun history =>
    (if grid.pos.col < grid.size.cols then (grid.drawingCell grid.pos).map (·.wideContinuation) else some false) >>= fun wide =>
      (grid.withHistory history).updateRow grid.pos.row fun row =>
        (Checked.times (Row.insertCell wide grid.pos.col) count row).map (.truncate grid.size.cols)
  exact .given _ fun wide => writes_updateRow _ _ _

theorem logs_deleteCells (count : Nat) : Logs (deleteCells count) := by
  intro grid
  show Writes _ _ fun history => Checked.sub grid.size.cols grid.pos.col >>= fun room =>
    (grid.withHistory history).updateRow grid.pos.row fun row =>
      (Checked.times (Row.remove grid.pos.col) (min count room) row).map (.resize grid.size.cols {})
  exact .given _ fun wide => writes_updateRow _ _ _

end Grid

/-! ## Screens -/

namespace Screen

/-- The alternate screen has no history. -/
def withHistory (history : History) (screen : Screen) : Screen := { screen with main := screen.main.withHistory history }

/-- The same with every history, which is only written to. -/
def Logs (f : Screen → Option Screen) : Prop :=
  ∀ screen : Screen, Writes withHistory History.edit fun history => f (screen.withHistory history)

variable {screen : Screen}

theorem logs_combine (c : Char) : Grid.Logs (combine c) := by
  intro grid
  show Writes _ _ fun history =>
    if grid.pos.col > 0 then (grid.withHistory history).updateRow grid.pos.row (join c (grid.pos.col - 1))
    else if grid.pos.row > 0 then grid.drawingRow (grid.pos.row - 1) >>= fun prevRow =>
      if prevRow.wrapped then (grid.withHistory history).updateRow (grid.pos.row - 1) (join c (grid.size.cols - 1))
      else some (grid.withHistory history)
    else some (grid.withHistory history)
  refine .ite (fun _ => Grid.writes_updateRow _ _ _) fun _ => .ite (fun _ => .given _ fun prevRow => ?_) fun _ => .unchanged _
  exact .ite (fun _ => Grid.writes_updateRow _ _ _) fun _ => .unchanged _

theorem logs_drawText (width : Width) (attrs : Attrs) (c : Char) : Grid.Logs (drawText width attrs c) := by
  intro grid
  show Writes _ _ fun history => wraps (width.columns c) grid >>= fun wrap =>
    (grid.withHistory history).colWrap (width.columns c) wrap >>= fun grid =>
    if width.columns c = 0 then combine c grid
    else grid.updateRow grid.pos.row (Row.place width c attrs grid.size.cols grid.pos.col) >>= fun drawn =>
      some (if width.columns c > 1 then (drawn.colInc 1).colInc 1 else drawn.colInc 1)
  refine .given _ fun wrap => (Grid.logs_colWrap _ _ grid).bind fun grid => ?_
  refine .ite (fun _ => logs_combine c grid) fun _ => ?_
  refine (Grid.writes_updateRow grid.pos.row (Row.place width c attrs grid.size.cols grid.pos.col) grid).bind fun drawn => ?_
  have shape (history : History) : (if width.columns c > 1 then ((drawn.withHistory history).colInc 1).colInc 1
      else (drawn.withHistory history).colInc 1) =
      (if width.columns c > 1 then (drawn.colInc 1).colInc 1 else drawn.colInc 1).withHistory history := by
    split_ifs <;> rfl
  simp only [shape]
  exact .unchanged _

theorem logs_tryGrid {f : Grid → Option Grid} (logs : Grid.Logs f) : Logs (tryGrid f) := by
  intro screen
  show Writes _ _ fun history =>
    if screen.modes.alternateScreen then
      (f screen.alternate).map fun alternate => withHistory history { screen with alternate }
    else (f (screen.main.withHistory history)).map fun main => { screen with main }
  refine .ite (fun _ => ?_) fun _ => (logs screen.main).map (g := fun main => { screen with main }) fun _ _ => rfl
  simp only [Option.map_eq_bind]
  exact .given (f screen.alternate) fun alternate => .unchanged { screen with alternate }

theorem logs_onGrid {f : Grid → Grid} (still : Grid.Still f) : Logs fun screen => some (screen.onGrid f) := by
  have logs : Grid.Logs fun grid => some (f grid) := fun grid => by
    simp only [still grid]
    exact .unchanged (f grid)
  intro screen
  simp only [← onGrid_eq]
  exact logs_tryGrid logs screen

theorem grid_size (history : History) : (screen.withHistory history).grid.size = screen.grid.size := by
  unfold Screen.grid
  show (if screen.modes.alternateScreen then screen.alternate else screen.main.withHistory history).size = _
  split_ifs <;> rfl

/-- What only changes the other fields. -/
theorem logs_some {f : Screen → Screen}
    (still : ∀ (screen : Screen) (history : History), f (screen.withHistory history) = (f screen).withHistory history) :
    Logs fun screen => some (f screen) := by
  intro screen
  simp only [still]
  exact .unchanged (f screen)

theorem Logs.then {f g : Screen → Screen} (first : Logs fun screen => some (f screen))
    (second : Logs fun screen => some (g screen)) : Logs fun screen => some (g (f screen)) := by
  intro screen
  show Writes _ _ fun history => some (f (screen.withHistory history)) >>= fun screen => some (g screen)
  exact (first screen).bind second

theorem logs_text (width : Width) (c : Char) : Logs (text width c) := by
  intro screen
  unfold Screen.text
  simp only [grid_size]
  refine .ite (fun _ => .unchanged _) fun _ => .ite (fun _ => .unchanged _) fun _ => ?_
  exact logs_tryGrid (logs_drawText width screen.attrs c) screen

theorem logs_print (width : Width) (c : Char) : Logs (print width c) := by
  intro screen
  unfold Screen.print
  exact .ite (fun _ => .unchanged _) fun _ => logs_text width c screen

theorem logs_execute (b : Nat) : Logs (execute b) := by
  intro screen
  have feed := logs_tryGrid (Grid.logs_rowInc 1) screen
  unfold Screen.execute
  split
  · exact logs_onGrid (fun _ _ => rfl) screen
  · exact logs_onGrid (f := .colTab)
      (fun grid => Grid.still_colClamp (grid.moveCol ((grid.pos.col - grid.pos.col % 8 + 8) % (u16Max + 1)))) screen
  · exact feed
  · exact feed
  · exact feed
  · exact logs_onGrid (Grid.still_colSet 0) screen
  · exact .unchanged _

theorem ris_withHistory (history : History) :
    (screen.withHistory history).ris = screen.ris.withHistory (history.edit .forget) := by
  simp [Screen.ris, Screen.withHistory, Screen.new, Grid.withHistory, Grid.new, Grid.allocateRows, Grid.newRow, History.edit]

theorem logs_decsc : Logs fun screen => some screen.decsc := by
  intro screen
  exact (logs_onGrid (f := .saveCursor) fun _ _ => rfl).then
    (logs_some (f := fun saved => { saved with savedAttrs := screen.attrs }) fun _ _ => rfl) screen

theorem logs_decrc : Logs fun screen => some screen.decrc := by
  intro screen
  exact (logs_onGrid (f := .restoreCursor) fun _ _ => rfl).then
    (logs_some (f := fun restored => { restored with attrs := screen.savedAttrs }) fun _ _ => rfl) screen

theorem logs_escDispatch (intermediates : List Nat) (b : Nat) : Logs (escDispatch intermediates b) := by
  intro screen
  unfold Screen.escDispatch
  refine .ite (fun _ => .unchanged _) fun _ => .ite (fun _ => logs_decsc screen) fun _ => ?_
  have keypad (on : Bool) :
      Logs fun screen => some { screen with modes := { screen.modes with applicationKeypad := on } } := logs_some fun _ _ => rfl
  refine .ite (fun _ => logs_decrc screen) fun _ => .ite (fun _ => keypad true screen) fun _ => ?_
  refine .ite (fun _ => keypad false screen) fun _ => .ite (fun _ => logs_tryGrid (Grid.logs_rowDecScroll 1) screen) fun _ => ?_
  refine .ite (fun _ => ?_) fun _ => .unchanged _
  simp only [ris_withHistory]
  exact .edits _ [History.Edit.forget]

theorem logs_ed (mode : Nat) : Logs (ed mode) := by
  intro screen
  unfold Screen.ed
  split
  · exact logs_tryGrid (Grid.logs_eraseAllForward screen.attrs) screen
  · exact logs_tryGrid (Grid.logs_eraseAllBackward screen.attrs) screen
  · exact logs_onGrid (f := .eraseAll screen.attrs) (fun _ _ => rfl) screen
  · exact .unchanged _

theorem logs_el (mode : Nat) : Logs (el mode) := by
  intro screen
  unfold Screen.el
  split
  · refine logs_tryGrid (f := Grid.eraseRowForward screen.attrs) (fun grid => ?_) screen
    exact Grid.writes_updateRow grid.pos.row (Grid.eraseColumns screen.attrs grid.pos.col grid.size.cols) grid
  · refine logs_tryGrid (f := Grid.eraseRowBackward screen.attrs) (fun grid => ?_) screen
    exact Grid.writes_updateRow grid.pos.row
      (Grid.eraseColumns screen.attrs 0 (min grid.pos.col (grid.size.cols - 1) + 1)) grid
  · refine logs_tryGrid (f := Grid.eraseRow screen.attrs) (fun grid => ?_) screen
    exact Grid.writes_updateRow grid.pos.row (fun row => some (row.clear screen.attrs)) grid
  · exact .unchanged _

theorem logs_csi (params : List (List Nat)) (c : Char) : Logs (csi params c) := by
  intro screen
  have less (n : Nat) {next : Nat → Screen → Screen} (rest : ∀ m, Logs fun screen => some (next m screen)) :
      Writes withHistory History.edit fun history =>
        Checked.sub n 1 >>= fun m => some (next m (screen.withHistory history)) := .given _ fun m => rest m screen
  unfold Screen.csi
  simp only [grid_size]
  split
  · exact logs_tryGrid (Grid.logs_insertCells _) screen
  · exact logs_onGrid (Grid.still_rowDecClamp _) screen
  · exact logs_onGrid (Grid.still_rowIncClamp _) screen
  · exact logs_onGrid (f := .colIncClamp (canonicalizeParam params 0 1))
      (fun grid => Grid.still_colClamp (grid.colInc _)) screen
  · exact logs_onGrid (f := .colDec (canonicalizeParam params 0 1)) (fun _ _ => rfl) screen
  · exact logs_onGrid ((Grid.still_rowIncClamp _).comp (Grid.still_colSet 0)) screen
  · exact logs_onGrid ((Grid.still_rowDecClamp _).comp (Grid.still_colSet 0)) screen
  · exact less _ fun col => logs_onGrid (Grid.still_colSet col)
  · exact .given _ fun row => less _ fun col => logs_onGrid (Grid.still_setPos { row, col })
  · exact logs_ed _ screen
  · exact logs_el _ screen
  · exact logs_tryGrid (Grid.logs_insertLines _) screen
  · exact logs_tryGrid (Grid.logs_deleteLines _) screen
  · exact logs_tryGrid (Grid.logs_deleteCells _) screen
  · exact logs_tryGrid (Grid.logs_scrollUp _) screen
  · exact logs_tryGrid (Grid.logs_scrollDown _) screen
  · refine logs_tryGrid (f := Grid.eraseCells _ screen.attrs) (fun grid => ?_) screen
    exact Grid.writes_updateRow grid.pos.row (Grid.eraseColumns screen.attrs grid.pos.col
      (min (saturatingAdd grid.pos.col (canonicalizeParam params 0 1)) grid.size.cols)) grid
  · exact less _ fun row => logs_onGrid (f := .rowSet row) fun grid => Grid.still_rowClamp (grid.moveRow row)
  · refine logs_some (f := fun screen => screen.sgr params) (fun screen history => ?_) screen
    unfold Screen.sgr
    split_ifs <;> rfl
  · exact .given _ fun top => less _ fun bottom => logs_onGrid (Grid.still_setScrollRegion top bottom)
  · exact .unchanged _

/-- The view goes back to the bottom, where the main screen is in use. -/
theorem logs_setScrollback (rows : Nat) : Logs fun screen => some (screen.setScrollback rows) := by
  intro screen
  by_cases used : screen.modes.alternateScreen
  · have shape (history : History) : (screen.withHistory history).setScrollback rows =
        (screen.setScrollback rows).withHistory history := by
      unfold Screen.setScrollback Screen.onGrid
      rw [if_pos used, if_pos (show (screen.withHistory history).modes.alternateScreen = true from used)]
      rfl
    simp only [shape]
    exact .unchanged _
  · have shape (history : History) : (screen.withHistory history).setScrollback rows =
        (screen.setScrollback rows).withHistory (history.edit (.scroll rows)) := by
      unfold Screen.setScrollback Screen.onGrid
      rw [if_neg used, if_neg (show ¬ (screen.withHistory history).modes.alternateScreen = true from used)]
      rfl
    simp only [shape]
    exact .edits _ [History.Edit.scroll rows]

theorem logs_enterAlternateGrid : Logs fun screen => some screen.enterAlternateGrid :=
  (logs_setScrollback 0).then (g := fun screen => { screen with
    modes := { screen.modes with alternateScreen := true }
    alternate := screen.alternate.allocateRows }) (logs_some fun _ _ => rfl)

theorem logs_setOriginMode (on : Bool) : Logs fun screen => some (screen.onGrid (.setOriginMode on)) :=
  logs_onGrid fun grid => Grid.still_setPos {} { grid with originMode := on }

theorem logs_decsetParam (param : List Nat) : Logs fun screen => some (screen.decsetParam param) := by
  by_cases origin : param = [6]
  · subst origin
    exact logs_setOriginMode true
  by_cases old : param = [47]
  · subst old
    exact logs_enterAlternateGrid
  by_cases new : param = [1049]
  · subst new
    exact (logs_decsc.then (logs_some (f := fun saved => { saved with alternate := saved.alternate.clear }) fun _ _ => rfl)).then
      logs_enterAlternateGrid
  refine logs_some fun screen history => ?_
  unfold Screen.decsetParam
  split <;> first | rfl | contradiction

theorem clearMouseMode_withHistory (mode : MouseProtocolMode) (screen : Screen) (history : History) :
    (screen.withHistory history).clearMouseMode mode = (screen.clearMouseMode mode).withHistory history := by
  by_cases set : screen.mouseProtocolMode = mode <;> simp [clearMouseMode, withHistory, set]

theorem clearMouseEncoding_withHistory (encoding : MouseProtocolEncoding) (screen : Screen) (history : History) :
    (screen.withHistory history).clearMouseEncoding encoding = (screen.clearMouseEncoding encoding).withHistory history := by
  by_cases set : screen.mouseProtocolEncoding = encoding <;> simp [clearMouseEncoding, withHistory, set]

theorem logs_decrstParam (param : List Nat) : Logs fun screen => some (screen.decrstParam param) := by
  have leave : Logs fun screen => some screen.exitAlternateGrid := logs_some fun _ _ => rfl
  by_cases origin : param = [6]
  · subst origin
    exact logs_setOriginMode false
  by_cases new : param = [1049]
  · subst new
    exact leave.then logs_decrc
  refine logs_some fun screen history => ?_
  unfold Screen.decrstParam
  split
  all_goals first | rfl | contradiction | exact clearMouseMode_withHistory .. | exact clearMouseEncoding_withHistory ..

theorem logs_csiPrivate (params : List (List Nat)) (c : Char) : Logs (csiPrivate params c) := by
  intro screen
  unfold Screen.csiPrivate
  split
  · exact logs_ed _ screen
  · exact logs_el _ screen
  · exact .foldl (fun screen param => logs_decsetParam param screen) params screen
  · exact .foldl (fun screen param => logs_decrstParam param screen) params screen
  · exact .unchanged _

theorem logs_perform (width : Width) (call : Call) : Logs fun screen => screen.perform width call := by
  intro screen
  cases call with
  | print c => exact logs_print width c screen
  | execute b => exact logs_execute b screen
  | escDispatch intermediates b => exact logs_escDispatch intermediates b screen
  | csiDispatch params intermediates c =>
      show Writes _ _ fun history => (screen.withHistory history).csiDispatch params intermediates c
      unfold Screen.csiDispatch
      split
      · exact logs_csi params c screen
      · exact logs_csiPrivate params c screen
      · exact .unchanged _
  | oscDispatch params => exact .unchanged _

theorem logs_apply (width : Width) (event : Event) : Logs fun screen => screen.apply width event := by
  cases event with
  | call call => exact logs_perform width call
  | setSize rows cols =>
      refine logs_some (f := fun screen => screen.setSize rows cols) fun screen history => ?_
      unfold Screen.setSize
      rw [show (screen.withHistory history).main = screen.main.withHistory history from rfl, Grid.still_setSize]
      rfl
  | setScrollback rows => exact logs_setScrollback rows

/-- The screen apart from its history. -/
def withoutHistory (screen : Screen) : Screen := screen.withHistory { scrollbackLen := 0 }

theorem new_withHistory (size : Size) (scrollbackLen : Nat) :
    (new size 0).withHistory { scrollbackLen } = new size scrollbackLen := by
  simp [Screen.withHistory, Screen.new, Grid.withHistory, Grid.new, Grid.allocateRows, Grid.newRow]

/-- Parsers that differ in their limit only go through the same screens, and the history
of each is the end of the same rows: as many as its limit allows. -/
theorem run_history (width : Width) (size : Size) (events : List Event) :
    ∃ result : Option (Screen × List Row), ∀ scrollbackLen,
      (run width events (new size scrollbackLen)).map (fun screen => (screen.withoutHistory, screen.main.scrollback)) =
        result.map fun made => (made.1, made.2.rtake scrollbackLen) := by
  obtain ⟨result, same⟩ : Writes withHistory History.edit fun history => run width events ((new size 0).withHistory history) :=
    .foldlM (fun screen event => logs_apply width event screen) events _
  refine ⟨result.map fun made => (made.1.withoutHistory, made.2.foldl History.append []), fun scrollbackLen => ?_⟩
  rw [← new_withHistory, show run _ _ _ = _ from same { scrollbackLen }, Option.map_map, Option.map_map]
  congr 1
  funext ⟨next, changes⟩
  have kept := @History.edits_window changes { scrollbackLen } [] (List.rtake_nil _).symm
  exact Prod.ext rfl kept.2

end Screen

end Ezpn.Emulator
