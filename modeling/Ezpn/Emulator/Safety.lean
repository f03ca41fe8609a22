import Ezpn.Emulator.Soundness
import Ezpn.Emulator.Screen

/-!
# The parser never stops

What programs print arrives as calls of the `vte` crate; panes resize the screen and
scroll its view between them. Both grids of a screen are sound in every state that
such runs reach. So no index is outside and nothing that the parser unwraps is absent,
whatever a program prints.
-/

set_option autoImplicit false

namespace Ezpn.Emulator

open Checked (Ensures)

namespace Grid

theorem allocateRows_of_rows {grid : Grid} (allocated : grid.rows ≠ []) : grid.allocateRows = grid := if_neg allocated

theorem Sound.rows_ne_nil {grid : Grid} (sound : grid.Sound) : grid.rows ≠ [] := by
  have positive := sound.proper.rows_pos
  rw [← sound.allocated] at positive
  exact List.ne_nil_of_length_pos positive

theorem Sound.allocateRows_eq {grid : Grid} (sound : grid.Sound) : grid.allocateRows = grid :=
  allocateRows_of_rows sound.rows_ne_nil

/-- Rows that fit, as many as the grid is high. -/
theorem replicate_fits (rows cols : Nat) :
    (List.replicate rows (Row.new cols)).length = rows ∧ ∀ row ∈ List.replicate rows (Row.new cols), row.Fits cols :=
  ⟨List.length_replicate, fun _ member => List.eq_of_mem_replicate member ▸ Row.new_fits cols⟩

/-- As `size` rows that fit, a grid may be drawn anew. -/
theorem Sound.shaped {grid : Grid} (proper : grid.size.Proper) (rows : grid.rows.length = grid.size.rows)
    (live : ∀ row ∈ grid.rows, row.Fits grid.size.cols) (past : ∀ row ∈ grid.scrollback, row.plain.Paired)
    (bounded : grid.scrollback.length ≤ grid.scrollbackLen) (inside : grid.scrollbackOffset ≤ grid.scrollback.length)
    (home : grid.pos = {} ∧ grid.savedPos = {}) (region : grid.scrollTop = 0 ∧ grid.scrollBottom = grid.size.rows - 1) :
    grid.Sound := by
  have positive := proper.rows_pos
  refine ⟨proper, rows, live, past, bounded, inside, ?_, ?_, ?_, ?_, ?_, ?_⟩
  all_goals simp only [home.1, home.2, region.1, region.2]
  all_goals omega

theorem new_sound {size : Size} (proper : size.Proper) (scrollbackLen : Nat) : (new size scrollbackLen).allocateRows.Sound := by
  have rows := replicate_fits size.rows size.cols
  refine .shaped ?_ ?_ ?_ ?_ ?_ ?_ ⟨rfl, rfl⟩ ⟨rfl, rfl⟩
  · exact proper
  · exact rows.1
  · exact rows.2
  · exact fun row member => (List.not_mem_nil member).elim
  · exact Nat.zero_le _
  · exact Nat.zero_le _

/-- Allocation adds rows to a grid without any. -/
theorem allocateRows_frame (grid : Grid) :
    ∃ rows, grid.allocateRows = { grid with rows } ∧ ∀ row ∈ grid.rows, row ∈ rows := by
  unfold allocateRows
  split_ifs with empty
  · exact ⟨_, rfl, fun row member => absurd member (by simp [empty])⟩
  · exact ⟨grid.rows, rfl, fun _ member => member⟩

theorem clear_sound {grid : Grid} (sound : grid.allocateRows.Sound) : grid.clear.allocateRows.Sound := by
  by_cases empty : grid.rows = []
  · obtain ⟨rows, same, -⟩ := allocateRows_frame grid
    rw [same] at sound
    have fresh : grid.clear.allocateRows = { grid.clear with rows := List.replicate grid.size.rows grid.newRow } :=
      if_pos (by simp [clear, empty])
    have fits := replicate_fits grid.size.rows grid.size.cols
    rw [fresh]
    exact .shaped sound.proper fits.1 fits.2 sound.past sound.bounded sound.in_history ⟨rfl, rfl⟩ ⟨rfl, rfl⟩
  · rw [allocateRows_of_rows empty] at sound
    rw [allocateRows_of_rows (by simpa [clear] using empty)]
    refine .shaped sound.proper ?_ ?_ sound.past sound.bounded sound.in_history ⟨rfl, rfl⟩ ⟨rfl, rfl⟩
    · exact (List.length_map _).trans sound.allocated
    · intro row member
      obtain ⟨old, present, rfl⟩ := List.mem_map.mp member
      exact (sound.live old present).clear {}

theorem Sound.setScrollback {grid : Grid} (sound : grid.Sound) (rows : Nat) : (grid.setScrollback rows).Sound :=
  { sound with in_history := Nat.min_le_right .. }

theorem resizeRows_fit {size : Size} {rows : List Row} (paired : ∀ row ∈ rows, row.plain.Paired) :
    (resizeRows size rows).length = size.rows ∧ ∀ row ∈ resizeRows size rows, row.Fits size.cols := by
  constructor
  · simp only [resizeRows, List.length_append, List.length_take, List.length_map, List.length_replicate]
    omega
  · intro row member
    rcases List.mem_append.mp member with old | fresh
    · obtain ⟨before, present, rfl⟩ := List.mem_map.mp (List.mem_of_mem_take old)
      exact Row.resize_paired (paired before present) _
    · exact List.eq_of_mem_replicate fresh ▸ Row.new_fits _

/-- What a resize does besides the rows and the scroll region. -/
theorem setSize_eq (size : Size) (grid : Grid) : grid.setSize size = { grid with
    size
    rows := resizeRows size (if size.cols ≠ grid.size.cols then grid.rows.map (.wrap false) else grid.rows)
    scrollTop := (grid.setSize size).scrollTop
    scrollBottom := (grid.setSize size).scrollBottom
    pos := { row := min grid.pos.row (size.rows - 1), col := min grid.pos.col (size.cols - 1) }
    savedPos := { row := min grid.savedPos.row (size.rows - 1), col := min grid.savedPos.col (size.cols - 1) } } := by
  unfold setSize
  dsimp only
  rw [colClamp_eq, rowClampBottom_fst, rowClampTop_fst]
  simp only [moveRow, moveCol, Bool.false_eq_true, false_and, if_false]

/-- A size that panes ask for is taken on, and the rows with it. -/
theorem setSize_sound {grid : Grid} (sound : grid.allocateRows.Sound) {size : Size} (proper : size.Proper) :
    (grid.setSize size).Sound := by
  obtain ⟨allocated, same, kept⟩ := allocateRows_frame grid
  rw [same] at sound
  have rows := proper.rows_pos
  have cols := proper.cols_pos
  have region := sound.region
  have bottom := sound.bottom_lt
  dsimp only at region bottom
  have paired : ∀ row ∈ (if size.cols ≠ grid.size.cols then grid.rows.map (.wrap false) else grid.rows),
      row.plain.Paired := by
    intro row member
    split_ifs at member
    · obtain ⟨old, present, rfl⟩ := List.mem_map.mp member
      exact Row.wrap_paired (sound.live old (kept old present)).1 false
    · exact (sound.live row (kept row member)).1
  have fit := @resizeRows_fit size _ paired
  have scroll : (grid.setSize size).scrollTop ≤ (grid.setSize size).scrollBottom ∧
      (grid.setSize size).scrollBottom < size.rows := by
    unfold Grid.setSize
    dsimp only
    rw [colClamp_eq, rowClampBottom_fst, rowClampTop_fst]
    dsimp only [moveRow, moveCol]
    split_ifs <;> omega
  rw [setSize_eq]
  refine ⟨proper, fit.1, fit.2, sound.past, sound.bounded, sound.in_history, ?_, ?_, ?_, ?_, scroll.1, scroll.2⟩
  all_goals dsimp only
  all_goals omega

theorem setSize_size (size : Size) (grid : Grid) : (grid.setSize size).size = size := by rw [setSize_eq]

end Grid

/-! ## Screens -/

/-- The alternate grid has no rows before it is first in use. -/
structure Screen.Sound (screen : Screen) : Prop where
  main : screen.main.Sound
  alternate : screen.alternate.allocateRows.Sound
  size : screen.alternate.size = screen.main.size
  inUse : screen.modes.alternateScreen = true → screen.alternate.rows ≠ []

namespace Screen
variable {screen : Screen}

theorem new_sound {size : Size} (proper : size.Proper) (scrollbackLen : Nat) : (new size scrollbackLen).Sound where
  main := Grid.new_sound proper scrollbackLen
  alternate := Grid.new_sound proper 0
  size := rfl
  inUse used := absurd used (by simp [new])

theorem Sound.alternateSound (sound : screen.Sound) (used : screen.modes.alternateScreen = true) :
    screen.alternate.Sound := by
  have allocated := sound.alternate
  rwa [Grid.allocateRows_of_rows (sound.inUse used)] at allocated

theorem Sound.grid (sound : screen.Sound) : screen.grid.Sound := by
  unfold Screen.grid
  split
  · rename_i used
    exact sound.alternateSound used
  · exact sound.main

theorem Sound.grid_size (sound : screen.Sound) : screen.grid.size = screen.main.size := by
  unfold Screen.grid
  split_ifs
  · exact sound.size
  · rfl

/-- What a call may do: the history of the main screen is written to, at most. -/
structure Step (screen next : Screen) : Prop where
  sound : next.Sound
  main : screen.main.Evolves next.main

theorem Sound.still (sound : screen.Sound) {next : Screen} (main : next.main = screen.main)
    (alternate : next.alternate = screen.alternate)
    (modes : next.modes.alternateScreen = screen.modes.alternateScreen) : screen.Step next where
  sound := {
    main := main ▸ sound.main
    alternate := alternate ▸ sound.alternate
    size := by rw [main, alternate, sound.size]
    inUse := fun used => by
      rw [alternate]
      exact sound.inUse (modes ▸ used) }
  main := main ▸ sound.main.still

theorem Sound.tryGrid (sound : screen.Sound) {f : Grid → Option Grid}
    (step : ∀ grid : Grid, grid = screen.grid → grid.Sound → Ensures (f grid) grid.Step) :
    Ensures (screen.tryGrid f) screen.Step := by
  unfold Screen.tryGrid
  split
  · rename_i used
    refine (step _ (if_pos used).symm (sound.alternateSound used)).map fun next later => ⟨?_, sound.main.still⟩
    exact {
      main := sound.main
      alternate := by
        rw [later.sound.allocateRows_eq]
        exact later.sound
      size := later.evolves.size.trans sound.size
      inUse := fun _ => later.sound.rows_ne_nil }
  · rename_i unused
    refine (step _ (if_neg unused).symm sound.main).map fun next later => ⟨?_, later.evolves⟩
    exact {
      main := later.sound
      alternate := sound.alternate
      size := sound.size.trans later.evolves.size.symm
      inUse := fun used => absurd used unused }

theorem onGrid_eq (f : Grid → Grid) (screen : Screen) : screen.tryGrid (fun grid => some (f grid)) = some (screen.onGrid f) := by
  unfold Screen.tryGrid Screen.onGrid
  split <;> rfl

theorem Sound.onGrid (sound : screen.Sound) {f : Grid → Grid} (step : ∀ grid : Grid, grid.Sound → grid.Step (f grid)) :
    screen.Step (screen.onGrid f) :=
  (sound.tryGrid (f := fun grid => some (f grid)) fun grid _ sound => .some (step grid sound)).holds (onGrid_eq f screen)

/-! ## Text -/

/-- The column is that of a character, or of the second half of one. -/
theorem ensures_join {cols last : Nat} {row : Row} (fits : row.Fits cols) (inside : last < cols) {c : Char}
    (unbroken : c ≠ '\n') : Ensures (join c last row) fun next => next.Fits cols ∧ next.plain =
      row.plain.modifyCell (if (row.plain.get last).wideContinuation then last - 1 else last) (.append c) := by
  obtain ⟨paired, length⟩ := fits
  refine (@Row.ensures_cell row last (by omega)).bind fun cell here => ?_
  rw [← here]
  refine .bind (P := fun col => col = (if cell.wideContinuation then last - 1 else last) ∧ col < cols ∧
    (row.plain.get col).wideContinuation = false) ?_ ?_
  · cases shadow : cell.wideContinuation with
    | false => exact .some ⟨rfl, inside, by rw [← here, shadow]⟩
    | true =>
        cases last with
        | zero => exact absurd paired.first (by simp [← here, shadow])
        | succ left =>
            have wide := paired.next left
            rw [← here, shadow] at wide
            exact ⟨left, rfl, rfl, by omega, paired.own wide.symm⟩
  · rintro col ⟨column, within, own⟩
    rw [← column]
    refine (Row.ensures_update (g := Ezpn.Cell.append c) (by omega) fun _ => rfl).mono fun next made => ?_
    refine ⟨⟨?_, made.2.trans length⟩, made.1⟩
    rw [made.1]
    exact paired.modifyCell (fun _ => Ezpn.Cell.wide_append c _) (fun _ => Ezpn.Cell.wideContinuation_append c _)
      ((paired.cells col).append unbroken own)

theorem ensures_combine {grid : Grid} (sound : grid.Sound) {c : Char} (unbroken : c ≠ '\n') :
    Ensures (combine c grid) grid.Draws := by
  have col := sound.col_le
  have row := sound.row_lt
  have cols := sound.proper.cols_pos
  have joined {i last : Nat} (inside : i < grid.size.rows) (within : last < grid.size.cols) :
      Ensures (grid.updateRow i (join c last)) grid.Draws :=
    sound.updateRow inside fun _ _ fits => (ensures_join fits within unbroken).mono fun _ made => made.1
  unfold combine
  split_ifs with after below
  · exact joined row (by omega)
  · refine (sound.row (show grid.pos.row - 1 < grid.size.rows by omega)).bind fun prevRow _ => ?_
    split_ifs
    · exact joined (by omega) (by omega)
    · exact .some sound.draws
  · exact .some sound.draws

theorem ensures_wraps {grid : Grid} (sound : grid.Sound) {columns : Nat} (narrow : columns ≤ grid.size.cols) :
    Ensures (wraps columns grid) fun _ => True := by
  have cols := sound.proper.cols_pos
  refine .bind ⟨_, Checked.sub_of_le narrow, trivial⟩ (P := fun _ => True) fun room _ => ?_
  split_ifs
  · obtain ⟨row, drawn, fits⟩ := sound.row sound.row_lt
    refine .bind (P := fun _ => True) ?_ fun _ _ => .some trivial
    rw [Grid.drawingCell, drawn, Option.bind_some]
    exact (Row.ensures_cell (by rw [fits.2]; exact Nat.sub_one_lt_of_lt cols)).mono fun _ _ => trivial
  · exact .some trivial

theorem ensures_drawText {width : Width} (lawful : width.Lawful) {grid : Grid} (sound : grid.Sound) {c : Char}
    (unbroken : c ≠ '\n') (narrow : width.columns c ≤ grid.size.cols) (attrs : Attrs) :
    Ensures (drawText width attrs c grid) grid.Step := by
  refine (ensures_wraps sound narrow).bind fun wrap _ => ?_
  refine (sound.colWrap narrow wrap).bind ?_
  rintro wrapped ⟨step, fits⟩
  have size := step.evolves.size
  have limit := sound.proper.cols_le
  refine .ite (fun _ => (ensures_combine step.sound unbroken).mono fun _ later => step.trans sound later.toStep) fun mark => ?_
  have room : wrapped.pos.col + (if width.columns c > 1 then 2 else 1) ≤ grid.size.cols := by split_ifs <;> omega
  refine .bind (step.sound.updateRow step.sound.row_lt fun row _ fitting => ?_) fun drawn later => .some ?_
  · have inside : wrapped.pos.col + (if width.columns c > 1 then 2 else 1) ≤ row.cells.length := by
      rw [fitting.2, size]
      exact room
    refine (Row.ensures_place fitting.1 inside lawful.columns_blank).mono fun next made => ?_
    refine ⟨?_, made.2.trans fitting.2⟩
    rw [made.1]
    exact fitting.1.place lawful.columns_blank unbroken (by rwa [Row.length_plain])
  · have whole := step.trans sound later.toStep
    refine whole.trans sound ?_
    have col : drawn.pos.col = wrapped.pos.col := by rw [later.pos]
    have cols : drawn.size.cols = grid.size.cols := by rw [whole.evolves.size]
    split_ifs with broad
    · rw [if_pos broad] at room
      refine whole.sound.moved whole.sound.row_lt ?_
      simp only [Grid.colInc, Grid.moveCol, saturatingAdd]
      omega
    · rw [if_neg broad] at room
      refine whole.sound.moved whole.sound.row_lt ?_
      simp only [saturatingAdd]
      omega

theorem Sound.text {width : Width} (lawful : width.Lawful) (sound : screen.Sound) (c : Char) :
    Ensures (screen.text width c) screen.Step := by
  unfold Screen.text
  split_ifs with control broad
  · exact .some (sound.still rfl rfl rfl)
  · exact .some (sound.still rfl rfl rfl)
  · refine sound.tryGrid ?_
    rintro grid rfl inUse
    refine ensures_drawText lawful inUse ?_ (Nat.le_of_not_lt broad) _
    rintro rfl
    exact control ⟨lawful.newline, by decide⟩

/-! ## Modes and resets -/

/-- What every call but a reset does to the history of the main screen: rows are written at its end. -/
structure Records (screen next : Screen) : Prop where
  sound : next.Sound
  scrollbackLen : next.main.scrollbackLen = screen.main.scrollbackLen
  log : ∃ pushed, next.main.scrollback = (screen.main.scrollback ++ pushed).rtake screen.main.scrollbackLen

theorem Step.records {next : Screen} (step : screen.Step next) : screen.Records next := by
  obtain ⟨pushed, follows⟩ := step.main.history
  exact ⟨step.sound, step.main.scrollbackLen, pushed, follows.log⟩

theorem Records.trans {next last : Screen} (earlier : screen.Records next) (later : next.Records last) :
    screen.Records last := by
  obtain ⟨first, log⟩ := earlier.log
  obtain ⟨second, log'⟩ := later.log
  refine ⟨later.sound, later.scrollbackLen.trans earlier.scrollbackLen, first ++ second, ?_⟩
  rw [log', log, earlier.scrollbackLen, Window.rtake_rtake_append, List.append_assoc]

/-- The history stays as it is. -/
theorem Sound.records (sound : screen.Sound) {next : Screen} (kept : next.Sound)
    (scrollbackLen : next.main.scrollbackLen = screen.main.scrollbackLen)
    (log : next.main.scrollback = screen.main.scrollback) : screen.Records next := by
  refine ⟨kept, scrollbackLen, [], ?_⟩
  rw [List.append_nil, Window.rtake_of_length_le sound.main.bounded, log]

theorem Sound.setScrollback (sound : screen.Sound) (rows : Nat) : screen.Records (screen.setScrollback rows) := by
  unfold Screen.setScrollback Screen.onGrid
  split
  · rename_i used
    have kept := (sound.alternateSound used).setScrollback rows
    refine sound.records ⟨sound.main, ?_, sound.size, fun _ => kept.rows_ne_nil⟩ rfl rfl
    rw [kept.allocateRows_eq]
    exact kept
  · exact sound.records ⟨sound.main.setScrollback rows, sound.alternate, sound.size, sound.inUse⟩ rfl rfl

theorem Sound.setSize (sound : screen.Sound) {rows cols : Nat} (proper : Size.Proper { rows, cols }) :
    screen.Records (screen.setSize rows cols) := by
  have main := Grid.setSize_sound (sound.main.allocateRows_eq ▸ sound.main) proper
  have alternate := Grid.setSize_sound sound.alternate proper
  refine sound.records ⟨main, ?_, ?_, fun _ => alternate.rows_ne_nil⟩ ?_ ?_
  · show (screen.alternate.setSize _).allocateRows.Sound
    rw [alternate.allocateRows_eq]
    exact alternate
  · show (screen.alternate.setSize _).size = (screen.main.setSize _).size
    rw [Grid.setSize_size, Grid.setSize_size]
  · show (screen.main.setSize _).scrollbackLen = _
    rw [Grid.setSize_eq]
  · show (screen.main.setSize _).scrollback = _
    rw [Grid.setSize_eq]

theorem Sound.enterAlternateGrid (sound : screen.Sound) : screen.Records screen.enterAlternateGrid := by
  have viewed := sound.setScrollback 0
  refine viewed.trans (viewed.sound.records ⟨viewed.sound.main, ?_, ?_, fun _ => ?_⟩ rfl rfl)
  · have allocated := viewed.sound.alternate
    show (screen.setScrollback 0).alternate.allocateRows.allocateRows.Sound
    rwa [allocated.allocateRows_eq]
  · obtain ⟨rows, same, -⟩ := Grid.allocateRows_frame (screen.setScrollback 0).alternate
    exact (congrArg Grid.size same).trans viewed.sound.size
  · exact viewed.sound.alternate.rows_ne_nil

theorem Sound.exitAlternateGrid (sound : screen.Sound) : screen.Records screen.exitAlternateGrid :=
  sound.records ⟨sound.main, sound.alternate, sound.size, fun used => absurd used (by simp [Screen.exitAlternateGrid])⟩
    rfl rfl

theorem Sound.decsc (sound : screen.Sound) : screen.Step screen.decsc :=
  have saved := sound.onGrid fun _ sound => Grid.Sound.saveCursor sound
  ⟨Step.sound (saved.sound.still rfl rfl rfl), saved.main⟩

theorem Sound.decrc (sound : screen.Sound) : screen.Step screen.decrc :=
  have restored := sound.onGrid fun _ sound => Grid.Sound.restoreCursor sound
  ⟨Step.sound (restored.sound.still rfl rfl rfl), restored.main⟩

theorem Sound.clearAlternate (sound : screen.Sound) :
    screen.Records { screen with alternate := screen.alternate.clear } :=
  sound.records ⟨sound.main, Grid.clear_sound sound.alternate, sound.size, fun used => by
    simpa [Grid.clear] using sound.inUse used⟩ rfl rfl

theorem Sound.clearMouseMode (sound : screen.Sound) (mode : MouseProtocolMode) :
    screen.Step (screen.clearMouseMode mode) := by
  unfold Screen.clearMouseMode
  split <;> exact sound.still rfl rfl rfl

theorem Sound.clearMouseEncoding (sound : screen.Sound) (encoding : MouseProtocolEncoding) :
    screen.Step (screen.clearMouseEncoding encoding) := by
  unfold Screen.clearMouseEncoding
  split <;> exact sound.still rfl rfl rfl

theorem Sound.decsetParam (sound : screen.Sound) (param : List Nat) : screen.Records (screen.decsetParam param) := by
  unfold Screen.decsetParam
  split
  case h_2 => exact (sound.onGrid fun _ sound => sound.setOriginMode true).records
  case h_5 => exact sound.enterAlternateGrid
  case h_11 =>
    have saved := sound.decsc.records
    have cleared := saved.sound.clearAlternate
    exact (saved.trans cleared).trans cleared.sound.enterAlternateGrid
  all_goals exact Step.records (sound.still rfl rfl rfl)

theorem Sound.decrstParam (sound : screen.Sound) (param : List Nat) : screen.Records (screen.decrstParam param) := by
  unfold Screen.decrstParam
  split
  case h_2 => exact (sound.onGrid fun _ sound => sound.setOriginMode false).records
  case h_5 => exact sound.exitAlternateGrid
  case h_11 =>
    have left := sound.exitAlternateGrid
    exact left.trans left.sound.decrc.records
  all_goals
    first
    | exact Step.records (sound.still rfl rfl rfl)
    | exact (sound.clearMouseMode _).records
    | exact (sound.clearMouseEncoding _).records

theorem Sound.foldl {step : Screen → List Nat → Screen}
    (each : ∀ screen : Screen, screen.Sound → ∀ param, screen.Records (step screen param))
    (sound : screen.Sound) (params : List (List Nat)) : screen.Records (params.foldl step screen) := by
  induction params generalizing screen with
  | nil => exact (sound.still rfl rfl rfl).records
  | cons param params ih =>
      have first := each screen sound param
      exact first.trans (ih first.sound)

end Screen

/-! ## One call -/

/-- ESC c. -/
def Call.Resets : Call → Prop
  | .escDispatch intermediates b => intermediates = [] ∧ b = 0x63
  | _ => False

namespace Screen
variable {width : Width} {screen : Screen}

theorem Sound.print (lawful : width.Lawful) (sound : screen.Sound) (c : Char) :
    Ensures (screen.print width c) screen.Step := by
  unfold Screen.print
  split
  · exact .some (sound.still rfl rfl rfl)
  · exact sound.text lawful c

theorem Sound.execute (sound : screen.Sound) (b : Nat) : Ensures (screen.execute b) screen.Step := by
  have feed : Ensures (screen.tryGrid fun grid => (grid.rowIncScroll 1).map Prod.fst) screen.Step :=
    sound.tryGrid fun _ _ sound => (sound.rowIncScroll 1).map fun _ made => made.1
  unfold Screen.execute
  split
  · exact .some (sound.onGrid fun _ sound => sound.colDec 1)
  · exact .some (sound.onGrid fun _ sound => sound.colTab)
  · exact feed
  · exact feed
  · exact feed
  · exact .some (sound.onGrid fun _ sound => sound.colSet 0)
  · exact .some (sound.still rfl rfl rfl)

theorem Sound.escDispatch (sound : screen.Sound) {intermediates : List Nat} {b : Nat}
    (kept : ¬ (intermediates = [] ∧ b = 0x63)) : Ensures (screen.escDispatch intermediates b) screen.Step := by
  unfold Screen.escDispatch
  split_ifs with longer save restore keypad plain index reset
  · exact .some (sound.still rfl rfl rfl)
  · exact .some sound.decsc
  · exact .some sound.decrc
  · exact .some (sound.still rfl rfl rfl)
  · exact .some (sound.still rfl rfl rfl)
  · exact sound.tryGrid fun _ _ sound => sound.rowDecScroll 1
  · exact absurd ⟨not_not.mp longer, reset⟩ kept
  · exact .some (sound.still rfl rfl rfl)

theorem Sound.ed (sound : screen.Sound) (mode : Nat) : Ensures (screen.ed mode) screen.Step := by
  unfold Screen.ed
  split
  · exact sound.tryGrid fun _ _ sound => sound.eraseAllForward _ |>.mono fun _ drawn => drawn.toStep
  · exact sound.tryGrid fun _ _ sound => sound.eraseAllBackward _ |>.mono fun _ drawn => drawn.toStep
  · exact .some (sound.onGrid fun _ sound => (sound.eraseAll _).toStep)
  · exact .some (sound.still rfl rfl rfl)

theorem Sound.el (sound : screen.Sound) (mode : Nat) : Ensures (screen.el mode) screen.Step := by
  unfold Screen.el
  split
  · exact sound.tryGrid fun _ _ sound => sound.eraseRowForward _ |>.mono fun _ drawn => drawn.toStep
  · exact sound.tryGrid fun _ _ sound => sound.eraseRowBackward _ |>.mono fun _ drawn => drawn.toStep
  · exact sound.tryGrid fun _ _ sound => sound.eraseRow _ |>.mono fun _ drawn => drawn.toStep
  · exact .some (sound.still rfl rfl rfl)

/-- A parameter whose default is positive is positive. -/
theorem canonicalizeParam_pos (params : List (List Nat)) (n : Nat) {default : Nat} (positive : 0 < default) :
    1 ≤ canonicalizeParam params n default := by
  unfold canonicalizeParam
  dsimp only
  split_ifs <;> omega

theorem Sound.csi (sound : screen.Sound) (params : List (List Nat)) (c : Char) :
    Ensures (screen.csi params c) screen.Step := by
  have one := Checked.sub_of_le (canonicalizeParam_pos params 0 Nat.one_pos)
  have two := Checked.sub_of_le (canonicalizeParam_pos params 1 Nat.one_pos)
  have rows := Checked.sub_of_le (canonicalizeParam_pos params 1 sound.grid.proper.rows_pos)
  have drawing {f : Grid → Option Grid} (draws : ∀ grid : Grid, grid.Sound → Ensures (f grid) grid.Draws) :
      Ensures (screen.tryGrid f) screen.Step :=
    sound.tryGrid fun grid _ sound => (draws grid sound).mono fun _ drawn => drawn.toStep
  unfold Screen.csi
  dsimp only
  split
  · exact drawing fun _ sound => sound.insertCells _
  · exact .some (sound.onGrid fun _ sound => sound.rowDecClamp _)
  · exact .some (sound.onGrid fun _ sound => sound.rowIncClamp _)
  · exact .some (sound.onGrid fun _ sound => sound.colIncClamp _)
  · exact .some (sound.onGrid fun _ sound => sound.colDec _)
  · exact .some (sound.onGrid fun _ sound => (sound.colSet 0).trans sound ((sound.colSet 0).sound.rowIncClamp _))
  · exact .some (sound.onGrid fun _ sound => (sound.colSet 0).trans sound ((sound.colSet 0).sound.rowDecClamp _))
  · rw [one]
    exact .some (sound.onGrid fun _ sound => sound.colSet _)
  · rw [one, two]
    exact .some (sound.onGrid fun _ sound => sound.setPos _)
  · exact sound.ed _
  · exact sound.el _
  · exact drawing fun _ sound => sound.insertLines _
  · exact drawing fun _ sound => sound.deleteLines _
  · exact drawing fun _ sound => sound.deleteCells _
  · exact drawing fun _ sound => sound.scrollUp _
  · exact drawing fun _ sound => sound.scrollDown _
  · exact drawing fun _ sound => sound.eraseCells _ _
  · rw [one]
    exact .some (sound.onGrid fun _ sound => sound.rowSet _)
  · unfold Screen.sgr
    split <;> exact .some (sound.still rfl rfl rfl)
  · rw [one, rows]
    exact .some (sound.onGrid fun _ sound => sound.setScrollRegion _ _)
  · exact .some (sound.still rfl rfl rfl)

theorem Sound.csiPrivate (sound : screen.Sound) (params : List (List Nat)) (c : Char) :
    Ensures (screen.csiPrivate params c) screen.Records := by
  unfold Screen.csiPrivate
  split
  · exact (sound.ed _).mono fun _ step => step.records
  · exact (sound.el _).mono fun _ step => step.records
  · exact .some (sound.foldl (fun _ sound param => sound.decsetParam param) params)
  · exact .some (sound.foldl (fun _ sound param => sound.decrstParam param) params)
  · exact .some (Step.records (sound.still rfl rfl rfl))

/-- Every call goes through. All but a reset keep the history of the main screen. -/
theorem Sound.perform (lawful : width.Lawful) (sound : screen.Sound) {call : Call} (kept : ¬ call.Resets) :
    Ensures (screen.perform width call) screen.Records := by
  cases call with
  | print c => exact (sound.print lawful c).mono fun _ step => step.records
  | execute b => exact (sound.execute b).mono fun _ step => step.records
  | escDispatch intermediates b => exact (sound.escDispatch kept).mono fun _ step => step.records
  | csiDispatch params intermediates c =>
      show Ensures (screen.csiDispatch params intermediates c) screen.Records
      unfold Screen.csiDispatch
      split
      · exact (sound.csi params c).mono fun _ step => step.records
      · exact sound.csiPrivate params c
      · exact .some (Step.records (sound.still rfl rfl rfl))
  | oscDispatch params => exact .some (Step.records (sound.still rfl rfl rfl))

theorem ris_sound (sound : screen.Sound) : screen.ris.Sound := new_sound sound.main.proper _

end Screen

/-! ## Runs -/

/-- What happens to the parser of a pane. -/
inductive Event where
  | call (call : Call)
  | setSize (rows cols : Nat)
  | setScrollback (rows : Nat)
  deriving DecidableEq, Repr

/-- Panes ask for sizes of at least one cell. -/
def Event.Proper : Event → Prop
  | .setSize rows cols => Size.Proper { rows, cols }
  | _ => True

def Event.Resets : Event → Prop
  | .call made => made.Resets
  | _ => False

namespace Screen
variable {width : Width} {screen : Screen}

def apply (width : Width) (screen : Screen) : Event → Option Screen
  | .call call => screen.perform width call
  | .setSize rows cols => some (screen.setSize rows cols)
  | .setScrollback rows => some (screen.setScrollback rows)

def run (width : Width) (events : List Event) (screen : Screen) : Option Screen := events.foldlM (apply width) screen

theorem Sound.apply (lawful : width.Lawful) (sound : screen.Sound) {event : Event} (proper : event.Proper)
    (kept : ¬ event.Resets) : Ensures (screen.apply width event) screen.Records := by
  cases event with
  | call call => exact sound.perform lawful kept
  | setSize rows cols => exact .some (sound.setSize proper)
  | setScrollback rows => exact .some (sound.setScrollback rows)

theorem Sound.apply_sound (lawful : width.Lawful) (sound : screen.Sound) {event : Event} (proper : event.Proper) :
    Ensures (screen.apply width event) Screen.Sound := by
  by_cases reset : event.Resets
  · cases event with
    | call call =>
        cases call with
        | escDispatch intermediates b =>
            obtain ⟨rfl, rfl⟩ := reset
            exact .some (ris_sound sound)
        | print _ | execute _ | csiDispatch _ _ _ | oscDispatch _ => exact reset.elim
    | setSize _ _ | setScrollback _ => exact reset.elim
  · exact (sound.apply lawful proper reset).mono fun _ records => records.sound

/-- Whatever a program prints and however the pane is resized and scrolled, the parser
does not panic: every index is inside, everything that is unwrapped is there, and the
grids are sound at the end. -/
theorem run_never_panics (lawful : width.Lawful) {size : Size} (shape : size.Proper) (scrollbackLen : Nat)
    (events : List Event) (proper : ∀ event ∈ events, event.Proper) :
    ∃ screen, run width events (new size scrollbackLen) = some screen ∧ screen.Sound :=
  Checked.ensures_foldlM events (fun _ event member sound => sound.apply_sound lawful (proper event member))
    (new_sound shape scrollbackLen)

/-- A wide character at the right margin of a small screen, a mark on it, and a resize that cuts it. -/
theorem wide_character_cut : ∃ screen, run plainWidth
    [.call (.print '語'), .call (.print (Char.ofNat 0x301)), .setSize 2 1, .call (.csiDispatch [] [] 'X')]
    (new { rows := 2, cols := 2 } 10) = some screen ∧ screen.Sound :=
  run_never_panics plainWidth_lawful ⟨by decide, by decide, by decide, by decide⟩ 10 _ <| by
    simp only [List.mem_cons, List.not_mem_nil, or_false, forall_eq_or_imp, forall_eq, Event.Proper, true_and, and_true]
    exact ⟨by decide, by decide, by decide, by decide⟩

end Screen

end Ezpn.Emulator
