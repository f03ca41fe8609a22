import Ezpn.Emulator.Safety

/-!
# Printing on the whole screen

With the whole screen as its scroll region, the parser's grid prints characters,
carriage returns and line feeds as the model of printing does that leaves attributes,
modes and scroll regions out. So what is proved of printed lines holds of the parser.
-/

set_option autoImplicit false

namespace Ezpn.Emulator

open Checked (Ensures)

namespace Grid

/-- The grid with its attributes, its scroll region and its saved cursor left out. -/
def live (grid : Grid) : LiveGrid where
  height := grid.size.rows
  width := grid.size.cols
  rows := grid.rows.map Row.plain
  row := grid.pos.row
  col := grid.pos.col
  scrollback := grid.scrollback.map Row.plain
  scrollbackLen := grid.scrollbackLen
  scrollbackOffset := grid.scrollbackOffset

/-- The scroll region is the whole screen. -/
def Whole (grid : Grid) : Prop := grid.scrollTop = 0 ∧ grid.scrollBottom = grid.size.rows - 1

variable {grid : Grid}

theorem Draws.whole {next : Grid} (draws : grid.Draws next) (whole : grid.Whole) : next.Whole := by
  obtain ⟨rows, scrollback, offset, rfl⟩ := draws.frame
  exact whole

theorem live_drawingRow (i : Nat) {row : Row} (drawn : grid.drawingRow i = some row) :
    grid.live.drawingRow i = row.plain := by
  have shown : grid.rows[i]? = some row := drawn
  simp [LiveGrid.drawingRow, live, shown]

/-- A change of one row that is known without its attributes. -/
theorem Sound.updateRow_live (sound : grid.Sound) {i : Nat} (inside : i < grid.size.rows) {f : Row → Option Row}
    {g : Ezpn.Row → Ezpn.Row}
    (kept : ∀ row, grid.drawingRow i = some row → row.Fits grid.size.cols → Ensures (f row) fun next =>
      next.Fits grid.size.cols ∧ next.plain = g row.plain) :
    Ensures (grid.updateRow i f) fun next => grid.Draws next ∧ next.live = grid.live.modifyRow i g := by
  obtain ⟨row, drawn, fits⟩ := sound.row inside
  obtain ⟨next, made, agree⟩ := kept row drawn fits
  have changed := sound.updateRow inside (f := f) fun row' same fits' => (kept row' same fits').mono fun _ both => both.1
  have present : grid.rows[i]? = some row := drawn
  have result : grid.updateRow i f = some { grid with rows := grid.rows.set i next } := by
    simp [Grid.updateRow, Checked.update, present, made]
  refine ⟨_, result, changed.holds result, ?_⟩
  have rows : (grid.rows.set i next).map Row.plain = (grid.rows.map Row.plain).modify i g := by
    rw [List.map_set, agree.2, List.modify_eq_set_getElem?, List.getElem?_map, present]
    rfl
  exact congrArg (fun rows => { grid.live with rows }) rows

theorem Sound.wrapRow_live (sound : grid.Sound) {i : Nat} (inside : i < grid.size.rows) (wrap : Bool) :
    Ensures (grid.wrapRow i wrap) fun next =>
      grid.Draws next ∧ next.live = grid.live.modifyRow i fun row => { row with wrapped := wrap } :=
  sound.updateRow_live inside fun _ _ fits => .some ⟨fits.wrap wrap, rfl⟩

/-- The top row of the screen goes to the history. -/
theorem Sound.scrollLine_whole (sound : grid.Sound) (whole : grid.Whole) {first : Row} {rest : List Row}
    (rows : grid.rows = first :: rest) :
    grid.scrollLine = some (if grid.scrollbackLen > 0 then
      Grid.pushHistory first { grid with rows := rest ++ [grid.newRow] } else { grid with rows := rest ++ [grid.newRow] }) := by
  have positive := sound.proper.rows_pos
  have bottom : grid.scrollBottom + 1 = grid.rows.length := by
    rw [whole.2, sound.allocated]
    omega
  have inserted : Checked.insert (grid.scrollBottom + 1) grid.newRow grid.rows = some (first :: (rest ++ [grid.newRow])) := by
    rw [Checked.insert, if_pos (Nat.le_of_eq bottom), bottom, List.insertIdx_length_self, rows]
    rfl
  have removed : Checked.remove 0 (first :: (rest ++ [grid.newRow])) = some (rest ++ [grid.newRow]) :=
    if_pos (Nat.zero_lt_succ _)
  have idle (rows : List Row) : scrollRegionActive { grid with rows } = false := by
    simp [scrollRegionActive, whole.1, whole.2]
  have condition : (grid.scrollbackLen > 0 ∧ ¬ scrollRegionActive { grid with rows := rest ++ [grid.newRow] } = true) ↔
      grid.scrollbackLen > 0 := by simp [idle]
  simp only [Grid.scrollLine, inserted, whole.1, Option.bind_eq_bind, Option.bind_some, List.getElem?_cons_zero, removed]
  rw [whole.1] at condition
  simp only [condition]

theorem Sound.scrollLine_live (sound : grid.Sound) (whole : grid.Whole) :
    Ensures grid.scrollLine fun next => grid.Draws next ∧ next.live = grid.live.scrollUp := by
  obtain ⟨next, result, draws⟩ := sound.scrollLine
  refine ⟨next, result, draws, ?_⟩
  cases rows : grid.rows with
  | nil => exact absurd rows sound.rows_ne_nil
  | cons first rest =>
      have blank : grid.newRow.plain = LiveGrid.newRow grid.size.cols := by simp [newRow, Row.new, Row.plain, LiveGrid.newRow]
      have shown : grid.live.rows ++ [LiveGrid.newRow grid.live.width] =
          first.plain :: (rest ++ [grid.newRow]).map Row.plain := by
        simp only [Grid.live, rows, List.map_cons, List.map_append, List.map_nil, blank, List.cons_append]
      rw [sound.scrollLine_whole whole rows] at result
      obtain rfl := Option.some.inj result
      unfold LiveGrid.scrollUp
      rw [shown]
      dsimp only
      by_cases unkept : grid.scrollbackLen = 0
      · rw [if_neg (by omega), if_pos (show grid.live.scrollbackLen = 0 from unkept)]
        rfl
      · rw [if_pos (by omega), if_neg (show ¬ grid.live.scrollbackLen = 0 from unkept)]
        simp only [Grid.live, Grid.pushHistory, List.map_drop, List.map_append, List.map_cons, List.map_nil, List.length_append,
          List.length_drop, List.length_map, List.length_singleton]

theorem Sound.scrollUp_one (sound : grid.Sound) (whole : grid.Whole) : grid.scrollUp 1 = grid.scrollLine := by
  have positive := sound.proper.rows_pos
  have once : min 1 (grid.size.rows - 0) = 1 := by omega
  rw [Grid.scrollUp, whole.1, Checked.sub_of_le (Nat.zero_le _)]
  show Checked.times Grid.scrollLine (min 1 (grid.size.rows - 0)) grid = _
  rw [once, Checked.times_one]

theorem Sound.scrollUp_zero (sound : grid.Sound) : grid.scrollUp 0 = some grid := by
  have top := Nat.le_of_lt (Nat.lt_of_le_of_lt sound.region sound.bottom_lt)
  rw [Grid.scrollUp, Checked.sub_of_le top]
  show Checked.times Grid.scrollLine (min 0 (grid.size.rows - grid.scrollTop)) grid = _
  rw [Nat.zero_min]
  rfl

theorem Sound.rowIncScroll_live (sound : grid.Sound) (whole : grid.Whole) :
    Ensures (grid.rowIncScroll 1) fun made =>
      grid.Step made.1 ∧ made.1.Whole ∧ made.1.live = grid.live.rowIncScroll.1 ∧ made.2 = grid.live.rowIncScroll.2 := by
  have placed := sound.row_lt
  have limit := sound.proper.rows_le
  have positive := sound.proper.rows_pos
  have next : saturatingAdd grid.pos.row 1 = grid.pos.row + 1 := by
    unfold saturatingAdd
    omega
  have inside : grid.inScrollRegion = true := by
    simp only [inScrollRegion, whole.1, whole.2, ge_iff_le, Nat.zero_le, decide_true, Bool.true_and, decide_eq_true_eq]
    omega
  have height : grid.live.height = grid.size.rows := rfl
  have row : grid.live.row = grid.pos.row := rfl
  have clamp : (grid.moveRow (grid.pos.row + 1)).rowClampBottom true =
      if grid.pos.row + 1 > grid.size.rows - 1 then
        (grid.moveRow (grid.size.rows - 1), grid.pos.row + 1 - (grid.size.rows - 1))
      else (grid.moveRow (grid.pos.row + 1), 0) := by
    unfold Grid.rowClampBottom
    dsimp only [Grid.moveRow]
    rw [if_pos rfl, whole.2]
    rfl
  unfold Grid.rowIncScroll LiveGrid.rowIncScroll
  rw [inside, next, clamp, height, row]
  by_cases last : grid.pos.row + 1 > grid.size.rows - 1
  · have moved : grid.Step (grid.moveRow (grid.size.rows - 1)) :=
      sound.moved (by show grid.size.rows - 1 < _; omega) sound.col_le
    have one : grid.pos.row + 1 - (grid.size.rows - 1) = 1 := by omega
    rw [if_pos last, if_pos last, one]
    show Ensures (((grid.moveRow (grid.size.rows - 1)).scrollUp 1).map _) _
    rw [moved.sound.scrollUp_one whole]
    refine (moved.sound.scrollLine_live whole).map ?_
    rintro scrolled ⟨draws, view⟩
    exact ⟨moved.trans sound draws.toStep, draws.whole whole, view, rfl⟩
  · have moved : grid.Step (grid.moveRow (grid.pos.row + 1)) :=
      sound.moved (by show grid.pos.row + 1 < _; omega) sound.col_le
    rw [if_neg last, if_neg last]
    show Ensures (((grid.moveRow (grid.pos.row + 1)).scrollUp 0).map _) _
    rw [moved.sound.scrollUp_zero]
    exact .some ⟨moved, whole, rfl, rfl⟩

theorem colInc_eq {count : Nat} (room : grid.pos.col + count ≤ u16Max) :
    grid.colInc count = grid.moveCol (grid.pos.col + count) := by
  rw [colInc, saturatingAdd, Nat.min_eq_left room]

/-- Going to the next row, where a character does not fit. -/
theorem Sound.colWrap_live (sound : grid.Sound) (whole : grid.Whole) {width : Nat} (narrow : width ≤ grid.size.cols)
    (wrap : Bool) :
    Ensures (grid.colWrap width wrap) fun next => grid.Step next ∧ next.Whole ∧
      next.pos.col + width ≤ grid.size.cols ∧ next.live = grid.live.colWrap width wrap := by
  obtain ⟨next, result, step, fits⟩ := sound.colWrap narrow wrap
  suffices both : Ensures (grid.colWrap width wrap) fun next => next.Whole ∧ next.live = grid.live.colWrap width wrap by
    have agree := both.holds result
    exact ⟨next, result, step, agree.1, fits, agree.2⟩
  have shape : grid.live.col = grid.pos.col ∧ grid.live.width = grid.size.cols ∧ grid.live.row = grid.pos.row := ⟨rfl, rfl, rfl⟩
  unfold Grid.colWrap LiveGrid.colWrap
  rw [shape.1, shape.2.1, shape.2.2]
  by_cases full : grid.pos.col > grid.size.cols - width
  · rw [if_pos full, if_pos full]
    refine (sound.wrapRow_live sound.row_lt wrap).bind ?_
    rintro marked ⟨draws, view⟩
    have home : marked.Step (marked.moveCol 0) := draws.sound.moved draws.sound.row_lt (Nat.zero_le _)
    refine (home.sound.rowIncScroll_live (draws.whole whole)).bind ?_
    rintro ⟨next, scrolled⟩ ⟨later, whole', view', count⟩
    dsimp only at view' count ⊢
    have marking : (marked.moveCol 0).live =
        { grid.live.modifyRow grid.pos.row (fun row => { row with wrapped := wrap }) with col := 0 } := by
      rw [← view]
      rfl
    rw [marking] at view' count
    rw [← view', ← count]
    have row : next.live.row = next.pos.row := rfl
    rw [row]
    split_ifs with same
    · refine (later.sound.wrapRow_live ?_ false).mono fun last made => ⟨made.1.whole whole', made.2⟩
      rw [← same.2]
      exact later.sound.row_lt
    · exact .some ⟨whole', rfl⟩
  · rw [if_neg full, if_neg full]
    exact .some ⟨whole, rfl⟩

end Grid

namespace Screen
variable {grid : Grid}

/-- A zero-width character is added to the one before the cursor. -/
theorem ensures_combine_live (sound : grid.Sound) {c : Char} (unbroken : c ≠ '\n') :
    Ensures (combine c grid) fun next => next.live = grid.live.combine c := by
  have col := sound.col_le
  have row := sound.row_lt
  have cols := sound.proper.cols_pos
  have joined {i last : Nat} (inside : i < grid.size.rows) (within : last < grid.size.cols) :
      Ensures (grid.updateRow i (join c last)) fun next => next.live = grid.live.join c i last := by
    refine (sound.updateRow_live (g := fun row => row.modifyCell
      (if ((grid.live.drawingRow i).get last).wideContinuation then last - 1 else last) (.append c)) inside ?_).mono
      fun next made => made.2
    intro row drawn fits
    rw [Grid.live_drawingRow i drawn]
    exact ensures_join fits within unbroken
  have shape : grid.live.col = grid.pos.col ∧ grid.live.width = grid.size.cols ∧ grid.live.row = grid.pos.row := ⟨rfl, rfl, rfl⟩
  unfold combine LiveGrid.combine
  rw [shape.1, shape.2.1, shape.2.2]
  by_cases after : grid.pos.col > 0
  · rw [if_pos after, if_pos after]
    exact joined row (by omega)
  · rw [if_neg after, if_neg after]
    by_cases below : grid.pos.row > 0
    · rw [if_pos below]
      obtain ⟨above, drawn, -⟩ := sound.row (show grid.pos.row - 1 < grid.size.rows by omega)
      rw [drawn, Grid.live_drawingRow _ drawn]
      show Ensures (if above.wrapped then _ else _) _
      by_cases wrapped : above.wrapped
      · rw [if_pos wrapped, if_pos ⟨below, wrapped⟩]
        exact joined (by omega) (by omega)
      · rw [if_neg wrapped, if_neg fun both => wrapped both.2]
        exact .some rfl
    · rw [if_neg below, if_neg fun both => below both.1]
      exact .some rfl

theorem ensures_wraps_live (sound : grid.Sound) {columns : Nat} (narrow : columns ≤ grid.size.cols) :
    Ensures (wraps columns grid) fun wrap =>
      wrap = (grid.live.col > grid.live.width - columns &&
        (((grid.live.drawingRow grid.live.row).get (grid.live.width - 1)).contents ≠ [] ||
          ((grid.live.drawingRow grid.live.row).get (grid.live.width - 1)).wideContinuation || columns > 1)) := by
  have cols := sound.proper.cols_pos
  obtain ⟨row, drawn, fits⟩ := sound.row sound.row_lt
  have shown := Grid.live_drawingRow _ drawn
  have shape : grid.live.col = grid.pos.col ∧ grid.live.width = grid.size.cols ∧ grid.live.row = grid.pos.row := ⟨rfl, rfl, rfl⟩
  rw [shape.1, shape.2.1, shape.2.2, shown]
  refine .bind (P := fun room => room = grid.size.cols - columns) ⟨_, Checked.sub_of_le narrow, rfl⟩ ?_
  rintro room rfl
  by_cases full : grid.pos.col > grid.size.cols - columns
  · rw [if_pos full, decide_eq_true full, Bool.true_and]
    refine .bind (P := fun cell => cell.toCell = row.plain.get (grid.size.cols - 1)) ?_ fun cell here => .some ?_
    · rw [Grid.drawingCell, drawn, Option.bind_some]
      exact Row.ensures_cell (by rw [fits.2]; exact Nat.sub_one_lt_of_lt cols)
    · rw [← here]
      cases cell.contents <;> rfl
  · rw [if_neg full, decide_eq_false full, Bool.false_and]
    exact .some rfl

theorem ensures_drawText_live {width : Width} (lawful : width.Lawful) (sound : grid.Sound) (whole : grid.Whole) {c : Char}
    (unbroken : c ≠ '\n') (narrow : width.columns c ≤ grid.size.cols) (attrs : Attrs) :
    Ensures (drawText width attrs c grid) fun next => next.Whole ∧ next.live = grid.live.text width.columns c := by
  unfold LiveGrid.text
  rw [if_neg (show ¬ width.columns c > grid.live.width from Nat.not_lt.mpr narrow)]
  dsimp only
  refine (ensures_wraps_live sound narrow).bind fun wrap same => ?_
  rw [← same]
  refine (sound.colWrap_live whole narrow wrap).bind ?_
  rintro wrapped ⟨step, whole', fits, view⟩
  rw [← view]
  have size := step.evolves.size
  have limit := sound.proper.cols_le
  by_cases mark : width.columns c = 0
  · rw [if_pos mark, if_pos mark]
    obtain ⟨next, result, draws⟩ := ensures_combine step.sound unbroken
    exact ⟨next, result, draws.whole whole', (ensures_combine_live step.sound unbroken).holds result⟩
  · rw [if_neg mark, if_neg mark]
    have room : wrapped.pos.col + (if width.columns c > 1 then 2 else 1) ≤ grid.size.cols := by split_ifs <;> omega
    refine .bind (step.sound.updateRow_live
      (g := Ezpn.Row.place width.columns c (wrapped.live.width - 1) wrapped.live.col) step.sound.row_lt ?_) ?_
    · intro row _ fitting
      have inside : wrapped.pos.col + (if width.columns c > 1 then 2 else 1) ≤ row.cells.length := by
        rw [fitting.2, size]
        exact room
      refine (Row.ensures_place fitting.1 inside lawful.columns_blank).mono fun next made => ?_
      refine ⟨⟨?_, made.2.trans fitting.2⟩, made.1⟩
      rw [made.1]
      exact fitting.1.place lawful.columns_blank unbroken (by rwa [Row.length_plain])
    · rintro drawn ⟨draws, view'⟩
      have row : wrapped.live.row = wrapped.pos.row := rfl
      rw [row, ← view']
      have col : drawn.pos.col = wrapped.pos.col := by rw [draws.pos]
      have moved (count : Nat) : (drawn.moveCol (drawn.pos.col + count)).live =
          { drawn.live with col := wrapped.live.col + count } := by
        rw [col]
        rfl
      refine .some ?_
      split_ifs with broad
      · rw [if_pos broad] at room
        have once : drawn.colInc 1 = drawn.moveCol (drawn.pos.col + 1) := Grid.colInc_eq (by omega)
        have twice : (drawn.colInc 1).colInc 1 = drawn.moveCol (drawn.pos.col + 2) := by
          rw [once, Grid.colInc_eq (by show drawn.pos.col + 1 + 1 ≤ u16Max; omega)]
          rfl
        rw [twice]
        exact ⟨draws.whole whole', moved 2⟩
      · rw [if_neg broad] at room
        rw [Grid.colInc_eq (by omega)]
        exact ⟨draws.whole whole', moved 1⟩

end Screen

/-! ## Runs of text -/

/-- The call that a character of a text makes. -/
def Call.typed (c : Char) : Call := if c = '\r' then .execute 13 else if c = '\n' then .execute 10 else .print c

/-- Line breaks, and characters that are no controls. -/
def Width.Prints (width : Width) (c : Char) : Prop :=
  c = '\r' ∨ c = '\n' ∨ (¬ (width c = none ∧ c.toNat < 256) ∧ ¬ (0x80 ≤ c.toNat ∧ c.toNat < 0xA0))

/-- The same character in the model without attributes. -/
def readTyped (width : Char → Nat) (grid : LiveGrid) (c : Char) : LiveGrid :=
  if c = '\r' then grid.cr else if c = '\n' then grid.lf else grid.print width c

namespace Screen
variable {width : Width} {screen : Screen}

/-- What is done to the grid of the main screen is done to the screen. -/
theorem ensures_onMain (onMain : screen.modes.alternateScreen = false) {f : Grid → Option Grid} {Q : Grid → Prop}
    (made : Ensures (f screen.main) Q) :
    Ensures (screen.tryGrid f) fun next => next.modes = screen.modes ∧ Q next.main := by
  rw [Screen.tryGrid, if_neg (by simp [onMain])]
  exact made.map fun next kept => ⟨rfl, kept⟩

/-- One character of a text: the parser and the model of printing agree. -/
theorem Sound.typed (lawful : width.Lawful) (sound : screen.Sound) (onMain : screen.modes.alternateScreen = false)
    (whole : screen.main.Whole) {c : Char} (prints : width.Prints c) :
    Ensures (screen.perform width (.typed c)) fun next => next.Sound ∧ next.modes.alternateScreen = false ∧
      next.main.Whole ∧ next.main.live = readTyped width.columns screen.main.live c := by
  obtain ⟨next, result, step⟩ : Ensures (screen.perform width (.typed c)) screen.Records := by
    refine sound.perform lawful ?_
    unfold Call.typed
    split_ifs <;> exact id
  suffices both : Ensures (screen.perform width (.typed c)) fun next => next.modes = screen.modes ∧
      next.main.Whole ∧ next.main.live = readTyped width.columns screen.main.live c by
    obtain ⟨modes, agree⟩ := both.holds result
    exact ⟨next, result, step.sound, by rw [modes, onMain], agree⟩
  unfold Call.typed readTyped
  split_ifs with home feed
  · have moved : screen.onGrid (.colSet 0) = { screen with main := screen.main.colSet 0 } := if_neg (by simp [onMain])
    show Ensures (some (screen.onGrid (.colSet 0))) _
    rw [moved]
    have first : min 0 (screen.main.size.cols - 1) = 0 := Nat.zero_min _
    exact .some ⟨rfl, whole, by simp [Grid.colSet, Grid.colClamp, Grid.moveCol, Grid.live, LiveGrid.cr]⟩
  · show Ensures (screen.tryGrid fun grid => (grid.rowIncScroll 1).map Prod.fst) _
    refine ensures_onMain (f := fun grid => (grid.rowIncScroll 1).map Prod.fst)
      (Q := fun next => next.Whole ∧ next.live = screen.main.live.lf) onMain
      ((sound.main.rowIncScroll_live whole).map ?_)
    rintro made ⟨-, whole', view, -⟩
    exact ⟨whole', view⟩
  · obtain rfl | rfl | ⟨visible, noControl⟩ := prints
    · exact absurd rfl home
    · exact absurd rfl feed
    show Ensures (screen.print width c) _
    unfold Screen.print LiveGrid.print
    by_cases replacement : c = '\uFFFD'
    · rw [if_pos (Or.inl replacement), if_pos replacement]
      exact .some ⟨rfl, whole, rfl⟩
    have shown : screen.grid = screen.main := if_neg (by simp [onMain])
    rw [if_neg (not_or.mpr ⟨replacement, noControl⟩), if_neg replacement, Screen.text, if_neg visible, shown]
    by_cases broad : width.columns c > screen.main.size.cols
    · rw [if_pos broad, LiveGrid.text, if_pos (show width.columns c > screen.main.live.width from broad)]
      exact .some ⟨rfl, whole, rfl⟩
    · rw [if_neg broad]
      exact ensures_onMain onMain
        (ensures_drawText_live lawful sound.main whole feed (Nat.not_lt.mp broad) screen.attrs)

/-- Where the whole screen scrolls, text is printed as the model of printing does it, also
over what a program has drawn before. -/
theorem run_text (lawful : width.Lawful) (sound : screen.Sound) (onMain : screen.modes.alternateScreen = false)
    (whole : screen.main.Whole) (text : List Char) (prints : ∀ c ∈ text, width.Prints c) :
    ∃ next, screen.run width (text.map fun c => .call (.typed c)) = some next ∧
      next.main.live = text.foldl (readTyped width.columns) screen.main.live := by
  induction text generalizing screen with
  | nil => exact ⟨screen, rfl, rfl⟩
  | cons c text ih =>
      obtain ⟨first, typed, sound', onMain', whole', view⟩ := sound.typed lawful onMain whole (prints c (.head _))
      obtain ⟨next, result, rest⟩ := ih sound' onMain' whole' fun c member => prints c (.tail _ member)
      refine ⟨next, ?_, by rw [rest, view]; rfl⟩
      show (screen.perform width (.typed c)).bind _ = _
      rw [typed]
      exact result

/-- A log of two lines in a single cell. -/
theorem log_printed : ∃ next,
    run plainWidth (['a', 'b', '\r', '\n', 'c'].map fun c => .call (.typed c)) (new { rows := 1, cols := 1 } 5) = some next ∧
    next.main.live = ['a', 'b', '\r', '\n', 'c'].foldl (readTyped plainWidth.columns) (new { rows := 1, cols := 1 } 5).main.live :=
  run_text plainWidth_lawful (new_sound ⟨by decide, by decide, by decide, by decide⟩ 5) rfl ⟨rfl, rfl⟩ _ <| by
    simp only [List.mem_cons, List.not_mem_nil, or_false, forall_eq_or_imp, forall_eq]
    refine ⟨.inr (.inr ?_), .inr (.inr ?_), .inl rfl, .inr (.inl rfl), .inr (.inr ?_)⟩ <;> decide

end Screen

end Ezpn.Emulator
