import Ezpn.Emulator.Safety

/-!
# Scroll regions

A program that has set a scroll region, with its cursor in it, and uses neither
absolute addresses nor resets draws in the region only.
-/

set_option autoImplicit false

namespace Ezpn.Emulator

open Checked (Ensures Yields)

namespace Grid

/-- The cursor is in the scroll region. -/
def Inside (grid : Grid) : Prop := grid.scrollTop ≤ grid.pos.row ∧ grid.pos.row ≤ grid.scrollBottom

/-- The line above the region does not run on into it: a mark at the start of the region
would go to the end of that line. -/
def Unwrapped (grid : Grid) : Prop :=
  0 < grid.scrollTop → ∀ row, grid.drawingRow (grid.scrollTop - 1) = some row → row.wrapped = false

def Outside (grid : Grid) (i : Nat) : Prop := i < grid.scrollTop ∨ grid.scrollBottom < i

/-- Rows change in the region only, and the cursor stays in it. While a part of the screen scrolls
no row goes to the history. -/
structure Confines (grid next : Grid) : Prop where
  size : next.size = grid.size
  top : next.scrollTop = grid.scrollTop
  bottom : next.scrollBottom = grid.scrollBottom
  originMode : next.originMode = grid.originMode
  inside : next.Inside
  outside : ∀ i, grid.Outside i → next.rows[i]? = grid.rows[i]?
  history : grid.scrollRegionActive = true → next.scrollback = grid.scrollback

variable {grid : Grid}

theorem Inside.confines (inside : grid.Inside) : grid.Confines grid := ⟨rfl, rfl, rfl, rfl, inside, fun _ _ => rfl, fun _ => rfl⟩

theorem Confines.active {next : Grid} (confines : grid.Confines next) :
    next.scrollRegionActive = grid.scrollRegionActive := by
  unfold scrollRegionActive
  rw [confines.size, confines.top, confines.bottom]

theorem Confines.trans {next last : Grid} (earlier : grid.Confines next) (later : next.Confines last) :
    grid.Confines last where
  size := later.size.trans earlier.size
  top := later.top.trans earlier.top
  bottom := later.bottom.trans earlier.bottom
  originMode := later.originMode.trans earlier.originMode
  inside := later.inside
  outside i outside := by
    have outside' : next.Outside i := by rwa [Outside, earlier.top, earlier.bottom]
    rw [later.outside i outside', earlier.outside i outside]
  history active := by rw [later.history (earlier.active.trans active), earlier.history active]

theorem Confines.unwrapped {next : Grid} (confines : grid.Confines next) (unwrapped : grid.Unwrapped) : next.Unwrapped := by
  intro positive row drawn
  rw [confines.top] at positive drawn
  have above : next.rows[grid.scrollTop - 1]? = grid.rows[grid.scrollTop - 1]? := confines.outside _ (.inl (by omega))
  exact unwrapped positive row (above.symm.trans drawn)

/-! ## One operation -/

theorem Inside.moved (inside : grid.Inside) {pos : Pos} (kept : grid.scrollTop ≤ pos.row ∧ pos.row ≤ grid.scrollBottom) :
    grid.Confines { grid with pos } := { inside.confines with inside := kept }

theorem Inside.moveCol (inside : grid.Inside) (col : Nat) : grid.Confines (grid.moveCol col) := inside.moved inside

theorem Inside.colSet (inside : grid.Inside) (i : Nat) : grid.Confines (grid.colSet i) := by
  rw [Grid.colSet, colClamp_eq]
  exact inside.moved inside

theorem Inside.inScrollRegion (inside : grid.Inside) : grid.inScrollRegion = true := by
  simp [Grid.inScrollRegion, inside.1, inside.2]

/-- Downwards the cursor stops at the last row of the region. -/
theorem Inside.clamped (inside : grid.Inside) {row : Nat} (below : grid.scrollTop ≤ row) :
    grid.Confines ((grid.moveRow row).rowClampBottom true).1 := by
  have region := Nat.le_trans inside.1 inside.2
  rw [rowClampBottom_fst]
  refine inside.moved ?_
  dsimp only [moveRow]
  rw [if_pos rfl]
  omega

theorem Sound.forward (sound : grid.Sound) (count : Nat) : grid.pos.row ≤ saturatingAdd grid.pos.row count := by
  have placed := sound.row_lt
  have limit := sound.proper.rows_le
  unfold saturatingAdd
  omega

theorem Inside.rowIncClamp (inside : grid.Inside) (sound : grid.Sound) (count : Nat) :
    grid.Confines (grid.rowIncClamp count) := by
  rw [Grid.rowIncClamp, inside.inScrollRegion]
  exact inside.clamped (Nat.le_trans inside.1 (sound.forward count))

/-- Upwards the cursor stops at the first row of the region. -/
theorem Inside.clampedTop (inside : grid.Inside) (count : Nat) :
    grid.Confines ((grid.moveRow (grid.pos.row - count)).rowClampTop true).1 := by
  have bottom := inside.2
  have region := Nat.le_trans inside.1 inside.2
  rw [rowClampTop_fst]
  refine inside.moved ?_
  dsimp only [moveRow]
  simp only [true_and]
  constructor <;> split_ifs <;> omega

theorem Inside.rowDecClamp (inside : grid.Inside) (count : Nat) : grid.Confines (grid.rowDecClamp count) := by
  rw [Grid.rowDecClamp, inside.inScrollRegion]
  exact inside.clampedTop count

/-- In origin mode addresses are those of the region. -/
theorem Inside.setPos (inside : grid.Inside) (sound : grid.Sound) (origin : grid.originMode = true) (pos : Pos) :
    grid.Confines (grid.setPos pos) := by
  have region := Nat.le_trans inside.1 inside.2
  have bottom := sound.bottom_lt
  have limit := sound.proper.rows_le
  unfold Grid.setPos
  dsimp only
  rw [colClamp_eq, rowClampBottom_fst, rowClampTop_fst]
  refine inside.moved ?_
  dsimp only [moveRow, Grid.moveCol]
  simp only [origin, if_true, true_and, saturatingAdd]
  constructor <;> split_ifs <;> omega

theorem Inside.withRows (inside : grid.Inside) {rows : List Row} (outside : ∀ i, grid.Outside i → rows[i]? = grid.rows[i]?) :
    grid.Confines { grid with rows } := { inside.confines with outside := outside, inside := inside }

theorem Inside.updateRow (inside : grid.Inside) {i : Nat} (within : grid.scrollTop ≤ i ∧ i ≤ grid.scrollBottom)
    (f : Row → Option Row) : Yields (grid.updateRow i f) grid.Confines := by
  refine Checked.yields_update.map fun rows apart => inside.withRows fun k outside => apart k ?_
  rintro rfl
  rcases outside with above | below <;> omega

theorem Inside.insertLine (inside : grid.Inside) {into : Nat} (within : grid.scrollTop ≤ into ∧ into ≤ grid.scrollBottom) :
    Yields (grid.insertLine into) grid.Confines := by
  have region := Nat.le_trans inside.1 inside.2
  have regroup : grid.insertLine into = (Checked.remove grid.scrollBottom grid.rows >>= Checked.insert into grid.newRow) >>=
      fun rows => wrapRow grid.scrollBottom false { grid with rows } := (Option.bind_assoc ..).symm
  rw [regroup]
  refine (Checked.yields_remove_insert within.2 grid.newRow grid.rows).bind fun rows apart => ?_
  have replaced : grid.Confines { grid with rows } := inside.withRows fun k outside =>
    apart k (outside.imp_left fun above => Nat.lt_of_lt_of_le above within.1)
  exact (replaced.inside.updateRow ⟨region, Nat.le_refl _⟩ _).mono fun next marked => replaced.trans marked

/-- A loop whose body keeps to the region. -/
theorem Inside.times (inside : grid.Inside) {body : Grid → Option Grid}
    (round : ∀ next : Grid, next.Inside → Yields (body next) next.Confines) (n : Nat) :
    Yields (Checked.times body n grid) grid.Confines :=
  Checked.yields_times (I := grid.Confines) (fun next kept => (round next kept.inside).mono fun _ later => kept.trans later) n
    inside.confines

theorem Inside.insertLines (inside : grid.Inside) (count : Nat) : Yields (grid.insertLines count) grid.Confines :=
  inside.times (fun _ inside => inside.insertLine inside) count

theorem Inside.scrollDown (inside : grid.Inside) (count : Nat) : Yields (grid.scrollDown count) grid.Confines :=
  inside.times (fun _ inside => inside.insertLine ⟨Nat.le_refl _, Nat.le_trans inside.1 inside.2⟩) count

theorem Inside.deleteLine (inside : grid.Inside) : Yields grid.deleteLine grid.Confines := by
  have regroup : grid.deleteLine = (Checked.insert (grid.scrollBottom + 1) grid.newRow grid.rows >>=
      Checked.remove grid.pos.row) >>= fun rows => some { grid with rows } := (Option.bind_assoc ..).symm
  rw [regroup]
  refine (Checked.yields_insert_remove inside.2 grid.newRow grid.rows).bind fun rows apart => .some ?_
  exact inside.withRows fun k outside => apart k (outside.imp_left fun above => Nat.lt_of_lt_of_le above inside.1)

theorem Inside.deleteLines (inside : grid.Inside) (count : Nat) : Yields (grid.deleteLines count) grid.Confines :=
  .bind (P := fun _ => True) (fun _ _ => trivial) fun _ _ => inside.times (fun _ inside => inside.deleteLine) _

/-- No row goes to the history when it leaves a part of the screen. -/
theorem Inside.scrollLine (inside : grid.Inside) : Yields grid.scrollLine grid.Confines := by
  have region := Nat.le_trans inside.1 inside.2
  unfold Grid.scrollLine
  refine .bind (P := fun longer => Checked.insert (grid.scrollBottom + 1) grid.newRow grid.rows = some longer)
    (fun _ result => result) fun longer inserted => ?_
  refine .bind (P := fun _ => True) (fun _ _ => trivial) fun removed _ => ?_
  have apart := Checked.yields_insert_remove region grid.newRow grid.rows
  rw [inserted] at apart
  refine .bind apart fun rows apart => .some ?_
  have replaced : grid.Confines { grid with rows } := inside.withRows apart
  split_ifs with kept
  · exact { replaced with history := fun active => absurd (replaced.active.trans active) kept.2 }
  · exact replaced

theorem Inside.scrollUp (inside : grid.Inside) (count : Nat) : Yields (grid.scrollUp count) grid.Confines :=
  .bind (P := fun _ => True) (fun _ _ => trivial) fun _ _ => inside.times (fun _ inside => inside.scrollLine) _

theorem Inside.rowIncScroll (inside : grid.Inside) (sound : grid.Sound) (count : Nat) :
    Yields (grid.rowIncScroll count) fun made => grid.Confines made.1 := by
  have moved := inside.clamped (Nat.le_trans inside.1 (sound.forward count))
  unfold Grid.rowIncScroll
  rw [inside.inScrollRegion]
  exact (moved.inside.scrollUp _).map fun next later => moved.trans later

theorem Inside.rowDecScroll (inside : grid.Inside) (count : Nat) : Yields (grid.rowDecScroll count) grid.Confines := by
  have moved := inside.clampedTop count
  unfold Grid.rowDecScroll
  rw [inside.inScrollRegion]
  exact (moved.inside.scrollDown _).mono fun next later => moved.trans later

theorem Inside.colWrap (inside : grid.Inside) (sound : grid.Sound) (width : Nat) (wrap : Bool) :
    Yields (grid.colWrap width wrap) grid.Confines := by
  unfold Grid.colWrap
  refine .ite (fun _ => ?_) fun _ => .some inside.confines
  refine (inside.updateRow inside _).and (sound.wrapRow sound.row_lt wrap).yields |>.bind ?_
  rintro marked ⟨marking, drawn⟩
  have home := marking.trans (marking.inside.moveCol 0)
  have homeStep : marked.Step (marked.moveCol 0) := drawn.sound.moved drawn.sound.row_lt (Nat.zero_le _)
  refine (home.inside.rowIncScroll homeStep.sound 1).bind ?_
  rintro ⟨next, scrolled⟩ later
  have whole := home.trans later
  refine .ite (fun same => ?_) fun _ => .some whole
  refine (whole.inside.updateRow ?_ _).mono fun last marked => whole.trans marked
  rw [← same.2]
  exact whole.inside

end Grid

/-! ## Calls -/

/-- Neither an absolute address, unless it counts from the region, nor an erasure of the screen,
a restored cursor, another region, another screen or a reset. -/
def Call.Confined (origin : Bool) : Call → Prop
  | .print _ | .execute _ | .oscDispatch _ => True
  | .escDispatch intermediates b => ¬ (intermediates = [] ∧ (b = 0x38 ∨ b = 0x63))
  | .csiDispatch params intermediates c =>
      (intermediates = [] → c ≠ 'J' ∧ c ≠ 'd' ∧ c ≠ 'r' ∧ (c = 'H' → origin = true)) ∧
      (intermediates.head? = some 0x3F → c ≠ 'J' ∧
        (c = 'h' ∨ c = 'l' → [6] ∉ params ∧ [47] ∉ params ∧ [1049] ∉ params))

/-- No resizes, which move the region's border. -/
def Event.Confined (origin : Bool) : Event → Prop
  | .call made => made.Confined origin
  | .setSize _ _ => False
  | .setScrollback _ => True

namespace Screen
variable {grid : Grid} {screen : Screen} {width : Width}

theorem combine_confines (inside : grid.Inside) (unwrapped : grid.Unwrapped) (c : Char) :
    Yields (combine c grid) grid.Confines := by
  unfold combine
  refine .ite (fun _ => inside.updateRow inside _) fun _ => .ite (fun below => ?_) fun _ => .some inside.confines
  refine .bind (P := fun row => grid.drawingRow (grid.pos.row - 1) = some row) (fun _ drawn => drawn) fun above drawn => ?_
  refine .ite (fun wrapped => ?_) fun _ => .some inside.confines
  have bounds := inside
  by_cases first : grid.pos.row = grid.scrollTop
  · rw [first] at drawn
    exact absurd wrapped (by simp [unwrapped (by omega) above drawn])
  · exact inside.updateRow ⟨by have := bounds.1; omega, by have := bounds.2; omega⟩ _

theorem drawText_confines (inside : grid.Inside) (unwrapped : grid.Unwrapped) (sound : grid.Sound) (width : Width)
    (attrs : Attrs) (c : Char) : Yields (drawText width attrs c grid) grid.Confines := by
  unfold drawText
  refine .bind (P := fun _ => True) (fun _ _ => trivial) fun wrap _ => ?_
  refine (inside.colWrap sound _ wrap).bind fun next wrapped => ?_
  refine .ite (fun _ => ?_) fun _ => ?_
  · exact (combine_confines wrapped.inside (wrapped.unwrapped unwrapped) c).mono fun last later => wrapped.trans later
  · refine (wrapped.inside.updateRow wrapped.inside _).bind fun drawn later => .some ?_
    have whole := wrapped.trans later
    split_ifs
    · exact whole.trans ((whole.inside.moveCol _).trans ((whole.inside.moveCol _).inside.moveCol _))
    · exact whole.trans (whole.inside.moveCol _)

/-- The screen in use stays in use, and its region is kept to. -/
structure Confines (screen next : Screen) : Prop where
  alternateScreen : next.modes.alternateScreen = screen.modes.alternateScreen
  grid : screen.grid.Confines next.grid

theorem Confines.trans {next last : Screen} (earlier : screen.Confines next) (later : next.Confines last) :
    screen.Confines last :=
  ⟨later.alternateScreen.trans earlier.alternateScreen, earlier.grid.trans later.grid⟩

theorem grid_still {next : Screen} (main : next.main = screen.main) (alternate : next.alternate = screen.alternate)
    (modes : next.modes.alternateScreen = screen.modes.alternateScreen) : next.grid = screen.grid := by
  rw [Screen.grid, Screen.grid, main, alternate, modes]

theorem confines_still (inside : screen.grid.Inside) {next : Screen} (main : next.main = screen.main)
    (alternate : next.alternate = screen.alternate)
    (modes : next.modes.alternateScreen = screen.modes.alternateScreen) : screen.Confines next :=
  ⟨modes, by rw [grid_still main alternate modes]; exact inside.confines⟩

theorem confines_tryGrid {f : Grid → Option Grid} (kept : Yields (f screen.grid) screen.grid.Confines) :
    Yields (screen.tryGrid f) screen.Confines := by
  unfold Screen.tryGrid
  by_cases used : screen.modes.alternateScreen
  · have shown : screen.grid = screen.alternate := if_pos used
    rw [if_pos used, ← shown]
    refine kept.map fun next confines => ⟨rfl, ?_⟩
    rwa [show Screen.grid { screen with alternate := next } = next from if_pos used]
  · have shown : screen.grid = screen.main := if_neg used
    rw [if_neg used, ← shown]
    refine kept.map fun next confines => ⟨rfl, ?_⟩
    rwa [show Screen.grid { screen with main := next } = next from if_neg used]

theorem confines_onGrid {f : Grid → Grid} (kept : screen.grid.Confines (f screen.grid)) : screen.Confines (screen.onGrid f) :=
  confines_tryGrid (f := fun grid => some (f grid)) (.some kept) _ (onGrid_eq f screen)

/-- What the region is kept to from: a sound screen, its cursor in the region. -/
structure Placed (screen : Screen) : Prop where
  sound : screen.Sound
  inside : screen.grid.Inside
  unwrapped : screen.grid.Unwrapped

namespace Placed

theorem still (placed : screen.Placed) {next : Screen} (main : next.main = screen.main)
    (alternate : next.alternate = screen.alternate) (modes : next.modes.alternateScreen = screen.modes.alternateScreen) :
    screen.Confines next := confines_still placed.inside main alternate modes

theorem text (placed : screen.Placed) (width : Width) (c : Char) : Yields (screen.text width c) screen.Confines := by
  unfold Screen.text
  refine .ite (fun _ => .some (placed.still rfl rfl rfl)) fun _ => .ite (fun _ => .some (placed.still rfl rfl rfl)) fun _ => ?_
  exact confines_tryGrid (drawText_confines placed.inside placed.unwrapped placed.sound.grid width screen.attrs c)

theorem execute (placed : screen.Placed) (b : Nat) : Yields (screen.execute b) screen.Confines := by
  have inside := placed.inside
  have feed : Yields (screen.tryGrid fun grid => (grid.rowIncScroll 1).map Prod.fst) screen.Confines :=
    confines_tryGrid ((inside.rowIncScroll placed.sound.grid 1).map fun _ confines => confines)
  unfold Screen.execute
  split
  · exact .some (confines_onGrid (inside.moveCol _))
  · exact .some (confines_onGrid (inside.colSet _))
  · exact feed
  · exact feed
  · exact feed
  · exact .some (confines_onGrid (inside.colSet 0))
  · exact .some (placed.still rfl rfl rfl)

theorem decsc (placed : screen.Placed) : screen.Confines screen.decsc := by
  have saved : screen.Confines (screen.onGrid .saveCursor) := confines_onGrid { placed.inside.confines with inside := placed.inside }
  exact ⟨saved.alternateScreen, saved.grid⟩

theorem escDispatch (placed : screen.Placed) {intermediates : List Nat} {b : Nat}
    (kept : ¬ (intermediates = [] ∧ (b = 0x38 ∨ b = 0x63))) : Yields (screen.escDispatch intermediates b) screen.Confines := by
  unfold Screen.escDispatch
  split_ifs with longer save restore keypad plain index reset
  · exact .some (placed.still rfl rfl rfl)
  · exact .some placed.decsc
  · exact absurd ⟨not_not.mp longer, .inl restore⟩ kept
  · exact .some (placed.still rfl rfl rfl)
  · exact .some (placed.still rfl rfl rfl)
  · exact confines_tryGrid (placed.inside.rowDecScroll 1)
  · exact absurd ⟨not_not.mp longer, .inr reset⟩ kept
  · exact .some (placed.still rfl rfl rfl)

theorem el (placed : screen.Placed) (mode : Nat) : Yields (screen.el mode) screen.Confines := by
  unfold Screen.el
  split
  · exact confines_tryGrid (placed.inside.updateRow placed.inside _)
  · exact confines_tryGrid (placed.inside.updateRow placed.inside _)
  · exact confines_tryGrid (placed.inside.updateRow placed.inside _)
  · exact .some (placed.still rfl rfl rfl)

theorem csi (placed : screen.Placed) (params : List (List Nat)) {c : Char}
    (kept : c ≠ 'J' ∧ c ≠ 'd' ∧ c ≠ 'r' ∧ (c = 'H' → screen.grid.originMode = true)) :
    Yields (screen.csi params c) screen.Confines := by
  have inside := placed.inside
  have sound := placed.sound.grid
  have home := inside.colSet 0
  have homeSound := (sound.colSet 0).sound
  unfold Screen.csi
  dsimp only
  split
  · exact confines_tryGrid (.bind (P := fun _ => True) (fun _ _ => trivial) fun _ _ => inside.updateRow inside _)
  · exact .some (confines_onGrid (inside.rowDecClamp _))
  · exact .some (confines_onGrid (inside.rowIncClamp sound _))
  · exact .some (confines_onGrid (inside.colSet _))
  · exact .some (confines_onGrid (inside.moveCol _))
  · exact .some (confines_onGrid (home.trans (home.inside.rowIncClamp homeSound _)))
  · exact .some (confines_onGrid (home.trans (home.inside.rowDecClamp _)))
  · exact .bind (P := fun _ => True) (fun _ _ => trivial) fun _ _ => .some (confines_onGrid (inside.colSet _))
  · refine .bind (P := fun _ => True) (fun _ _ => trivial) fun row _ => ?_
    refine .bind (P := fun _ => True) (fun _ _ => trivial) fun col _ => ?_
    exact .some (confines_onGrid (inside.setPos sound (kept.2.2.2 rfl) _))
  · exact absurd rfl kept.1
  · exact placed.el _
  · exact confines_tryGrid (inside.insertLines _)
  · exact confines_tryGrid (inside.deleteLines _)
  · exact confines_tryGrid (.bind (P := fun _ => True) (fun _ _ => trivial) fun _ _ => inside.updateRow inside _)
  · exact confines_tryGrid (inside.scrollUp _)
  · exact confines_tryGrid (inside.scrollDown _)
  · exact confines_tryGrid (inside.updateRow inside _)
  · exact absurd rfl kept.2.1
  · refine .some ?_
    unfold Screen.sgr
    split_ifs <;> exact placed.still rfl rfl rfl
  · exact absurd rfl kept.2.2.1
  · exact .some (placed.still rfl rfl rfl)

/-- Modes that do not move the cursor or switch screens. -/
theorem decsetParam (placed : screen.Placed) {param : List Nat} (kept : param ≠ [6] ∧ param ≠ [47] ∧ param ≠ [1049]) :
    screen.Confines (screen.decsetParam param) := by
  unfold Screen.decsetParam
  split
  all_goals first | exact placed.still rfl rfl rfl | simp at kept

theorem decrstParam (placed : screen.Placed) {param : List Nat} (kept : param ≠ [6] ∧ param ≠ [47] ∧ param ≠ [1049]) :
    screen.Confines (screen.decrstParam param) := by
  unfold Screen.decrstParam Screen.clearMouseMode Screen.clearMouseEncoding
  split
  all_goals first | exact placed.still rfl rfl rfl | (split_ifs <;> exact placed.still rfl rfl rfl) | simp at kept

theorem next (placed : screen.Placed) {next : Screen} (confines : screen.Confines next) (sound : next.Sound) : next.Placed :=
  ⟨sound, confines.grid.inside, confines.grid.unwrapped placed.unwrapped⟩

theorem foldl {step : Screen → List Nat → Screen} (params : List (List Nat))
    (round : ∀ screen : Screen, ∀ param ∈ params, screen.Placed → screen.Confines (step screen param) ∧ (step screen param).Sound)
    (placed : screen.Placed) : screen.Confines (params.foldl step screen) := by
  induction params generalizing screen with
  | nil => exact placed.still rfl rfl rfl
  | cons param params ih =>
      obtain ⟨first, sound⟩ := round screen param (.head _) placed
      exact first.trans (ih (fun screen param member => round screen param (.tail _ member)) (placed.next first sound))

theorem csiPrivate (placed : screen.Placed) {params : List (List Nat)} {c : Char}
    (kept : c ≠ 'J' ∧ (c = 'h' ∨ c = 'l' → [6] ∉ params ∧ [47] ∉ params ∧ [1049] ∉ params)) :
    Yields (screen.csiPrivate params c) screen.Confines := by
  have apart (listed : [6] ∉ params ∧ [47] ∉ params ∧ [1049] ∉ params) (param : List Nat) (member : param ∈ params) :
      param ≠ [6] ∧ param ≠ [47] ∧ param ≠ [1049] :=
    ⟨fun same => listed.1 (same ▸ member), fun same => listed.2.1 (same ▸ member), fun same => listed.2.2 (same ▸ member)⟩
  unfold Screen.csiPrivate
  split
  · exact absurd rfl kept.1
  · exact placed.el _
  · refine .some (foldl params (fun screen param member placed => ?_) placed)
    exact ⟨placed.decsetParam (apart (kept.2 (.inl rfl)) param member), (placed.sound.decsetParam param).sound⟩
  · refine .some (foldl params (fun screen param member placed => ?_) placed)
    exact ⟨placed.decrstParam (apart (kept.2 (.inr rfl)) param member), (placed.sound.decrstParam param).sound⟩
  · exact .some (placed.still rfl rfl rfl)

theorem perform (placed : screen.Placed) (width : Width) {call : Call} (kept : call.Confined screen.grid.originMode) :
    Yields (screen.perform width call) screen.Confines := by
  cases call with
  | print c =>
      show Yields (screen.print width c) _
      unfold Screen.print
      exact .ite (fun _ => .some (placed.still rfl rfl rfl)) fun _ => placed.text width c
  | execute b => exact placed.execute b
  | escDispatch intermediates b => exact placed.escDispatch kept
  | csiDispatch params intermediates c =>
      show Yields (screen.csiDispatch params intermediates c) _
      unfold Screen.csiDispatch
      split
      · rename_i none
        exact placed.csi params (kept.1 (List.head?_eq_none_iff.mp none))
      · rename_i mark
        exact placed.csiPrivate (kept.2 mark)
      · exact .some (placed.still rfl rfl rfl)
  | oscDispatch params => exact .some (placed.still rfl rfl rfl)

theorem apply (placed : screen.Placed) (width : Width) {event : Event} (kept : event.Confined screen.grid.originMode) :
    Yields (screen.apply width event) screen.Confines := by
  cases event with
  | call call => exact placed.perform width kept
  | setSize rows cols => exact kept.elim
  | setScrollback rows =>
      have scrolled : screen.Confines (screen.onGrid (.setScrollback rows)) :=
        confines_onGrid { placed.inside.confines with inside := placed.inside }
      exact .some scrolled

end Placed

/-- Whatever a program prints and draws with a scroll region, its cursor in it, the lines
outside stay as they are, and the cursor stays in the region. While only a part of the
screen scrolls nothing is written to the history. -/
theorem run_confined (lawful : width.Lawful) (placed : screen.Placed) {events : List Event}
    (confined : ∀ event ∈ events, event.Confined screen.grid.originMode) :
    ∃ next, screen.run width events = some next ∧ screen.Confines next := by
  induction events generalizing screen with
  | nil => exact ⟨screen, rfl, placed.still rfl rfl rfl⟩
  | cons event events ih =>
      have proper : event.Proper := by
        cases event with
        | call call => trivial
        | setSize rows cols => exact (confined _ (.head _)).elim
        | setScrollback rows => trivial
      obtain ⟨first, applied, sound⟩ := placed.sound.apply_sound lawful proper
      have confines := placed.apply width (confined event (.head _)) first applied
      have later : ∀ event ∈ events, event.Confined first.grid.originMode := fun event member => by
        rw [confines.grid.originMode]
        exact confined event (.tail _ member)
      obtain ⟨next, ran, kept⟩ := ih (placed.next confines sound) later
      refine ⟨next, ?_, confines.trans kept⟩
      show (screen.apply width event).bind _ = _
      rw [applied]
      exact ran

/-- A screen with a title above the region and a status line below it. -/
def framed : Screen := (new { rows := 4, cols := 4 } 10).onGrid (.setScrollRegion 1 2)

theorem framed_placed : framed.Placed where
  sound := ((new_sound ⟨by decide, by decide, by decide, by decide⟩ 10).onGrid
    fun _ sound => sound.setScrollRegion 1 2).sound
  inside := ⟨by decide, by decide⟩
  unwrapped := by
    rintro - row drawn
    obtain rfl : Row.new 4 = row := Option.some.inj drawn
    rfl

/-- A log that scrolls between the title and the status line, and a move down that stops at the border. -/
theorem log_framed : ∃ next, framed.run plainWidth
    [.call (.print 'a'), .call (.execute 10), .call (.execute 10), .call (.execute 10), .call (.csiDispatch [[9]] [] 'B'),
      .call (.csiDispatch [[25]] [0x3F] 'l'), .call (.csiDispatch [[2]] [] 'M')] = some next ∧ framed.Confines next :=
  run_confined plainWidth_lawful framed_placed <| by
    simp only [List.mem_cons, List.not_mem_nil, or_false, forall_eq_or_imp, forall_eq, Event.Confined, Call.Confined]
    simp

end Screen

end Ezpn.Emulator
