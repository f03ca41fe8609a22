import Ezpn.Screen

/-!
# Dumps of a pane

History is only in view through the window above the live screen. Windows of the
height, taken from the top, meet without a gap and without an overlap.
-/

set_option autoImplicit false

namespace Ezpn

namespace Grid

/-- The top of the window at an offset, up to the live rows. -/
theorem window {grid : Grid} {offset : Nat} (inside : offset ≤ grid.scrollback.length) :
    (grid.setScrollback offset).visibleRows.take (min offset grid.height) =
      (grid.scrollback.drop (grid.scrollback.length - offset)).take grid.height := by
  simp only [visibleRows, setScrollback, Nat.min_eq_left inside, grid.allocated]
  have length : ((grid.scrollback.drop (grid.scrollback.length - offset)).take grid.height).length =
      min offset grid.height := by
    simp only [List.length_take, List.length_drop]
    omega
  rw [← length, List.take_left]

end Grid

/-- A display parser whose readers see a grid. -/
class ScreenVt100 (G : Type) [Vt100 G] where
  grid : G → Grid
  size_eq : ∀ g : G, Vt100.size g = ((grid g).height, (grid g).width)
  scrollback_eq : ∀ g : G, Vt100.scrollback g = (grid g).scrollbackOffset
  rows_eq : ∀ g : G, Vt100.rows g = (grid g).rowTexts 0 (grid g).width
  grid_setScrollback : ∀ (offset : Nat) (g : G), grid (Vt100.setScrollback offset g) = (grid g).setScrollback offset

/-- A display that shows a fixed screen: what the parser is between two outputs. -/
structure StillDisplay where
  grid : Grid

namespace StillDisplay

/-- A blank screen of about that size. -/
def blank (rows cols : Nat) : StillDisplay where
  grid := .narrow (min (max cols 1) u16Max) (List.replicate (min (max rows 1) u16Max) { cells := [] }) []
    (by simp only [u16Max, List.length_replicate]; omega) (by simp only [List.length_replicate]; omega) (Nat.zero_le _)
    (fun row member cell inside => by
      obtain rfl := List.eq_of_mem_replicate member
      cases inside)

instance : Vt100 StillDisplay where
  new rows cols _ := blank rows cols
  size display := (display.grid.height, display.grid.width)
  setSize rows cols _ := blank rows cols
  process _ display := display
  setScrollback offset display := ⟨display.grid.setScrollback offset⟩
  scrollback display := display.grid.scrollbackOffset
  rows display := display.grid.rowTexts 0 display.grid.width
  applicationCursor _ := false
  cursorPosition _ := (0, 0)
  charWidth _ := 1

instance : ScreenVt100 StillDisplay where
  grid := StillDisplay.grid
  size_eq _ := rfl
  scrollback_eq _ := rfl
  rows_eq _ := rfl
  grid_setScrollback _ _ := rfl

/-- A pane that shows a fixed screen. -/
def pane (display : StillDisplay) : Pane StillDisplay where
  process := 0
  parser := display
  launch := .shell
  scrollbackLines := 0
  initialCwd := none
  initialEnv := ∅
  scrollbackByteBudget := defaultScrollbackBytes

end StillDisplay

namespace Pane
variable {G : Type} [Vt100 G] [ScreenVt100 G]

open ScreenVt100 (grid)

/-- The text of a row of the pane's screen. -/
def rowText (screen : Grid) (row : Row) : String := row.writeContents 0 screen.width

/-- A suffix of the history, read in windows. -/
theorem dumpHistory_eq (fuel offset : Nat) (g : G) (enough : offset ≤ fuel)
    (inside : offset ≤ (grid g).scrollback.length) :
    (dumpHistory (grid g).height fuel offset g).2 =
      ((grid g).scrollback.drop ((grid g).scrollback.length - offset)).map (rowText (grid g)) := by
  induction fuel generalizing offset g with
  | zero =>
      obtain rfl : offset = 0 := by omega
      simp [dumpHistory]
  | succ fuel ih =>
      unfold dumpHistory
      split
      · rename_i done
        simp [done]
      · have moved : grid (Vt100.setScrollback offset g) = (grid g).setScrollback offset :=
          ScreenVt100.grid_setScrollback offset g
        have positive := (grid g).height_pos
        have height : (grid (Vt100.setScrollback offset g)).height = (grid g).height := by rw [moved]; rfl
        have scrollback : (grid (Vt100.setScrollback offset g)).scrollback = (grid g).scrollback := by rw [moved]; rfl
        have rest := ih (offset - (grid g).height) (Vt100.setScrollback offset g) (by omega)
          (by rw [scrollback]; omega)
        have seen : (Vt100.rows (Vt100.setScrollback offset g)).take (min offset (grid g).height) =
            (((grid g).scrollback.drop ((grid g).scrollback.length - offset)).take (grid g).height).map
              (rowText (grid g)) := by
          rw [ScreenVt100.rows_eq, moved, Grid.rowTexts, ← List.map_take, Grid.window inside]
          rfl
        have text : rowText (grid (Vt100.setScrollback offset g)) = rowText (grid g) := by rw [moved]; rfl
        have next : (grid g).scrollback.drop ((grid g).scrollback.length - (offset - (grid g).height)) =
            ((grid g).scrollback.drop ((grid g).scrollback.length - offset)).drop (grid g).height := by
          by_cases more : (grid g).height ≤ offset
          · rw [List.drop_drop]
            congr 1
            omega
          · rw [List.drop_eq_nil_of_le (by omega), List.drop_eq_nil_of_le]
            rw [List.length_drop]
            omega
        rw [height, scrollback, text, next] at rest
        simp only [seen, rest]
        rw [← List.map_append, List.take_append_drop]

/-- Reading windows only moves the view. -/
theorem grid_dumpHistory (rows fuel offset : Nat) (g : G) :
    ∃ view, grid (dumpHistory rows fuel offset g).1 = (grid g).setScrollback view := by
  induction fuel generalizing offset g with
  | zero => exact ⟨(grid g).scrollbackOffset, (Grid.setScrollback_self (grid g)).symm⟩
  | succ fuel ih =>
      unfold dumpHistory
      split
      · exact ⟨(grid g).scrollbackOffset, (Grid.setScrollback_self (grid g)).symm⟩
      · obtain ⟨view, moved⟩ := ih (offset - rows) (Vt100.setScrollback offset g)
        exact ⟨view, by rw [moved, ScreenVt100.grid_setScrollback, Grid.setScrollback_setScrollback]⟩

/-- The rows of a dump: the history, if asked for, and the live rows. -/
def dumpRows (includeScrollback : Bool) (screen : Grid) : List Row :=
  if includeScrollback then screen.scrollback ++ screen.rows else screen.rows

/-- A dump gives each row once, oldest first. -/
theorem dumpText_lines (includeScrollback : Bool) (pane : Pane G) :
    (pane.dumpText includeScrollback).2 =
      (dumpRows includeScrollback (grid pane.parser)).map (rowText (grid pane.parser)) := by
  have live {g : G} {view : Nat} (moved : grid g = (grid pane.parser).setScrollback view) :
      Vt100.rows (Vt100.setScrollback 0 g) = (grid pane.parser).rows.map (rowText (grid pane.parser)) := by
    rw [ScreenVt100.rows_eq, ScreenVt100.grid_setScrollback, moved, Grid.setScrollback_setScrollback, Grid.rowTexts,
      Grid.visibleRows_bottom (Nat.zero_min _)]
    rfl
  cases includeScrollback with
  | false => exact live (Grid.setScrollback_self (grid pane.parser)).symm
  | true =>
      have probed : Vt100.scrollback (Vt100.setScrollback (usizeMax / 2) pane.parser) =
          (grid pane.parser).scrollback.length := by
        rw [ScreenVt100.scrollback_eq, ScreenVt100.grid_setScrollback]
        exact Nat.min_eq_right (grid pane.parser).bounded
      have reset : grid (Vt100.setScrollback 0 (Vt100.setScrollback (usizeMax / 2) pane.parser)) =
          (grid pane.parser).setScrollback 0 := by
        rw [ScreenVt100.grid_setScrollback, ScreenVt100.grid_setScrollback, Grid.setScrollback_setScrollback]
      have history := dumpHistory_eq (grid pane.parser).scrollback.length (grid pane.parser).scrollback.length
        (Vt100.setScrollback 0 (Vt100.setScrollback (usizeMax / 2) pane.parser)) (Nat.le_refl _)
        (by rw [reset]; exact Nat.le_refl _)
      obtain ⟨view, moved⟩ := grid_dumpHistory (grid pane.parser).height (grid pane.parser).scrollback.length
        (grid pane.parser).scrollback.length (Vt100.setScrollback 0 (Vt100.setScrollback (usizeMax / 2) pane.parser))
      rw [reset, Grid.setScrollback_setScrollback] at moved
      rw [reset] at history
      simp only [dumpText, ScreenVt100.size_eq, probed, if_true, dumpRows, List.map_append, live moved]
      have whole : ((grid pane.parser).setScrollback 0).scrollback.drop
          (((grid pane.parser).setScrollback 0).scrollback.length - (grid pane.parser).scrollback.length) =
          (grid pane.parser).scrollback := by
        simp [Grid.setScrollback]
      rw [whole] at history
      exact congrArg (· ++ _) history

/-- A dump leaves the view and everything else of the screen as it was. -/
theorem dumpText_grid (includeScrollback : Bool) (pane : Pane G) :
    grid (pane.dumpText includeScrollback).1.parser = grid pane.parser := by
  have back {g : G} {view : Nat} (moved : grid g = (grid pane.parser).setScrollback view) :
      grid (Vt100.setScrollback (Vt100.scrollback pane.parser) (Vt100.setScrollback 0 g)) = grid pane.parser := by
    rw [ScreenVt100.grid_setScrollback, ScreenVt100.grid_setScrollback, moved, Grid.setScrollback_setScrollback,
      Grid.setScrollback_setScrollback, ScreenVt100.scrollback_eq, Grid.setScrollback_self]
  cases includeScrollback with
  | false => exact back (Grid.setScrollback_self (grid pane.parser)).symm
  | true =>
      let probed := Vt100.setScrollback 0 (Vt100.setScrollback (usizeMax / 2) pane.parser)
      obtain ⟨view, moved⟩ := grid_dumpHistory (Vt100.size pane.parser).1
        (Vt100.scrollback (Vt100.setScrollback (usizeMax / 2) pane.parser))
        (Vt100.scrollback (Vt100.setScrollback (usizeMax / 2) pane.parser)) probed
      rw [show grid probed = (grid pane.parser).setScrollback 0 by
        rw [ScreenVt100.grid_setScrollback, ScreenVt100.grid_setScrollback, Grid.setScrollback_setScrollback],
        Grid.setScrollback_setScrollback] at moved
      exact back moved

end Pane

end Ezpn
