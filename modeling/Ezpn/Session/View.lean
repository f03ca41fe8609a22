import Ezpn.Session.Panes

/-!
# The view of a pane

Between two steps of the server no pane looks at its history: what moves the view
to read rows puts it back.
-/

set_option autoImplicit false

namespace Ezpn

/-- What holds of the display parser's view. At the bottom no history is in view, on neither screen. -/
class ViewedVt100 (G : Type) [Vt100 G] where
  Bottom : G → Prop
  bottom_new : ∀ rows cols scrollback, Bottom (Vt100.new rows cols scrollback)
  bottom_setSize : ∀ rows cols (grid : G), Bottom grid → Bottom (Vt100.setSize rows cols grid)
  bottom_process : ∀ bytes (grid : G), Bottom grid → Bottom (Vt100.process bytes grid)
  setScrollback_bottom : ∀ grid : G, Bottom grid → Vt100.setScrollback 0 grid = grid
  scrollback_bottom : ∀ grid : G, Bottom grid → Vt100.scrollback grid = 0
  setScrollback_setScrollback : ∀ first second (grid : G),
    Vt100.setScrollback second (Vt100.setScrollback first grid) = Vt100.setScrollback second grid

instance : ViewedVt100 RawDisplay where
  Bottom _ := True
  bottom_new _ _ _ := trivial
  bottom_setSize _ _ _ _ := trivial
  bottom_process _ _ _ := trivial
  setScrollback_bottom _ _ := rfl
  scrollback_bottom _ _ := rfl
  setScrollback_setScrollback _ _ _ := rfl

namespace Pane
variable {G : Type} [Vt100 G] [ViewedVt100 G]

def AtBottom (pane : Pane G) : Prop := ViewedVt100.Bottom pane.parser

/-- Looking at the history and back changes nothing. -/
theorem setScrollback_back {grid : G} (bottom : ViewedVt100.Bottom grid) (offset : Nat) :
    Vt100.setScrollback 0 (Vt100.setScrollback offset grid) = grid := by
  rw [ViewedVt100.setScrollback_setScrollback, ViewedVt100.setScrollback_bottom grid bottom]

theorem setScrollback_dumpHistory (rows fuel offset view : Nat) (grid : G) :
    Vt100.setScrollback view (dumpHistory rows fuel offset grid).1 = Vt100.setScrollback view grid := by
  induction fuel generalizing offset grid with
  | zero => rfl
  | succ fuel ih =>
      simp only [dumpHistory]
      split
      · rfl
      · rw [ih, ViewedVt100.setScrollback_setScrollback]

theorem dumpText_display {pane : Pane G} (bottom : pane.AtBottom) (includeScrollback : Bool) :
    (pane.dumpText includeScrollback).1.parser = pane.parser := by
  simp only [dumpText, ViewedVt100.scrollback_bottom _ bottom]
  split
  · rw [ViewedVt100.setScrollback_setScrollback, setScrollback_dumpHistory, ViewedVt100.setScrollback_setScrollback,
      ViewedVt100.setScrollback_setScrollback, ViewedVt100.setScrollback_bottom _ bottom]
  · rw [ViewedVt100.setScrollback_setScrollback, ViewedVt100.setScrollback_bottom _ bottom]

/-- Drawing leaves the pane as it was. -/
theorem draw_atBottom {pane : Pane G} (bottom : pane.AtBottom) : pane.syncScrollback.resetScrollbackView = pane := by
  simp only [syncScrollback, resetScrollbackView, setScrollback_back bottom]

theorem readOutput_atBottom {world : World} {feed : Feed} {pane : Pane G} (bottom : pane.AtBottom) :
    (pane.readOutput world feed).1.AtBottom := by
  have chunks (chunks : List Bytes) (pane : Pane G) (bottom : pane.AtBottom) :
      (chunks.foldl (fun pane chunk => pane.readChunk world chunk) pane).AtBottom := by
    induction chunks generalizing pane with
    | nil => exact bottom
    | cons chunk chunks ih =>
        have viewed : ViewedVt100.Bottom (Vt100.setScrollback 0 pane.parser) := by
          rw [ViewedVt100.setScrollback_bottom _ bottom]
          exact bottom
        exact ih _ (ViewedVt100.bottom_process _ _ viewed)
  exact chunks _ pane bottom

theorem restoreScrollback_atBottom (rows : List String) {pane : Pane G} (bottom : pane.AtBottom) :
    (pane.restoreScrollback rows).AtBottom := by
  have characters (chars : List Char) (grid : G) (bottom : ViewedVt100.Bottom grid) :
      ViewedVt100.Bottom (chars.foldl
        (fun grid c => Vt100.process (String.singleton c).toUTF8.data.toList grid) grid) := by
    induction chars generalizing grid with
    | nil => exact bottom
    | cons c chars ih => exact ih _ (ViewedVt100.bottom_process _ _ bottom)
  simp only [restoreScrollback]
  split
  · exact bottom
  · simp only [AtBottom]
    generalize rows.drop _ = retained
    have replayed : ∀ grid : G, ViewedVt100.Bottom grid → ViewedVt100.Bottom (retained.foldl (fun grid text =>
        Vt100.process (ascii "\r\n") ((fitRow G (Vt100.size pane.parser).2 0 text.toList).foldl
          (fun grid c => Vt100.process (String.singleton c).toUTF8.data.toList grid) grid)) grid) := by
      induction retained with
      | nil => exact fun grid bottom => bottom
      | cons text retained ih =>
          exact fun grid bottom => ih _ (ViewedVt100.bottom_process _ _ (characters _ grid bottom))
    exact replayed _ bottom

theorem atBottom_stable : Stable (AtBottom (G := G)) where
  alike a b parser _ _ bottom := by
    rw [AtBottom, parser]
    exact bottom
  spawned pane rect spawned := by
    obtain ⟨scrollback, grid⟩ := spawned.grid
    rw [AtBottom, grid]
    exact ViewedVt100.bottom_new _ _ _
  budgeted byteBudget pane bottom := by
    simp only [setScrollbackBudget]
    split
    · exact bottom
    · exact ViewedVt100.bottom_new _ _ _
  resized world cols rows pane bottom := by
    simp only [resize]
    repeat' split
    · exact bottom
    · exact bottom
    · exact bottom
    · exact ViewedVt100.bottom_setSize _ _ _ bottom
  read world feed pane bottom := readOutput_atBottom bottom
  closed pane bottom := bottom
  asked pane bottom := bottom
  drawn pane bottom := by rwa [draw_atBottom bottom]
  dumped includeScrollback pane bottom := by
    rw [AtBottom, dumpText_display bottom]
    exact bottom
  replayed rows pane bottom := restoreScrollback_atBottom rows bottom

end Pane

end Ezpn
