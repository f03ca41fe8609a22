import Ezpn.Chrome

/-!
# Title rows

Every pane has the row above its content for its title. Title rows and contents
of a layout share no cell, so each cell belongs to at most one pane.
-/

set_option autoImplicit false

namespace Ezpn

/-! ## Cells of one pane -/

/-- A cell of the content, or of the row above it. -/
def Rect.Claims (r : Rect) (x y : Nat) : Prop :=
  (r.x ≤ x ∧ x < r.x + r.w) ∧ 0 < r.h ∧ r.y ≤ y + 1 ∧ y < r.y + r.h

namespace LayoutNode
variable {R : Type} [RatioOps R]

theorem rects_claims_unique {node : LayoutNode R} {area : Rect} (fits : area.Fits) {x y : Nat} {e other : Nat × Rect}
    (member : e ∈ node.rects area) (claims : e.2.Claims x y) (otherMember : other ∈ node.rects area)
    (otherClaims : other.2.Claims x y) : e = other := by
  obtain ⟨columns, tall, above, below⟩ := claims
  obtain ⟨otherColumns, otherTall, otherAbove, otherBelow⟩ := otherClaims
  by_cases content : e.2.y ≤ y
  · refine rects_apart fits member (x := x) (y := y) ?_ otherMember ?_
    · rw [Rect.contains_iff]
      exact ⟨columns, content, below⟩
    · unfold Rect.Near
      omega
  · -- the title row is one row above a cell of the content
    refine rects_apart fits member (x := x) (y := y + 1) ?_ otherMember ?_
    · rw [Rect.contains_iff]
      omega
    · unfold Rect.Near
      omega

end LayoutNode

namespace Layout
variable {R : Type} [RatioOps R]

theorem paneRects_claims_unique {layout : Layout R} (distinct : layout.paneIds.Nodup) {inner : Rect}
    (x : inner.x ≤ u16Max) (y : inner.y ≤ u16Max) {cx cy one other : Nat} {r r' : Rect}
    (found : (layout.paneRects inner)[one]? = some r) (claims : r.Claims cx cy)
    (otherFound : (layout.paneRects inner)[other]? = some r') (otherClaims : r'.Claims cx cy) :
    one = other ∧ r = r' :=
  Prod.mk.inj (LayoutNode.rects_claims_unique (Rect.clipped_fits x y) ((paneRects_getElem distinct).mp found) claims
    ((paneRects_getElem distinct).mp otherFound) otherClaims)

theorem paneRects_inside {layout : Layout R} (distinct : layout.paneIds.Nodup) {inner : Rect} (x : inner.x ≤ u16Max)
    (y : inner.y ≤ u16Max) {id : Nat} {r : Rect} (found : (layout.paneRects inner)[id]? = some r) :
    r.Inside inner.clipped :=
  LayoutNode.rects_inside (Rect.clipped_fits x y) ((paneRects_getElem distinct).mp found)

end Layout

/-! ## Buttons -/

theorem titleButton_columns {x y pid : Nat} {rect : Rect} {action : TitleAction}
    (hit : titleButton x y pid rect = some action) :
    y = rect.y - 1 ∧ 0 < rect.h ∧ (rect.x ≤ x ∧ x < rect.x + rect.w) ∧ 4 ≤ rect.w := by
  simp only [titleButton] at hit
  split at hit
  · cases hit
  rename_i row
  simp only [Bool.or_eq_true, decide_eq_true_eq, not_or, ne_eq, not_not] at row
  refine ⟨row.1.1, Nat.pos_of_ne_zero row.2, ?_⟩
  split at hit
  · split at hit
    · rename_i wide here
      simp only [Bool.and_eq_true, decide_eq_true_eq] at here
      omega
    split at hit
    · rename_i wide _ here
      simp only [Bool.and_eq_true, decide_eq_true_eq] at here
      omega
    split at hit
    · rename_i wide _ _ here
      simp only [Bool.and_eq_true, decide_eq_true_eq] at here
      omega
    · cases hit
  split at hit
  · split at hit
    · rename_i here
      simp only [Bool.or_eq_true, decide_eq_true_eq] at here
      omega
    · cases hit
  · cases hit

theorem titleButton_tall {x y pid : Nat} {rect : Rect} {action : TitleAction}
    (hit : titleButton x y pid rect = some action) : 0 < rect.h := (titleButton_columns hit).2.1

/-- A button lies in the title row of its pane. -/
theorem titleButton_claims {x y pid : Nat} {rect : Rect} {action : TitleAction} (low : 1 ≤ rect.y)
    (hit : titleButton x y pid rect = some action) : rect.Claims x y ∧ y + 1 = rect.y ∧ 4 ≤ rect.w := by
  obtain ⟨row, tall, columns, wide⟩ := titleButton_columns hit
  unfold Rect.Claims
  omega

section Hits
variable {R : Type} [RatioOps R]

/-- Panes in any order: a cell is on a button of at most one. -/
theorem titleButtonHit_eq_some_iff {layout : Layout R} (distinct : layout.paneIds.Nodup) {inner : Rect}
    (x : inner.x ≤ u16Max) (y : inner.y ≤ u16Max) (low : 0 < inner.h → 1 ≤ inner.y) {cx cy : Nat} {action : TitleAction} :
    titleButtonHit cx cy layout inner = some action ↔
      ∃ pid rect, (layout.paneRects inner)[pid]? = some rect ∧ titleButton cx cy pid rect = some action := by
  have claims {pid : Nat} {rect : Rect} {action : TitleAction} (found : (layout.paneRects inner)[pid]? = some rect)
      (hit : titleButton cx cy pid rect = some action) : rect.Claims cx cy := by
    have inside := Layout.paneRects_inside distinct x y found
    have above := inside.above
    have below := inside.below
    simp only [Rect.clipped] at above below
    have tall : 0 < rect.h := titleButton_tall hit
    have := low (by omega)
    exact (titleButton_claims (by omega) hit).1
  constructor
  · intro hit
    obtain ⟨⟨pid, rect⟩, member, button⟩ := List.exists_of_findSome?_eq_some hit
    exact ⟨pid, rect, Std.ExtTreeMap.mem_toList_iff_getElem?_eq_some.mp member, button⟩
  · rintro ⟨pid, rect, found, button⟩
    have present : (titleButtonHit cx cy layout inner).isSome = true := by
      rw [titleButtonHit, List.isSome_findSome?, List.any_eq_true]
      exact ⟨(pid, rect), Std.ExtTreeMap.mem_toList_iff_getElem?_eq_some.mpr found, by simp [button]⟩
    obtain ⟨other, hit⟩ := Option.isSome_iff_exists.mp present
    obtain ⟨⟨pid', rect'⟩, member, button'⟩ := List.exists_of_findSome?_eq_some hit
    have found' := Std.ExtTreeMap.mem_toList_iff_getElem?_eq_some.mp member
    obtain ⟨rfl, rfl⟩ := Layout.paneRects_claims_unique distinct x y found (claims found button) found' (claims found' button')
    exact hit.trans (button'.symm.trans button)

end Hits

/-! ## Drawn titles -/

namespace Chrome
open Layers

theorem or_bind_of_none {α β : Type} {above below : Option α} {f : α → Option β} (plain : below.bind f = none) :
    (above.or below).bind f = above.bind f := by
  cases above with
  | none => exact plain
  | some a => rfl

theorem strip_covers {x y width : Nat} {element : Element} {cx cy : Nat} :
    (strip x y width element).covers (cx, cy) = true ↔ cy = y ∧ x ≤ cx ∧ cx < x + width := by
  simp [strip, and_assoc]

theorem rightLen_full {avail : Nat} (full : 13 ≤ avail) : rightLen avail = 11 := by
  simp [rightLen, full]

theorem rightLen_close {avail : Nat} (wide : 4 ≤ avail) (narrow : avail < 13) : rightLen avail = 2 := by
  simp [rightLen, wide, Nat.not_le.mpr narrow]

theorem buttons_row {x y avail pid : Nat} (wide : 4 ≤ avail) {piece : Piece} (member : piece ∈ buttons x y avail pid) :
    ∃ start width element, piece = strip start y width element ∧ x ≤ start ∧ start + width ≤ x + rightLen avail := by
  simp only [buttons] at member
  split at member
  · rename_i full
    rw [rightLen_full full]
    simp only [List.mem_cons, List.not_mem_nil, or_false] at member
    rcases member with rfl | rfl | rfl | rfl
    · exact ⟨_, _, _, rfl, by omega, by omega⟩
    · exact ⟨_, _, _, rfl, by omega, by omega⟩
    · exact ⟨_, _, _, rfl, by omega, by omega⟩
    · exact ⟨_, _, _, rfl, by omega, by omega⟩
  · rename_i narrow
    rw [rightLen_close wide (Nat.not_le.mp narrow)]
    exact ⟨_, _, _, List.mem_singleton.mp member, Nat.le_refl _, Nat.le_refl _⟩

/-- The buttons are drawn where they are looked for. -/
theorem shown_buttons {rect : Rect} (wide : 4 ≤ rect.w) (tall : 0 < rect.h) (x y pid : Nat) :
    (topmost (buttons (rect.x + (rect.w - rightLen rect.w)) (rect.y - 1) rect.w pid) (x, y)).bind Element.action =
      (titleButton x y pid rect).map .title := by
  have extent : ¬(rect.w = 0) ∧ ¬(rect.h = 0) := by omega
  by_cases row : y = rect.y - 1
  · by_cases full : 13 ≤ rect.w
    · -- the eleven columns up to the right end
      obtain ⟨start, whole⟩ : ∃ start, start + 11 = rect.x + rect.w := ⟨rect.x + (rect.w - 11), by omega⟩
      have left : rect.x + (rect.w - rightLen rect.w) = start := by
        rw [rightLen_full full]
        omega
      simp only [buttons, titleButton, full, row, extent, left, ← whole, topmost_cons, topmost_nil, strip_covers, ge_iff_le,
        if_true, ne_eq, not_true, decide_false, Bool.or_false, Bool.false_eq_true, if_false, true_and, Bool.and_eq_true,
        decide_eq_true_eq, Option.none_or]
      have closeRange : start + 11 - 3 ≤ x ∧ x < start + 11 ↔ start + 8 ≤ x ∧ x < start + 8 + 3 := by omega
      have splitVRange : start + 11 - 7 ≤ x ∧ x < start + 11 - 4 ↔ start + 4 ≤ x ∧ x < start + 4 + 3 := by omega
      have splitHRange : start + 11 - 11 ≤ x ∧ x < start + 11 - 8 ↔ start ≤ x ∧ x < start + 3 := by omega
      simp only [closeRange, splitVRange, splitHRange, strip]
      by_cases close : start + 8 ≤ x ∧ x < start + 8 + 3
      · simp only [close, and_self, if_true, Option.some_or, Option.bind_some, Element.action, Option.map_some]
      by_cases splitV : start + 4 ≤ x ∧ x < start + 4 + 3
      · simp only [close, splitV, and_self, if_true, if_false, Option.none_or, Option.some_or, Option.bind_some,
          Element.action, Option.map_some]
      by_cases splitH : start ≤ x ∧ x < start + 3
      · simp only [close, splitV, splitH, and_self, if_true, if_false, Option.none_or, Option.some_or, Option.bind_some,
          Element.action, Option.map_some]
      · simp only [close, splitV, splitH, if_false, Option.none_or, Option.map_none]
        split
        · rfl
        · rfl
    · have narrow : rect.w < 13 := Nat.not_le.mp full
      have left : rect.x + (rect.w - rightLen rect.w) = rect.x + rect.w - 1 - 1 := by
        rw [rightLen_close wide narrow]
        omega
      have closeRange : x = rect.x + rect.w - 1 ∨ x = rect.x + rect.w - 1 - 1 ↔
          rect.x + rect.w - 1 - 1 ≤ x ∧ x < rect.x + rect.w - 1 - 1 + 2 := by omega
      simp only [buttons, titleButton, full, wide, row, extent, left, closeRange, topmost_cons, topmost_nil, strip_covers,
        ge_iff_le, if_true, ne_eq, not_true, decide_false, Bool.or_false, Bool.false_eq_true, if_false, true_and,
        Bool.or_eq_true, decide_eq_true_eq, Option.none_or]
      split
      · rfl
      · rfl
  · have outside : titleButton x y pid rect = none := by simp [titleButton, row]
    have clear : topmost (buttons (rect.x + (rect.w - rightLen rect.w)) (rect.y - 1) rect.w pid) (x, y) = none := by
      refine topmost_eq_none fun piece member => ?_
      obtain ⟨start, width, element, rfl, _⟩ := buttons_row wide member
      simp [strip, row]
    rw [clear, outside]
    rfl

section Titles
variable (tables : CellTables) (view : PaneView) (borderless : Bool)

/-- The printed title leaves the columns of the buttons free. -/
def Fits (idx avail : Nat) : Prop := titleWidth tables view idx avail borderless + 1 + rightLen avail ≤ avail

instance (idx avail : Nat) : Decidable (Fits tables view borderless idx avail) := inferInstanceAs (Decidable (_ ≤ _))

theorem truncateFrom_sum {maxCols width : Nat} (within : width ≤ maxCols) (text : List Char) :
    width + ((truncateFrom tables maxCols width text).map fun c => (tables.charWidth c).getD 0).sum ≤ maxCols := by
  induction text generalizing width with
  | nil => exact within
  | cons c text ih =>
      rw [truncateFrom]
      split
      · exact ih within
      dsimp only
      split
      · exact within
      · rename_i fits
        rw [List.map_cons, List.sum_cons, ← Nat.add_assoc]
        exact ih (Nat.le_of_not_lt fits)

/-- A title is cut to the room that the buttons leave. -/
theorem fits_of_summed {tables : CellTables} {view : PaneView} {borderless : Bool} {idx avail : Nat}
    (summed : ∀ text, tables.strWidth text ≤ (text.map fun c => (tables.charWidth c).getD 0).sum) (wide : 4 ≤ avail) :
    Fits tables view borderless idx avail := by
  have room : 1 + rightLen avail ≤ avail := by
    by_cases full : 13 ≤ avail
    · rw [rightLen_full full]
      omega
    · rw [rightLen_close wide (Nat.lt_of_not_le full)]
      omega
  have cut := summed (truncateLabel tables (titleText tables view idx avail borderless) (avail - (1 + rightLen avail)))
  have sum : ((truncateLabel tables (titleText tables view idx avail borderless) (avail - (1 + rightLen avail))).map
      fun c => (tables.charWidth c).getD 0).sum ≤ avail - (1 + rightLen avail) := by
    unfold truncateLabel
    split
    · exact Nat.zero_le _
    · have cutTo := truncateFrom_sum tables (Nat.zero_le (avail - (1 + rightLen avail)))
        (titleText tables view idx avail borderless)
      rw [Nat.zero_add] at cutTo
      exact cutTo
  unfold Fits titleWidth
  omega

/-- A title that fits comes with its buttons, any other is not drawn. -/
theorem shown_drawPaneTitle {rect : Rect} (tall : 0 < rect.h) (x y pid idx : Nat) :
    (topmost (drawPaneTitle tables view pid idx rect borderless) (x, y)).bind Element.action =
      if Fits tables view borderless idx rect.w then (titleButton x y pid rect).map .title else none := by
  by_cases wide : 4 ≤ rect.w
  · have drawn := shown_buttons wide tall x y pid
    have text (start width : Nat) :
        (if (strip start (rect.y - 1) width .text).covers (x, y) then some (strip start (rect.y - 1) width .text).paint
          else none).bind Element.action = none := by
      split
      · rfl
      · rfl
    simp only [drawPaneTitle, Nat.not_lt.mpr wide, if_false]
    by_cases fits : Fits tables view borderless idx rect.w
    · have room : rect.w ≥ titleWidth tables view idx rect.w borderless + 1 + rightLen rect.w := fits
      rw [if_pos fits, if_pos room]
      cases borderless with
      | true =>
          simp only [if_true, topmost_cons]
          rw [Option.or_assoc, or_bind_of_none (by rw [or_bind_of_none (text _ _)]; exact text _ _)]
          exact drawn
      | false =>
          simp only [Bool.false_eq_true, if_false, topmost_cons]
          have left : rect.x + 1 + titleWidth tables view idx rect.w false +
              (rect.w - (titleWidth tables view idx rect.w false + 1 + rightLen rect.w)) =
              rect.x + (rect.w - rightLen rect.w) := by omega
          rw [or_bind_of_none (text _ _), left]
          exact drawn
    · have noRoom : ¬rect.w ≥ titleWidth tables view idx rect.w borderless + 1 + rightLen rect.w := fits
      rw [if_neg fits, if_neg noRoom]
      rfl
  · have narrow : ¬13 ≤ rect.w := by omega
    have outside : titleButton x y pid rect = none := by simp [titleButton, wide, narrow]
    rw [outside]
    simp [drawPaneTitle, Nat.not_le.mp wide]

/-- A title stays in its row. -/
theorem drawPaneTitle_row {rect : Rect} {pid idx x y : Nat} {piece : Piece}
    (member : piece ∈ drawPaneTitle tables view pid idx rect borderless) (covers : piece.covers (x, y) = true) :
    y = rect.y - 1 ∧ rect.x ≤ x ∧ x < rect.x + rect.w := by
  simp only [drawPaneTitle] at member
  split at member
  · cases member
  rename_i wide
  have wide := Nat.not_lt.mp wide
  split at member
  · rename_i room
    split at member
    · simp only [List.mem_cons] at member
      rcases member with rfl | rfl | member
      · exact strip_covers.mp covers
      · have := strip_covers.mp covers
        omega
      · obtain ⟨start, width, element, rfl, left, right⟩ := buttons_row wide member
        have := strip_covers.mp covers
        omega
    · rcases List.mem_cons.mp member with rfl | member
      · have := strip_covers.mp covers
        omega
      · obtain ⟨start, width, element, rfl, left, right⟩ := buttons_row wide member
        have := strip_covers.mp covers
        omega
  · cases member

end Titles

/-! ## Panes -/

namespace Scene
variable {R : Type} [RatioOps R] {s : Scene R}

theorem inner_eq (s : Scene R) : s.inner = terminalContentArea s.tw s.th s.settings := rfl

/-- Rows that the bars below the panes take. -/
def barRows (s : Scene R) : Nat := s.settings.showStatusBar.toNat + (s.settings.showTabBar && s.tabs.length > 1).toNat

/-- Panes lie between the row of the topmost titles and the bars. -/
theorem inner_bounds (s : Scene R) (tall : 0 < s.inner.h) : s.inner.y = 1 ∧ s.inner.y + s.inner.h + s.barRows ≤ s.th := by
  have count := s.counted
  simp only [inner_eq, terminalContentArea, terminalRenderHeight, contentArea, barRows, count] at tall ⊢
  cases style : s.settings.borderStyle.isNone with
  | true =>
      simp only [style, Bool.not_true, Bool.toNat_false, Bool.true_and] at tall ⊢
      omega
  | false =>
      have chrome := Bool.toNat_le (s.settings.showTabBar && decide (s.tabs.length > 1))
      simp only [style, Bool.not_false, Bool.toNat_true, Bool.false_and, Bool.toNat_false] at tall ⊢
      omega

theorem inner_right (s : Scene R) (wide : 0 < s.inner.w) : s.inner.x + s.inner.w ≤ s.tw := by
  simp only [inner_eq, terminalContentArea, contentArea] at wide ⊢
  omega

theorem inner_x (s : Scene R) : s.inner.x ≤ u16Max := by
  have := s.narrow
  simp only [inner_eq, terminalContentArea, contentArea]
  omega

theorem inner_y (s : Scene R) : s.inner.y ≤ u16Max := by
  simp only [inner_eq, terminalContentArea, contentArea, u16Max]
  omega

omit [RatioOps R] in
theorem clickLayout_distinct (s : Scene R) : s.clickLayout.paneIds.Nodup := by
  unfold clickLayout
  split
  · exact (Layout.singleton_wellFormed _ _).distinct
  · exact s.formed.distinct

end Scene

end Chrome

end Ezpn
