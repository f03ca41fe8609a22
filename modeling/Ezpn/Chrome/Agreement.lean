import Ezpn.Chrome.Frames

/-!
# Clickable means visible

A click does what the frame shows under it, as long as the frame shows what can
be clicked: the exact condition, and the kinds of terminals that break it.
-/

set_option autoImplicit false

namespace Ezpn.Chrome

open Layers

namespace Scene
variable {R : Type} [RatioOps R] {s : Scene R}

/-! ## Clicks -/

theorem inner_low (s : Scene R) (tall : 0 < s.inner.h) : 1 ≤ s.inner.y := Nat.le_of_eq (s.inner_bounds tall).1.symm

theorem titleHit_iff {x y : Nat} {button : TitleAction} :
    titleButtonHit x y s.clickLayout s.inner = some button ↔
      ∃ pid rect, (s.clickLayout.paneRects s.inner)[pid]? = some rect ∧ titleButton x y pid rect = some button :=
  titleButtonHit_eq_some_iff s.clickLayout_distinct s.inner_x s.inner_y s.inner_low

theorem titleHit_high {x y : Nat} {button : TitleAction} (hit : titleButtonHit x y s.clickLayout s.inner = some button) :
    y + 2 + s.barRows ≤ s.th := by
  obtain ⟨pid, rect, found, here⟩ := titleHit_iff.mp hit
  exact (titleButton_high found here).1

theorem hitPane_eq_some {x y id : Nat} (hit : s.hitPane x y = some id) :
    ∃ r, s.rects[id]? = some r ∧ r.contains x y = true := by
  obtain ⟨⟨pid, r⟩, found, rfl⟩ := Option.map_eq_some_iff.mp hit
  have cell := List.find?_some found
  exact ⟨r, Std.ExtTreeMap.mem_toList_iff_getElem?_eq_some.mp (List.mem_of_find?_eq_some found), cell⟩

/-- A button is in no pane's content, so no program in a pane gets the click. -/
theorem titleHit_outside {x y : Nat} {button : TitleAction} (hit : titleButtonHit x y s.clickLayout s.inner = some button) :
    s.hitPane x y = none := by
  refine Option.eq_none_iff_forall_ne_some.mpr fun id inPane => ?_
  obtain ⟨r, found, cell⟩ := hitPane_eq_some inPane
  obtain ⟨pid, rect, shown, here⟩ := titleHit_iff.mp hit
  obtain ⟨_, _, row, claims⟩ := titleButton_high shown here
  have cell := Rect.contains_iff.mp cell
  cases zoomed : s.zoomedPane with
  | some zoomedId =>
      simp only [rects, zoomed, IdMap.getElem?_insert] at found
      have single : s.clickLayout = Layout.singleton zoomedId s.layout.nextId := by simp [clickLayout, zoomed]
      have inside := (Layout.paneRects_getElem s.clickLayout_distinct).mp shown
      rw [single] at inside
      obtain ⟨_, rfl⟩ := Prod.mk.inj (List.mem_singleton.mp inside)
      split at found
      · cases found
        simp only [← inner_eq, Rect.clipped] at cell row
        omega
      · simp at found
  | none =>
      have whole : s.clickLayout = s.layout := by simp [clickLayout, zoomed]
      simp only [rects, zoomed] at found
      have listed : (s.layout.paneRects s.inner)[id]? = some r := found
      have claimed : r.Claims x y := by
        unfold Rect.Claims
        omega
      obtain ⟨_, rfl⟩ := Layout.paneRects_claims_unique s.formed.distinct s.inner_x s.inner_y listed claimed
        (whole ▸ shown) claims
      omega

/-- Some label is under the pointer. -/
def HitsTab (s : Scene R) (x y index : Nat) : Prop :=
  y = tabBarY s.th s.settings.showStatusBar ∧ ∃ label ∈ s.labels, label.Covers x ∧ label.index = index

omit [RatioOps R] in
theorem clickedTab_iff (closed : s.settings.visible = false) {x y index : Nat} :
    s.clickedTab x y = some index ↔ s.HitsTab x y index := by
  unfold clickedTab HitsTab
  by_cases bar : s.onTabBar y = true
  · obtain ⟨chrome, row⟩ := onTabBar_iff.mp bar
    have several : ¬s.tabs.length ≤ 1 := Nat.not_le.mpr chrome.2
    rw [if_pos (by simp [closed, bar]), TabBar.tabBarHit, if_neg several, TabBar.hitFrom_iff]
    simp only [mem_labels, chrome, and_self, true_and]
    exact (and_iff_right row).symm
  · rw [if_neg (by simp [bar])]
    refine iff_of_false (by simp) ?_
    rintro ⟨row, label, member, _⟩
    exact bar (onTabBar_iff.mpr ⟨(mem_labels.mp member).1, row⟩)

/-- Without the panel, a click hits a label of the tab bar or a button of a title. -/
theorem clicked_closed (closed : s.settings.visible = false) {shift : Bool} {x y : Nat} {action : ClickAction} :
    s.clicked shift x y = some action ↔
      (∃ button, titleButtonHit x y s.clickLayout s.inner = some button ∧ action = .title button) ∨
        ∃ index, s.HitsTab x y index ∧ action = .goToTab index := by
  unfold clicked
  constructor
  · intro acts
    split at acts
    · cases acts
    cases tab : s.clickedTab x y with
    | some index =>
        rw [tab] at acts
        exact .inr ⟨index, (clickedTab_iff closed).mp tab, (Option.some.inj acts).symm⟩
    | none =>
        simp only [tab, closed, Bool.false_eq_true, if_false] at acts
        obtain ⟨button, hit, rfl⟩ := Option.map_eq_some_iff.mp acts
        exact .inl ⟨button, hit, rfl⟩
  · rintro (⟨button, hit, rfl⟩ | ⟨index, tab, rfl⟩)
    · have stays : s.forwards shift x y = false := by simp [forwards, titleHit_outside hit]
      have noTab : s.clickedTab x y = none := by
        refine Option.eq_none_iff_forall_ne_some.mpr fun index tab => ?_
        obtain ⟨row, label, member, _⟩ := (clickedTab_iff closed).mp tab
        exact tabBar_below (mem_labels.mp member).1 (titleHit_high hit) row
      simp only [stays, noTab, closed, Bool.false_eq_true, if_false, hit, Option.map_some]
    · have bar : s.onTabBar y = true := by
        obtain ⟨row, label, member, _⟩ := tab
        exact onTabBar_iff.mpr ⟨(mem_labels.mp member).1, row⟩
      have stays : s.forwards shift x y = false := by simp [forwards, bar]
      simp only [stays, (clickedTab_iff closed).mpr tab, Bool.false_eq_true, if_false]

omit [RatioOps R] in
theorem clickedTab_open (opened : s.settings.visible = true) (x y : Nat) : s.clickedTab x y = none := by
  simp [clickedTab, opened]

/-- The open panel takes every click. -/
theorem clicked_open (opened : s.settings.visible = true) (shift : Bool) (x y : Nat) :
    s.clicked shift x y = (Settings.itemAt x y s.tw s.th).map .activate := by
  simp [clicked, forwards, opened, clickedTab_open opened]

/-! ## The panel -/

def PanelFits (s : Scene R) : Prop := Settings.panelW + 4 ≤ s.tw ∧ Settings.panelH + 2 ≤ s.th

instance (s : Scene R) : Decidable s.PanelFits := inferInstanceAs (Decidable (_ ∧ _))

end Scene

/-- The handler of the panel activates the item under the click, and nothing else. -/
theorem handleClick_cases (settings : Settings) (mx my tw th : Nat) :
    (∃ item, Settings.itemAt mx my tw th = some item ∧
      settings.handleClick mx my tw th = ({ settings with focused := item } : Settings).activate item) ∨
    Settings.itemAt mx my tw th = none ∧
      (settings.handleClick mx my tw th = ({ settings with visible := false }, .close) ∨
        settings.handleClick mx my tw th = (settings, .none)) := by
  unfold Settings.handleClick Settings.itemAt
  dsimp only
  split
  · exact .inr ⟨rfl, .inl rfl⟩
  · cases hit : Settings.itemY.findIdx? fun row => decide (my = (Settings.origin tw th).2 + row) with
    | some item => exact .inl ⟨item, rfl, rfl⟩
    | none => exact .inr ⟨rfl, .inr rfl⟩

theorem itemAt_outside {x y tw th : Nat}
    (outside : ¬(((tw - Settings.panelW) / 2 ≤ x ∧ x < (tw - Settings.panelW) / 2 + Settings.panelW) ∧
      (th - Settings.panelH) / 2 ≤ y ∧ y < (th - Settings.panelH) / 2 + Settings.panelH)) :
    Settings.itemAt x y tw th = none := by
  unfold Settings.itemAt Settings.origin
  dsimp only
  refine if_pos ?_
  simp only [Bool.or_eq_true, decide_eq_true_eq]
  omega

theorem itemAt_of_inside {x y tw th dy : Nat} (columns : (tw - Settings.panelW) / 2 ≤ x)
    (right : x < (tw - Settings.panelW) / 2 + Settings.panelW) (row : y = (th - Settings.panelH) / 2 + dy)
    (rows : dy < Settings.panelH) : Settings.itemAt x y tw th = Settings.itemY.findIdx? (dy = ·) := by
  have same (r : Nat) : (y = (th - Settings.panelH) / 2 + r) = (dy = r) := by
    rw [row]
    exact propext Nat.add_left_cancel_iff
  unfold Settings.itemAt Settings.origin
  dsimp only
  rw [if_neg]
  · simp only [same]
  · simp only [Bool.or_eq_true, decide_eq_true_eq]
    omega

/-- Each item is listed at its own row. -/
theorem item_of_row : ∀ entry ∈ Settings.itemY.zipIdx, Settings.itemY.findIdx? (entry.1 = ·) = some entry.2 := by decide

/-- Every cell of a drawn panel stands for the item that a click there activates. -/
theorem shown_overlay {tw th : Nat} (wide : Settings.panelW + 4 ≤ tw) (tall : Settings.panelH + 2 ≤ th) (x y : Nat) :
    ∃ element, topmost (renderOverlay tw th) (x, y) = some element ∧
      element.action = (Settings.itemAt x y tw th).map .activate := by
  have guard : ¬(decide (tw < Settings.panelW + 4) || decide (th < Settings.panelH + 2)) = true := by
    simp only [Bool.or_eq_true, decide_eq_true_eq]
    omega
  unfold renderOverlay
  rw [if_neg guard]
  simp only [Settings.origin, topmost_append, topmost_cons]
  generalize atItems : topmost (Settings.itemY.zipIdx.map _) (x, y) = items
  generalize atRows : topmost ((List.range Settings.panelH).map _) (x, y) = rows
  have ofItems {element : Element} (seen : items = some element) : ∃ entry ∈ Settings.itemY.zipIdx,
      element = .settingsItem entry.2 ∧ y = (th - Settings.panelH) / 2 + entry.1 ∧
        (tw - Settings.panelW) / 2 ≤ x ∧ x < (tw - Settings.panelW) / 2 + Settings.panelW := by
    obtain ⟨layer, member, covers, rfl⟩ := exists_of_topmost (atItems.trans seen)
    obtain ⟨entry, listed, rfl⟩ := List.mem_map.mp member
    have cell := strip_covers.mp covers
    refine ⟨entry, listed, rfl, cell.1, ?_⟩
    simp only [pad, Settings.panelW] at cell ⊢
    omega
  have ofRows {element : Element} (seen : rows = some element) : ∃ dy < Settings.panelH,
      element = .panelRow dy ∧ y = (th - Settings.panelH) / 2 + dy ∧
        (tw - Settings.panelW) / 2 ≤ x ∧ x < (tw - Settings.panelW) / 2 + Settings.panelW := by
    obtain ⟨layer, member, covers, rfl⟩ := exists_of_topmost (atRows.trans seen)
    obtain ⟨dy, listed, rfl⟩ := List.mem_map.mp member
    have cell := strip_covers.mp covers
    exact ⟨dy, List.mem_range.mp listed, rfl, cell⟩
  have rowOfEntry : ∀ entry ∈ Settings.itemY.zipIdx, entry.1 < Settings.panelH := by decide
  cases items with
  | some element =>
      obtain ⟨entry, listed, rfl, row, left, right⟩ := ofItems rfl
      refine ⟨_, Option.some_or, ?_⟩
      rw [itemAt_of_inside left right row (rowOfEntry entry listed), item_of_row entry listed]
      rfl
  | none =>
      cases rows with
      | some element =>
          obtain ⟨dy, below, rfl, row, left, right⟩ := ofRows rfl
          refine ⟨.panelRow dy, rfl, ?_⟩
          rw [itemAt_of_inside left right row below]
          rfl
      | none =>
          refine ⟨.text, rfl, ?_⟩
          have outside : Settings.itemAt x y tw th = none := by
            refine itemAt_outside fun inside => ?_
            obtain ⟨dy, row⟩ : ∃ dy, y = (th - Settings.panelH) / 2 + dy := Nat.exists_eq_add_of_le inside.2.1
            have listed : strip ((tw - Settings.panelW) / 2) ((th - Settings.panelH) / 2 + dy) Settings.panelW
                (.panelRow dy) ∈ (List.range Settings.panelH).map fun dy => strip ((tw - Settings.panelW) / 2)
                  ((th - Settings.panelH) / 2 + dy) Settings.panelW (.panelRow dy) :=
              List.mem_map.mpr ⟨dy, List.mem_range.mpr (by omega), rfl⟩
            have covered := topmost_isSome listed (strip_covers.mpr ⟨row, inside.1⟩)
            rw [atRows] at covered
            cases covered
          rw [outside]
          rfl

/-- The cell is in one row of the panel. -/
def OnRow (tw th dy x y : Nat) : Prop :=
  y = (Settings.origin tw th).2 + dy ∧ (Settings.origin tw th).1 ≤ x ∧ x < (Settings.origin tw th).1 + Settings.panelW

theorem itemAt_iff {x y tw th item : Nat} :
    Settings.itemAt x y tw th = some item ↔ ∃ entry ∈ Settings.itemY.zipIdx, OnRow tw th entry.1 x y ∧ entry.2 = item := by
  have rowOfEntry : ∀ entry ∈ Settings.itemY.zipIdx, entry.1 < Settings.panelH := by decide
  constructor
  · intro hit
    by_cases inside : ((tw - Settings.panelW) / 2 ≤ x ∧ x < (tw - Settings.panelW) / 2 + Settings.panelW) ∧
        (th - Settings.panelH) / 2 ≤ y ∧ y < (th - Settings.panelH) / 2 + Settings.panelH
    · obtain ⟨dy, row⟩ : ∃ dy, y = (th - Settings.panelH) / 2 + dy := Nat.exists_eq_add_of_le inside.2.1
      rw [itemAt_of_inside inside.1.1 inside.1.2 row (by omega)] at hit
      obtain ⟨bound, same, _⟩ := List.findIdx?_eq_some_iff_getElem.mp hit
      have listed : (Settings.itemY[item], item) ∈ Settings.itemY.zipIdx :=
        List.mem_zipIdx_iff_getElem?.mpr (List.getElem?_eq_getElem bound)
      exact ⟨_, listed, ⟨of_decide_eq_true same ▸ row, inside.1⟩, rfl⟩
    · rw [itemAt_outside inside] at hit
      cases hit
  · rintro ⟨entry, listed, ⟨row, left, right⟩, rfl⟩
    rw [itemAt_of_inside left right row (rowOfEntry entry listed), item_of_row entry listed]

namespace Scene
variable {R : Type} [RatioOps R] {s : Scene R}

/-! ## Controls -/

/-- A control that takes clicks on the cell, whatever is tested first. -/
def Targets (s : Scene R) (x y : Nat) (action : ClickAction) : Prop :=
  if s.settings.visible then
    ∃ entry ∈ Settings.itemY.zipIdx, OnRow s.tw s.th entry.1 x y ∧ action = .activate entry.2
  else
    (∃ pid rect button, (s.clickLayout.paneRects s.inner)[pid]? = some rect ∧ titleButton x y pid rect = some button ∧
      action = .title button) ∨
      ∃ index, s.HitsTab x y index ∧ action = .goToTab index

theorem clicked_iff {shift : Bool} {x y : Nat} {action : ClickAction} :
    s.clicked shift x y = some action ↔ s.Targets x y action := by
  unfold Targets
  split
  · rename_i opened
    rw [clicked_open opened, Option.map_eq_some_iff]
    constructor
    · rintro ⟨item, hit, rfl⟩
      obtain ⟨entry, listed, row, rfl⟩ := itemAt_iff.mp hit
      exact ⟨entry, listed, row, rfl⟩
    · rintro ⟨entry, listed, row, rfl⟩
      exact ⟨entry.2, itemAt_iff.mpr ⟨entry, listed, row, rfl⟩, rfl⟩
  · rename_i closed
    rw [clicked_closed (Bool.not_eq_true _ ▸ closed)]
    refine or_congr_left ?_
    constructor
    · rintro ⟨button, hit, rfl⟩
      obtain ⟨pid, rect, found, here⟩ := titleHit_iff.mp hit
      exact ⟨pid, rect, button, found, here, rfl⟩
    · rintro ⟨pid, rect, button, found, here, rfl⟩
      exact ⟨button, titleHit_iff.mpr ⟨pid, rect, found, here⟩, rfl⟩

theorem targets_unique {x y : Nat} {one other : ClickAction} (first : s.Targets x y one) (second : s.Targets x y other) :
    one = other :=
  Option.some.inj ((clicked_iff.mpr first).symm.trans (@clicked_iff _ _ s false x y other |>.mpr second))

/-! ## The cells to look at -/

/-- The last cell of a title row is its close button. -/
theorem titleButton_corner {pid : Nat} {rect : Rect} (wide : 4 ≤ rect.w) (tall : 0 < rect.h) :
    titleButton (rect.x + rect.w - 1) (rect.y - 1) pid rect = some (.close pid) := by
  unfold titleButton
  rw [if_neg (by simp; omega)]
  by_cases full : rect.w ≥ 13
  · rw [if_pos full]
    dsimp only
    rw [if_pos (by simp; omega)]
  · rw [if_neg full, if_pos wide]
    dsimp only
    rw [if_pos (by simp)]

theorem pane_of_close {x y pid id : Nat} {rect : Rect} (hit : titleButton x y pid rect = some (.close id)) : pid = id := by
  unfold titleButton at hit
  dsimp only at hit
  repeat' split at hit
  all_goals cases hit
  all_goals rfl

omit [RatioOps R] in
theorem label_bounds {strWidth : String → Nat} {tw col : Nat} {tabs : List TabBar.Entry} {label : TabBar.Label}
    (member : label ∈ TabBar.labels strWidth tw col tabs) : col ≤ label.start ∧ 2 ≤ label.width ∧
      label.start + label.width + 2 ≤ tw := by
  induction tabs generalizing col with
  | nil => cases member
  | cons entry rest ih =>
      obtain ⟨index, name, active⟩ := entry
      simp only [TabBar.labels] at member
      split at member
      · cases member
      rename_i fits
      rcases List.mem_cons.mp member with rfl | later
      · refine ⟨Nat.le_refl _, ?_, Nat.le_of_not_lt fits⟩
        unfold TabBar.labelWidth
        exact Nat.le_add_left 2 _
      · have := ih later
        exact ⟨by omega, this.2⟩

omit [RatioOps R] in
/-- The first label starts in column 1. -/
theorem first_label (present : s.labels ≠ []) : ∃ label ∈ s.labels, label.start = 1 := by
  unfold labels at present ⊢
  split at present
  · rename_i bar
    rw [if_pos bar]
    cases tabs : s.tabs with
    | nil => simp [tabs, TabBar.labels] at present
    | cons entry rest =>
        obtain ⟨index, name, active⟩ := entry
        simp only [tabs, TabBar.labels] at present ⊢
        split at present
        · exact absurd rfl present
        · rename_i fits
          rw [if_neg fits]
          exact ⟨_, List.mem_cons_self, rfl⟩
  · exact absurd rfl present

omit [RatioOps R] in
theorem tabBarY_lt (tall : 0 < s.th) : tabBarY s.th s.settings.showStatusBar < s.th := by
  unfold tabBarY
  split
  · omega
  · omega

/-! ## Frames without the panel -/

/-- The panes whose title rows have buttons. -/
def Titled (s : Scene R) (entry : Nat × Nat) (rect : Rect) : Prop :=
  entry ∈ s.layout.paneIds.zipIdx ∧ s.cache.paneRects[entry.1]? = some rect ∧ 4 ≤ rect.w ∧ 0 < rect.h

/-- The buttons of every title row are drawn. -/
def TitlesDrawn (s : Scene R) : Prop :=
  match s.zoomedPane with
  | some _ => s.inner.w < 4 ∨ s.inner.h = 0
  | none => ∀ entry rect, s.Titled entry rect → s.TitleFits entry.1 entry.2 rect

/-- No label of the tab bar is left out or under a message. -/
def LabelsDrawn (s : Scene R) : Prop :=
  s.labels ≠ [] → 0 < s.th → if s.settings.showStatusBar then s.th ≠ 1 else s.covered ≤ 1

/-- No control is drawn. -/
def Bare (s : Scene R) : Prop :=
  (s.zoomedPane = none → ∀ entry rect, s.Titled entry rect → ¬s.TitleFits entry.1 entry.2 rect) ∧
    ∀ label ∈ s.labels, s.settings.showStatusBar.toNat < s.th →
      s.settings.showStatusBar = false ∧ label.start + label.width ≤ s.covered

/-- Titles cut to their room fit, as long as strings are no wider than their characters. -/
theorem titlesDrawn_of_summed (whole : s.zoomedPane = none)
    (summed : ∀ text, s.tables.strWidth text ≤ (text.map fun c => (s.tables.charWidth c).getD 0).sum) : s.TitlesDrawn := by
  unfold TitlesDrawn
  rw [whole]
  intro entry rect titled
  exact fits_of_summed summed titled.2.2.1

theorem titled_of_button {x y : Nat} {entry : Nat × Nat} {rect : Rect} {button : TitleAction}
    (member : entry ∈ s.layout.paneIds.zipIdx) (found : s.cache.paneRects[entry.1]? = some rect)
    (hit : titleButton x y entry.1 rect = some button) : s.Titled entry rect :=
  ⟨member, found, (titleButton_columns hit).2.2.2, titleButton_tall hit⟩

omit [RatioOps R] in
theorem clickLayout_of_whole (whole : s.zoomedPane = none) : s.clickLayout = s.layout := by simp [clickLayout, whole]

/-- A button that is drawn can be clicked; with every title drawn, one that can be clicked is drawn. -/
theorem shows_of_titles (drawn : s.TitlesDrawn) {x y : Nat} {button : TitleAction} :
    (s.zoomedPane = none ∧ s.ShowsButton x y button) ↔
      ∃ pid rect, (s.clickLayout.paneRects s.inner)[pid]? = some rect ∧ titleButton x y pid rect = some button := by
  cases zoomed : s.zoomedPane with
  | some id =>
      refine iff_of_false (by simp) ?_
      rintro ⟨pid, rect, found, hit⟩
      have single : s.clickLayout = Layout.singleton id s.layout.nextId := by simp [clickLayout, zoomed]
      have listed := (Layout.paneRects_getElem s.clickLayout_distinct).mp found
      rw [single] at listed
      obtain ⟨_, rfl⟩ := Prod.mk.inj (List.mem_singleton.mp listed)
      have := titleButton_columns hit
      simp only [TitlesDrawn, zoomed] at drawn
      simp only [Rect.clipped] at this
      omega
  | none =>
      simp only [TitlesDrawn, zoomed] at drawn
      rw [clickLayout_of_whole zoomed]
      constructor
      · rintro ⟨_, entry, _, rect, found, _, hit⟩
        exact ⟨entry.1, rect, found, hit⟩
      · rintro ⟨pid, rect, found, hit⟩
        have listed : pid ∈ s.layout.paneIds := Layout.mem_paneRects.mp (IdMap.mem_of_getElem? found)
        obtain ⟨idx, bound, rfl⟩ := List.getElem_of_mem listed
        have member : (s.layout.paneIds[idx], idx) ∈ s.layout.paneIds.zipIdx :=
          List.mem_zipIdx_iff_getElem?.mpr (List.getElem?_eq_getElem bound)
        exact ⟨rfl, _, member, rect, found, drawn _ rect (titled_of_button member found hit), hit⟩

omit [RatioOps R] in
theorem showsTab_of_labels (drawn : s.LabelsDrawn) {x y index : Nat} (inRows : y < s.th) :
    s.ShowsTab x y index ↔ s.HitsTab x y index := by
  unfold ShowsTab HitsTab
  refine and_congr_right fun row => ⟨fun shows => shows.2.2, ?_⟩
  rintro ⟨label, member, covers, same⟩
  have visible := drawn (List.ne_nil_of_mem member) (by omega)
  have left := (label_bounds (mem_labels.mp member).2).1
  have first := covers.1
  cases status : s.settings.showStatusBar with
  | true =>
      rw [status, if_pos rfl] at visible
      exact ⟨by simp only [Bool.toNat_true]; omega, by rintro ⟨⟩, label, member, covers, same⟩
  | false =>
      rw [status, if_neg (by simp)] at visible
      exact ⟨by simp only [Bool.toNat_false]; omega, fun _ => by omega, label, member, covers, same⟩

/-! ## Agreement -/

/-- A click acts exactly where the frame shows the control for it. -/
def ClickableVisible (s : Scene R) : Prop :=
  ∀ shift x y action, x < s.tw → y < s.th → (s.clicked shift x y = some action ↔ s.shown x y = some action)

omit [RatioOps R] in
theorem panel_closed (closed : s.settings.visible = false) : s.panel = [] := by simp [panel, closed]

omit [RatioOps R] in
theorem panel_hidden (hidden : ¬s.PanelFits) : s.panel = [] := by
  unfold panel
  split
  · unfold renderOverlay
    refine if_pos ?_
    unfold PanelFits at hidden
    simp only [Bool.or_eq_true, decide_eq_true_eq]
    omega
  · rfl

/-- Over an open panel that fits, only the clipboard prompt, which misses it. -/
theorem shown_panel (opened : s.settings.visible = true) (fits : s.PanelFits) {x y : Nat} (inColumns : x < s.tw)
    (inRows : y < s.th) : s.shown x y = (Settings.itemAt x y s.tw s.th).map .activate := by
  obtain ⟨element, seen, acts⟩ := shown_overlay fits.1 fits.2 x y
  have layers : s.shown x y = ((topmost s.confirm (x, y)).or (some element)).bind Element.action := by
    rw [shown, frame, topmost_append, topmost_append, panel, if_pos opened, seen, Option.some_or]
  rw [layers]
  cases prompt : topmost s.confirm (x, y) with
  | none => exact acts
  | some other =>
      have messages := @topmost_messages R s x y inColumns inRows
      rw [prompt, Option.some_or] at messages
      split at messages
      · rename_i bottom
        cases messages
        have tall := fits.2
        have outside : Settings.itemAt x y s.tw s.th = none := by
          refine itemAt_outside fun inside => ?_
          omega
        rw [outside]
        rfl
      · cases messages

theorem clickable_panel (opened : s.settings.visible = true) (fits : s.PanelFits) : s.ClickableVisible := by
  intro shift x y action inColumns inRows
  rw [clicked_open opened, shown_panel opened fits inColumns inRows]

theorem shown_titles (hidden : s.panel = []) {x y : Nat} (inColumns : x < s.tw) (inRows : y < s.th) {button : TitleAction} :
    s.shown x y = some (.title button) ↔ s.zoomedPane = none ∧ s.ShowsButton x y button := by
  rw [shown_iff hidden inColumns inRows]
  constructor
  · rintro (⟨whole, other, shows, same⟩ | ⟨index, _, same⟩)
    · cases same
      exact ⟨whole, shows⟩
    · cases same
  · rintro ⟨whole, shows⟩
    exact .inl ⟨whole, button, shows, rfl⟩

theorem shown_tabs (hidden : s.panel = []) {x y : Nat} (inColumns : x < s.tw) (inRows : y < s.th) {index : Nat} :
    s.shown x y = some (.goToTab index) ↔ s.ShowsTab x y index := by
  rw [shown_iff hidden inColumns inRows]
  constructor
  · rintro (⟨_, other, _, same⟩ | ⟨other, shows, same⟩)
    · cases same
    · cases same
      exact shows
  · intro shows
    exact .inr ⟨index, shows, rfl⟩

theorem shown_item (hidden : s.panel = []) {x y : Nat} (inColumns : x < s.tw) (inRows : y < s.th) {item : Nat} :
    s.shown x y ≠ some (.activate item) := by
  intro seen
  rcases (shown_iff hidden inColumns inRows).mp seen with ⟨_, other, _, same⟩ | ⟨other, _, same⟩
  · cases same
  · cases same

theorem titles_of_clickable (closed : s.settings.visible = false) (clickable : s.ClickableVisible) : s.TitlesDrawn := by
  have corner {pid : Nat} {rect : Rect} (found : (s.clickLayout.paneRects s.inner)[pid]? = some rect) (wide : 4 ≤ rect.w)
      (tall : 0 < rect.h) : s.zoomedPane = none ∧ s.ShowsButton (rect.x + rect.w - 1) (rect.y - 1) (.close pid) := by
    have hit : titleButton (rect.x + rect.w - 1) (rect.y - 1) pid rect = some (.close pid) := titleButton_corner wide tall
    obtain ⟨high, column, _, _⟩ := titleButton_high found hit
    have acts : s.clicked false (rect.x + rect.w - 1) (rect.y - 1) = some (.title (.close pid)) :=
      (clicked_closed closed).mpr (.inl ⟨_, titleHit_iff.mpr ⟨pid, rect, found, hit⟩, rfl⟩)
    exact (shown_titles (panel_closed closed) column (by omega)).mp ((clickable false _ _ _ column (by omega)).mp acts)
  unfold TitlesDrawn
  split
  · rename_i id zoomed
    by_contra room
    have single : s.clickLayout = Layout.singleton id s.layout.nextId := by simp [clickLayout, zoomed]
    have found : (s.clickLayout.paneRects s.inner)[id]? = some s.inner.clipped := by
      rw [Layout.paneRects_getElem s.clickLayout_distinct, single]
      exact List.mem_singleton.mpr rfl
    have right := s.inner_right (by omega)
    have low := s.inner_bounds (by omega)
    have narrow := s.narrow
    have short := s.low
    have whole := (corner found (by simp only [Rect.clipped]; omega) (by simp only [Rect.clipped]; omega)).1
    rw [zoomed] at whole
    cases whole
  · rename_i zoomed
    rintro entry rect ⟨member, found, wide, tall⟩
    obtain ⟨_, other, otherMember, otherRect, otherFound, fits, hit⟩ :=
      corner (by rw [clickLayout_of_whole zoomed]; exact found) wide tall
    cases zipIdx_unique s.formed.distinct otherMember member (pane_of_close hit)
    cases Option.some.inj (otherFound.symm.trans found)
    exact fits

theorem labels_of_clickable (closed : s.settings.visible = false) (clickable : s.ClickableVisible) : s.LabelsDrawn := by
  intro present tall
  obtain ⟨label, member, first⟩ := first_label present
  obtain ⟨_, width, edge⟩ := label_bounds (mem_labels.mp member).2
  have covers : label.Covers 1 := ⟨Nat.le_of_eq first, by omega⟩
  have hits : s.HitsTab 1 (tabBarY s.th s.settings.showStatusBar) label.index := ⟨rfl, label, member, covers, rfl⟩
  have acts : s.clicked false 1 (tabBarY s.th s.settings.showStatusBar) = some (.goToTab label.index) :=
    (clicked_closed closed).mpr (.inr ⟨_, hits, rfl⟩)
  have inRows := tabBarY_lt tall
  obtain ⟨_, room, free, _⟩ := (shown_tabs (panel_closed closed) (by omega) inRows).mp
    ((clickable false _ _ _ (by omega) inRows).mp acts)
  cases status : s.settings.showStatusBar with
  | true =>
      rw [status] at room
      rw [if_pos rfl]
      simp only [Bool.toNat_true] at room
      omega
  | false =>
      rw [if_neg (by simp)]
      exact free status

theorem clickable_closed (closed : s.settings.visible = false) : s.ClickableVisible ↔ s.TitlesDrawn ∧ s.LabelsDrawn := by
  constructor
  · intro clickable
    exact ⟨titles_of_clickable closed clickable, labels_of_clickable closed clickable⟩
  · rintro ⟨titles, labels⟩ shift x y action inColumns inRows
    rw [clicked_closed closed, shown_iff (panel_closed closed) inColumns inRows]
    refine or_congr ?_ ?_
    · constructor
      · rintro ⟨button, hit, rfl⟩
        obtain ⟨whole, shows⟩ := (shows_of_titles titles).mpr (titleHit_iff.mp hit)
        exact ⟨whole, button, shows, rfl⟩
      · rintro ⟨whole, button, shows, rfl⟩
        exact ⟨button, titleHit_iff.mpr ((shows_of_titles titles).mp ⟨whole, shows⟩), rfl⟩
    · exact exists_congr fun index => and_congr_left' (showsTab_of_labels labels inRows).symm

/-- An open panel that is not drawn takes its clicks all the same. -/
theorem clickable_hidden (opened : s.settings.visible = true) (hidden : ¬s.PanelFits) :
    s.ClickableVisible ↔ s.tw = 0 ∨ s.th ≤ 5 ∧ s.Bare := by
  have blank := panel_hidden hidden
  constructor
  · intro clickable
    by_cases columns : s.tw = 0
    · exact .inl columns
    have short : s.th ≤ 5 := by
      by_contra tall
      have inColumns : (Settings.origin s.tw s.th).1 < s.tw := by
        simp only [Settings.origin, Settings.panelW]
        omega
      have inRows : (Settings.origin s.tw s.th).2 + 5 < s.th := by
        simp only [Settings.origin, Settings.panelH]
        omega
      have acts : s.clicked false (Settings.origin s.tw s.th).1 ((Settings.origin s.tw s.th).2 + 5) =
          some (.activate 0) := by
        rw [clicked_open opened, itemAt_iff.mpr ⟨(5, 0), by decide, ⟨rfl, Nat.le_refl _, ?_⟩, rfl⟩]
        · rfl
        · exact Nat.lt_add_of_pos_right (by decide)
      exact shown_item blank inColumns inRows ((clickable false _ _ _ inColumns inRows).mp acts)
    refine .inr ⟨short, ?_, ?_⟩
    · rintro whole entry rect ⟨member, found, wide, tall⟩ fits
      have hit : titleButton (rect.x + rect.w - 1) (rect.y - 1) entry.1 rect = some (.close entry.1) :=
        titleButton_corner wide tall
      obtain ⟨high, column, _, _⟩ := titleButton_high (by rw [clickLayout_of_whole whole]; exact found) hit
      have seen := (shown_titles blank column (by omega)).mpr ⟨whole, entry, member, rect, found, fits, hit⟩
      have acts := (clickable false _ _ _ column (by omega)).mpr seen
      rw [clicked_open opened] at acts
      obtain ⟨_, _, same⟩ := Option.map_eq_some_iff.mp acts
      cases same
    · intro label member room
      obtain ⟨_, width, edge⟩ := label_bounds (mem_labels.mp member).2
      by_contra visible
      have inRows := tabBarY_lt (s := s) (by omega)
      have shows : s.ShowsTab (label.start + label.width - 1) (tabBarY s.th s.settings.showStatusBar) label.index := by
        refine ⟨rfl, room, fun status => ?_, label, member, ⟨by omega, by omega⟩, rfl⟩
        have past : ¬label.start + label.width ≤ s.covered := fun under => visible ⟨status, under⟩
        omega
      have acts := (clickable false _ _ _ (by omega) inRows).mpr ((shown_tabs blank (by omega) inRows).mpr shows)
      rw [clicked_open opened] at acts
      obtain ⟨_, _, same⟩ := Option.map_eq_some_iff.mp acts
      cases same
  · rintro (columns | ⟨short, titles, labels⟩) shift x y action inColumns inRows
    · omega
    · refine iff_of_false ?_ ?_
      · rw [clicked_open opened]
        intro acts
        obtain ⟨item, hit, _⟩ := Option.map_eq_some_iff.mp acts
        obtain ⟨entry, listed, row, _⟩ := itemAt_iff.mp hit
        have low : ∀ entry ∈ Settings.itemY.zipIdx, 5 ≤ entry.1 := by decide
        have := low entry listed
        have := row.1
        omega
      · intro seen
        rcases (shown_iff blank inColumns inRows).mp seen with ⟨whole, button, ⟨entry, member, rect, found, fits, hit⟩, _⟩ |
          ⟨index, ⟨row, room, free, label, member, covers, _⟩, _⟩
        · exact titles whole entry rect (titled_of_button member found hit) fits
        · obtain ⟨status, under⟩ := labels label member room
          have := free status
          have := covers.2
          omega

/-- The panel is drawn if it is open, and else the buttons of every title row and every label. -/
def Aligned (s : Scene R) : Prop :=
  if s.settings.visible then s.PanelFits ∨ s.tw = 0 ∨ s.th ≤ 5 ∧ s.Bare else s.TitlesDrawn ∧ s.LabelsDrawn

/-- At most one control takes the click on a cell; the frame shows it there exactly as
long as it draws all that takes clicks. -/
theorem clickable_visible (s : Scene R) :
    (∀ shift x y action, s.clicked shift x y = some action ↔ s.Targets x y action) ∧
    (∀ x y one other, s.Targets x y one → s.Targets x y other → one = other) ∧
    (s.ClickableVisible ↔ s.Aligned) := by
  refine ⟨fun _ _ _ _ => clicked_iff, fun _ _ _ _ => targets_unique, ?_⟩
  unfold Aligned
  cases opened : s.settings.visible with
  | false => exact clickable_closed opened
  | true =>
      rw [if_pos rfl]
      by_cases fits : s.PanelFits
      · exact iff_of_true (clickable_panel opened fits) (.inl fits)
      · rw [clickable_hidden opened fits]
        exact (or_iff_right fits).symm

/-- A zoomed pane hides its buttons but not their clicks. -/
def zoomedShell : Scene ℚ where
  tables := asciiTables
  layout := Layout.singleton 0 1
  panes := (∅ : IdMap PaneView).insert 0 { alive := true }
  zoomedPane := some 0
  settings := { borderStyle := .rounded }
  tabs := [(0, "1", true)]
  tw := 80
  th := 24
  flashMessage := none
  osc52Confirm := none
  dragging := false
  selecting := false
  formed := Layout.singleton_wellFormed 0 1
  narrow := by decide
  low := by decide
  counted := rfl

theorem zoomed_close_hidden :
    zoomedShell.clicked false 78 0 = some (.title (.close 0)) ∧ zoomedShell.shown 78 0 = none ∧
    ¬zoomedShell.ClickableVisible := by
  have acts : zoomedShell.clicked false 78 0 = some (.title (.close 0)) := by decide +kernel
  have hidden : zoomedShell.shown 78 0 = none := by decide +kernel
  refine ⟨acts, hidden, fun clickable => ?_⟩
  have seen := (clickable false 78 0 _ (by decide) (by decide)).mp acts
  rw [hidden] at seen
  cases seen

end Scene

end Ezpn.Chrome
