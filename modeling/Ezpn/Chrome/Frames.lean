import Ezpn.Chrome.TitleRows

/-!
# What a frame shows

The layers of a frame over one cell: messages and the panel above the bars, the
bars below the panes, and in each title row the buttons of its own pane.
-/

set_option autoImplicit false

namespace Ezpn.Chrome

open Layers

namespace Scene
variable {R : Type} [RatioOps R] {s : Scene R}

/-! ## Panes -/

def TitleFits (s : Scene R) (pid idx : Nat) (rect : Rect) : Prop :=
  Fits s.tables (s.view pid) s.borderless idx rect.w

/-- Some pane's title is drawn with the button in the cell. -/
def ShowsButton (s : Scene R) (x y : Nat) (button : TitleAction) : Prop :=
  ∃ entry ∈ s.layout.paneIds.zipIdx, ∃ rect, s.cache.paneRects[entry.1]? = some rect ∧ s.TitleFits entry.1 entry.2 rect ∧
    titleButton x y entry.1 rect = some button

theorem pane_inside {pid : Nat} {rect : Rect} (found : s.cache.paneRects[pid]? = some rect) :
    rect.Inside s.inner.clipped :=
  Layout.paneRects_inside s.formed.distinct s.inner_x s.inner_y found

theorem pane_low {pid : Nat} {rect : Rect} (found : s.cache.paneRects[pid]? = some rect) (tall : 0 < rect.h) :
    1 ≤ rect.y := by
  have inside := pane_inside found
  have above := inside.above
  have below := inside.below
  simp only [Rect.clipped] at above below
  have := s.inner_bounds (by omega)
  omega

theorem paneLayers_claims {pid idx x y : Nat} (drawn : topmost (s.paneLayers pid idx) (x, y) ≠ none) :
    ∃ rect, s.cache.paneRects[pid]? = some rect ∧ rect.Claims x y := by
  obtain ⟨element, seen⟩ := Option.ne_none_iff_exists'.mp drawn
  obtain ⟨piece, member, covers, _⟩ := exists_of_topmost seen
  unfold paneLayers at member
  cases found : s.cache.paneRects[pid]? with
  | none =>
      rw [found] at member
      cases member
  | some rect =>
      rw [found] at member
      dsimp only at member
      split at member
      · cases member
      rename_i extent
      simp only [Bool.or_eq_true, decide_eq_true_eq, not_or] at extent
      have low := pane_low found (Nat.pos_of_ne_zero extent.2)
      refine ⟨rect, rfl, ?_⟩
      rcases List.mem_append.mp member with title | content
      · have row := drawPaneTitle_row _ _ _ title covers
        unfold Rect.Claims
        omega
      · rw [List.mem_singleton.mp content] at covers
        have cell := Rect.contains_iff.mp covers
        unfold Rect.Claims
        omega

theorem shown_paneLayers {pid idx x y : Nat} {rect : Rect} (found : s.cache.paneRects[pid]? = some rect) {action : ClickAction} :
    (topmost (s.paneLayers pid idx) (x, y)).bind Element.action = some action ↔
      s.TitleFits pid idx rect ∧ ∃ button, titleButton x y pid rect = some button ∧ action = .title button := by
  unfold paneLayers
  rw [found]
  dsimp only
  split
  · rename_i extent
    have outside : titleButton x y pid rect = none := by
      simp only [titleButton, Bool.or_assoc, extent, Bool.or_true, if_true]
    simp [outside]
  rename_i extent
  simp only [Bool.or_eq_true, decide_eq_true_eq, not_or] at extent
  have tall := Nat.pos_of_ne_zero extent.2
  rw [topmost_append, topmost_cons, topmost_nil, Option.none_or]
  by_cases content : rect.contains x y = true
  · have row : y ≠ rect.y - 1 := by
      have cell := Rect.contains_iff.mp content
      have low := pane_low found tall
      omega
    have outside : titleButton x y pid rect = none := by simp [titleButton, row]
    simp [area, content, outside, Element.action]
  · have title := shown_drawPaneTitle s.tables (s.view pid) s.borderless tall x y pid idx
    simp only [area, content, Bool.false_eq_true, if_false, Option.none_or, title]
    unfold TitleFits
    split
    · rename_i fits
      cases titleButton x y pid rect with
      | none => simp
      | some button => simp [fits, eq_comm]
    · rename_i tooWide
      simp [tooWide]

theorem zipIdx_unique {ids : List Nat} (distinct : ids.Nodup) {one other : Nat × Nat} (member : one ∈ ids.zipIdx)
    (otherMember : other ∈ ids.zipIdx) (same : one.1 = other.1) : one = other := by
  have here := List.mem_zipIdx_iff_getElem?.mp member
  have there := List.mem_zipIdx_iff_getElem?.mp otherMember
  obtain ⟨inRange, _⟩ := List.getElem?_eq_some_iff.mp here
  exact Prod.ext same ((List.getElem?_inj inRange distinct).mp (by rw [here, there, same]))

/-- At most one pane draws on a cell. -/
theorem topmost_paneLayers {x y : Nat} {element : Element} :
    topmost (s.cache.paneOrder.zipIdx.flatMap fun (pid, idx) => s.paneLayers pid idx) (x, y) = some element ↔
      ∃ entry ∈ s.cache.paneOrder.zipIdx, topmost (s.paneLayers entry.1 entry.2) (x, y) = some element := by
  refine topmost_flatMap_eq_some_iff ?_ element
  intro one member other otherMember drawn otherDrawn
  obtain ⟨rect, found, claims⟩ := paneLayers_claims drawn
  obtain ⟨rect', found', claims'⟩ := paneLayers_claims otherDrawn
  exact zipIdx_unique s.formed.distinct member otherMember
    (Layout.paneRects_claims_unique s.formed.distinct s.inner_x s.inner_y found claims found' claims').1

theorem shown_renderPanes {x y : Nat} {action : ClickAction} :
    (topmost s.renderPanes (x, y)).bind Element.action = some action ↔
      ∃ button, s.ShowsButton x y button ∧ action = .title button := by
  unfold renderPanes
  by_cases empty : s.inner.w = 0 ∨ s.inner.h = 0
  · have blank (layers : List Piece) : (topmost (if s.tw = 0 || s.th = 0 then []
        else if s.inner.w = 0 || s.inner.h = 0 then [clear] else layers) (x, y)).bind Element.action = none := by
      split
      · rfl
      · rw [if_pos (by simpa using empty)]
        rfl
    rw [blank]
    refine iff_of_false (by simp) ?_
    rintro ⟨button, ⟨entry, _, rect, found, _, hit⟩, _⟩
    have inside := pane_inside found
    have right := inside.right
    have below := inside.below
    have left := inside.left
    have above := inside.above
    simp only [Rect.clipped] at right below left above
    have extent : rect.w = 0 ∨ rect.h = 0 := by omega
    rcases extent with narrow | flat
    · simp [titleButton, narrow] at hit
    · simp [titleButton, flat] at hit
  · have wide := s.inner_right (by omega)
    have tall := s.inner_bounds (by omega)
    rw [if_neg (by simp; omega), if_neg (by simpa using empty), topmost_cons,
      or_bind_of_none (by simp [clear, Element.action]), Option.bind_eq_some_iff]
    constructor
    · rintro ⟨element, seen, acts⟩
      obtain ⟨entry, member, seen⟩ := topmost_paneLayers.mp seen
      obtain ⟨rect, found, _⟩ := paneLayers_claims (by rw [seen]; simp)
      obtain ⟨fits, button, hit, rfl⟩ := (shown_paneLayers found).mp (by rw [seen]; exact acts)
      exact ⟨button, ⟨entry, member, rect, found, fits, hit⟩, rfl⟩
    · rintro ⟨button, ⟨entry, member, rect, found, fits, hit⟩, rfl⟩
      obtain ⟨element, seen, acts⟩ := Option.bind_eq_some_iff.mp ((shown_paneLayers found).mpr ⟨fits, button, hit, rfl⟩)
      exact ⟨element, topmost_paneLayers.mpr ⟨entry, member, seen⟩, acts⟩

omit [RatioOps R] in
/-- Nothing of a zoomed pane's screen reacts. -/
theorem shown_renderZoomedPane (s : Scene R) (pid x y : Nat) :
    (topmost (s.renderZoomedPane pid) (x, y)).bind Element.action = none := by
  unfold renderZoomedPane
  split
  · rfl
  · rfl

/-! ## Bars -/

/-- The labels that fit into the tab bar, if there is one. -/
def labels (s : Scene R) : List TabBar.Label :=
  if s.tabs.length > 1 && s.settings.showTabBar then TabBar.labels s.strWidth s.tw 1 s.tabs else []

/-- Columns of the bottom row under a flash message or the clipboard prompt. -/
def covered (s : Scene R) : Nat :=
  max (if s.flashMessage.isSome then s.tw else 0)
    (match s.osc52Confirm with
      | some (paneId, byteCount) => s.tables.strWidth (confirmText s.tables paneId byteCount s.tw)
      | none => 0)

omit [RatioOps R] in
theorem topmost_strip {cx cy x y width : Nat} {element : Element} :
    topmost [strip x y width element] (cx, cy) = if cy = y ∧ x ≤ cx ∧ cx < x + width then some element else none := by
  simp only [topmost_cons, topmost_nil, Option.none_or, strip_covers]
  rfl

omit [RatioOps R] in
theorem topmost_messages {x y : Nat} (inColumns : x < s.tw) (inRows : y < s.th) :
    (topmost s.confirm (x, y)).or (topmost s.flash (x, y)) =
      if y + 1 = s.th ∧ x < s.covered then some .text else none := by
  have present : ¬(s.tw = 0) ∧ ¬(s.th = 0) := by omega
  have bottom : y = s.th - 1 ↔ y + 1 = s.th := by omega
  have flash : topmost s.flash (x, y) = if s.flashMessage.isSome = true ∧ y + 1 = s.th then some .text else none := by
    unfold Scene.flash
    by_cases message : s.flashMessage.isSome = true
    · rw [if_pos (by simp [message, present]), topmost_strip]
      simp [message, bottom, inColumns]
    · simp [message]
  rw [flash]
  unfold confirm covered
  rcases s.osc52Confirm with _ | ⟨paneId, byteCount⟩
  · by_cases message : s.flashMessage.isSome = true
    · simp [message, inColumns]
    · simp [message]
  · dsimp only
    rw [if_neg (by simp [present]), topmost_strip]
    by_cases row : y + 1 = s.th
    · by_cases message : s.flashMessage.isSome = true
      · have past : x < max s.tw (s.tables.strWidth (confirmText s.tables paneId byteCount s.tw)) := by omega
        simp only [message, row, past, and_self, if_true]
        split
        · rfl
        · rfl
      · simp [message, row, bottom]
    · simp [row, bottom]

omit [RatioOps R] in
theorem topmost_statusBar {x y : Nat} (inColumns : x < s.tw) (inRows : y < s.th) :
    topmost s.statusBar (x, y) = if s.settings.showStatusBar = true ∧ y + 1 = s.th then some .text else none := by
  have present : ¬(s.tw = 0) ∧ ¬(s.th = 0) := by omega
  have bottom : y = s.th - 1 ↔ y + 1 = s.th := by omega
  unfold statusBar
  by_cases shown : s.settings.showStatusBar = true
  · rw [if_pos (by simp [shown, present]), topmost_strip]
    simp [shown, bottom, inColumns]
  · simp [shown]

omit [RatioOps R] in
theorem topmost_labels (strWidth : String → Nat) (tw x y row col : Nat) (tabs : List TabBar.Entry) (here : y = row) :
    topmost ((TabBar.labels strWidth tw col tabs).map fun label => strip label.start row label.width (.tabLabel label.index))
      (x, y) = (TabBar.hitFrom strWidth x tw col tabs).map .tabLabel := by
  induction tabs generalizing col with
  | nil => rfl
  | cons entry rest ih =>
      obtain ⟨index, name, active⟩ := entry
      simp only [TabBar.labels, TabBar.hitFrom]
      split
      · rfl
      · rw [List.map_cons, topmost_cons, ih]
        by_cases under : x ≥ col ∧ x < col + TabBar.labelWidth strWidth index name
        · -- later labels start behind this one
          have later : TabBar.hitFrom strWidth x tw (col + TabBar.labelWidth strWidth index name + 2) rest = none := by
            refine Option.eq_none_iff_forall_ne_some.mpr fun other hit => ?_
            obtain ⟨label, member, ⟨left, _⟩, _⟩ := TabBar.hitFrom_iff.mp hit
            have := TabBar.start_of_mem member
            omega
          rw [later, if_pos under, if_pos (strip_covers.mpr ⟨here, under⟩)]
          rfl
        · rw [if_neg under, if_neg fun covers => under (strip_covers.mp covers).2, Option.or_none]

omit [RatioOps R] in
/-- The bar is drawn where it is looked for, once the terminal has the row. -/
theorem topmost_tabBar {x y : Nat} (inColumns : x < s.tw) :
    topmost s.tabBar (x, y) =
      if s.onTabBar y = true ∧ s.settings.showStatusBar.toNat < s.th then
        some (((TabBar.hitFrom s.strWidth x s.tw 1 s.tabs).map .tabLabel).getD .text)
      else none := by
  unfold tabBar onTabBar
  by_cases bar : (decide (s.tabs.length > 1) && s.settings.showTabBar) = true
  · have bar' : s.tabs.length > 1 ∧ s.settings.showTabBar = true := by simpa using bar
    have several : ¬s.tabs.length ≤ 1 := Nat.not_le.mpr bar'.1
    have columns : ¬s.tw = 0 := by omega
    rw [if_pos bar, drawTabBar]
    by_cases room : s.settings.showStatusBar.toNat < s.th
    · rw [if_neg (by simp [several, columns, room])]
      by_cases row : y = tabBarY s.th s.settings.showStatusBar
      · rw [topmost_cons, topmost_labels _ _ _ _ _ _ _ row, if_pos (strip_covers.mpr ⟨row, Nat.zero_le x, by omega⟩),
          if_pos ⟨by simp [bar', row], room⟩]
        cases TabBar.hitFrom s.strWidth x s.tw 1 s.tabs with
        | none => rfl
        | some index => rfl
      · rw [if_neg (by simp [row])]
        refine topmost_eq_none fun piece member => ?_
        rcases List.mem_cons.mp member with rfl | label
        · simp [strip, row]
        · obtain ⟨label, _, rfl⟩ := List.mem_map.mp label
          simp [strip, row]
    · rw [if_pos (by simp [Nat.not_lt.mp room]), if_neg fun drawn => room drawn.2]
      rfl
  · rw [if_neg bar, if_neg]
    · rfl
    · intro drawn
      refine bar ?_
      have := drawn.1
      simp only [Bool.and_eq_true] at this ⊢
      exact ⟨this.1.2, this.1.1⟩

/-! ## The whole frame -/

/-- Some label is drawn over the cell and not hidden by a message. -/
def ShowsTab (s : Scene R) (x y index : Nat) : Prop :=
  y = tabBarY s.th s.settings.showStatusBar ∧ s.settings.showStatusBar.toNat < s.th ∧
    (s.settings.showStatusBar = false → s.covered ≤ x) ∧ ∃ label ∈ s.labels, label.Covers x ∧ label.index = index

/-- Cells of buttons lie above the bars. -/
theorem titleButton_high {pid x y : Nat} {rect : Rect} {button : TitleAction}
    (found : (s.clickLayout.paneRects s.inner)[pid]? = some rect) (hit : titleButton x y pid rect = some button) :
    y + 2 + s.barRows ≤ s.th ∧ x < s.tw ∧ y + 1 = rect.y ∧ rect.Claims x y := by
  have inside := Layout.paneRects_inside s.clickLayout_distinct s.inner_x s.inner_y found
  have left := inside.left
  have right := inside.right
  have above := inside.above
  have below := inside.below
  simp only [Rect.clipped] at left right above below
  have tall := titleButton_tall hit
  obtain ⟨top, bars⟩ := s.inner_bounds (by omega)
  obtain ⟨claims, row, wide⟩ := titleButton_claims (by omega) hit
  have columns := claims.1
  have edge := s.inner_right (by omega)
  exact ⟨by omega, by omega, row, claims⟩

omit [RatioOps R] in
theorem onTabBar_iff {y : Nat} :
    s.onTabBar y = true ↔ (s.settings.showTabBar = true ∧ s.tabs.length > 1) ∧ y = tabBarY s.th s.settings.showStatusBar := by
  simp [onTabBar]

omit [RatioOps R] in
theorem mem_labels {label : TabBar.Label} :
    label ∈ s.labels ↔ (s.settings.showTabBar = true ∧ s.tabs.length > 1) ∧
      label ∈ TabBar.labels s.strWidth s.tw 1 s.tabs := by
  unfold labels
  split
  · rename_i bar
    simp only [Bool.and_eq_true, decide_eq_true_eq] at bar
    simp [bar]
  · rename_i bar
    simp only [Bool.and_eq_true, decide_eq_true_eq] at bar
    refine iff_of_false (by simp) fun listed => bar ⟨listed.1.2, listed.1.1⟩

omit [RatioOps R] in
/-- The row of the tab bar, where there is one, is one of the rows below the panes. -/
theorem tabBar_below {y : Nat} (bar : s.settings.showTabBar = true ∧ s.tabs.length > 1) (high : y + 2 + s.barRows ≤ s.th) :
    y ≠ tabBarY s.th s.settings.showStatusBar := by
  have rows : s.barRows = s.settings.showStatusBar.toNat + 1 := by simp [barRows, bar]
  unfold tabBarY
  cases status : s.settings.showStatusBar with
  | true =>
      rw [status] at rows
      simp only [if_true, Bool.toNat_true] at rows ⊢
      omega
  | false =>
      simp only [Bool.false_eq_true, if_false]
      omega

theorem showsButton_high {x y : Nat} {button : TitleAction} (whole : s.zoomedPane = none) (shows : s.ShowsButton x y button) :
    y + 2 + s.barRows ≤ s.th := by
  obtain ⟨entry, _, rect, found, _, hit⟩ := shows
  have layout : s.clickLayout = s.layout := by simp [clickLayout, whole]
  exact (titleButton_high (layout ▸ found) hit).1

/-- The panes of a frame, below everything else. -/
theorem shown_body (hidden : s.panel = []) {x y : Nat} (inColumns : x < s.tw) (inRows : y < s.th) {action : ClickAction} :
    (topmost s.body (x, y)).bind Element.action = some action ↔
      s.zoomedPane = none ∧ ∃ button, s.ShowsButton x y button ∧ action = .title button := by
  unfold body
  cases zoomed : s.zoomedPane with
  | some pid =>
      dsimp only
      rw [topmost_append, or_bind_of_none (s.shown_renderZoomedPane pid x y), topmost_statusBar inColumns inRows]
      refine iff_of_false ?_ (by simp)
      split
      · simp [Element.action]
      · simp
  | none =>
      dsimp only
      rw [hidden, List.append_nil, topmost_append, topmost_statusBar inColumns inRows]
      split
      · rename_i bottom
        refine iff_of_false (by simp [Element.action]) ?_
        rintro ⟨_, button, shows, _⟩
        have := showsButton_high zoomed shows
        omega
      · rw [Option.none_or, shown_renderPanes]
        simp

/-- Without the panel, a frame shows the buttons of the titles and the labels of the tab bar. -/
theorem shown_iff (hidden : s.panel = []) {x y : Nat} (inColumns : x < s.tw) (inRows : y < s.th) {action : ClickAction} :
    s.shown x y = some action ↔
      (s.zoomedPane = none ∧ ∃ button, s.ShowsButton x y button ∧ action = .title button) ∨
        ∃ index, s.ShowsTab x y index ∧ action = .goToTab index := by
  have base := @shown_body _ _ s hidden x y inColumns inRows action
  have layers : s.shown x y = (((topmost s.confirm (x, y)).or (topmost s.flash (x, y))).or
      ((topmost s.tabBar (x, y)).or ((topmost s.statusBar (x, y)).or (topmost s.body (x, y))))).bind Element.action := by
    rw [shown, frame, topmost_append, topmost_append, topmost_append, topmost_append, topmost_append, hidden, topmost_nil,
      Option.none_or, Option.or_assoc]
  rw [layers, topmost_messages inColumns inRows, topmost_tabBar inColumns, topmost_statusBar inColumns inRows]
  constructor
  · intro seen
    split at seen
    · cases seen
    rename_i free
    rw [Option.none_or] at seen
    split at seen
    · rename_i bar
      obtain ⟨chrome, row⟩ := onTabBar_iff.mp bar.1
      cases hit : TabBar.hitFrom s.strWidth x s.tw 1 s.tabs with
      | none =>
          rw [hit] at seen
          cases seen
      | some index =>
          rw [hit] at seen
          obtain ⟨label, member, covers, same⟩ := TabBar.hitFrom_iff.mp hit
          refine .inr ⟨index, ⟨row, bar.2, fun status => ?_, label, mem_labels.mpr ⟨chrome, member⟩, covers, same⟩,
            (Option.some.inj seen).symm⟩
          simp only [tabBarY, status, Bool.false_eq_true, if_false] at row
          omega
    · rw [Option.none_or] at seen
      split at seen
      · cases seen
      · rw [Option.none_or] at seen
        exact .inl (base.mp seen)
  · rintro (⟨whole, button, shows, rfl⟩ | ⟨index, ⟨row, drawn, free, label, member, covers, same⟩, rfl⟩)
    · have high := showsButton_high whole shows
      have notBar : ¬(s.onTabBar y = true ∧ s.settings.showStatusBar.toNat < s.th) := fun bar =>
        tabBar_below (onTabBar_iff.mp bar.1).1 high (onTabBar_iff.mp bar.1).2
      rw [if_neg (by omega), if_neg notBar, if_neg (by omega), Option.none_or, Option.none_or, Option.none_or]
      exact base.mpr ⟨whole, button, shows, rfl⟩
    · obtain ⟨chrome, listed⟩ := mem_labels.mp member
      have hit : TabBar.hitFrom s.strWidth x s.tw 1 s.tabs = some index := TabBar.hitFrom_iff.mpr ⟨label, listed, covers, same⟩
      have visible : ¬(y + 1 = s.th ∧ x < s.covered) := by
        rintro ⟨bottom, under⟩
        cases status : s.settings.showStatusBar with
        | true =>
            simp only [tabBarY, status, if_true, Bool.toNat_true] at row drawn
            omega
        | false =>
            have := free status
            omega
      rw [if_neg visible, if_pos ⟨onTabBar_iff.mpr ⟨chrome, row⟩, drawn⟩, hit]
      rfl

end Scene

end Ezpn.Chrome
