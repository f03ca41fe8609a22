import Ezpn.Server.Steps

/-!
# Screen geometry

The borders and the grids of the active tab's panes follow the layout, the
terminal and the settings. A pending rebuild of the borders counts as fresh ones.
-/

set_option autoImplicit false

namespace Ezpn

/-- Every pane has a leaf in the layout. -/
def Tab.Placed {R G : Type} (tab : Tab R G) : Prop := ∀ id ∈ tab.panes, id ∈ tab.layout.paneIds

section Fitting
variable {R G : Type} [RatioOps R] [Vt100 G] [LawfulVt100 G]

theorem fitted_resizeAll {world : World} {panes : PaneMap G} {layout : Layout R} {tw th : Nat}
    {settings : Settings} (succeeds : ∀ process, world.resizeFails process = false) :
    Fitted (resizeAll world panes layout tw th settings) layout (terminalContentArea tw th settings) := by
  intro id pane rect found placed
  rw [getElem?_resizeAll] at found
  obtain ⟨old, _, rfl⟩ := Option.map_eq_some_iff.mp found
  simp only [placed]
  exact Pane.resize_fits (succeeds _) rect

omit [LawfulVt100 G] in
theorem Fitted.evolve {before after : PaneMap G} {layout : Layout R} {area : Rect}
    (fitted : Fitted before layout area) (evolve : PaneMap.Evolve Pane.SameGrid before after) :
    Fitted after layout area := by
  intro id pane rect found placed
  obtain ⟨old, foundOld, same⟩ := evolve id pane found
  exact Eq.trans same (fitted id old rect foundOld placed)

omit [LawfulVt100 G] in
theorem Fitted.insert {panes : PaneMap G} {layout : Layout R} {area rect : Rect} {id : Nat} {pane : Pane G}
    (fitted : Fitted panes layout area) (placed : (layout.paneRects area)[id]? = some rect)
    (fits : pane.FitsRect rect) : Fitted (panes.insert id pane) layout area := by
  intro other found otherRect foundPane placedOther
  rw [IdMap.getElem?_insert] at foundPane
  split at foundPane
  · rename_i here
    cases foundPane
    rw [here, placed] at placedOther
    cases placedOther
    exact fits
  · exact fitted other found otherRect foundPane placedOther

/-- A tab spawned on the screen that it will be drawn on. -/
structure Tab.Ready (area : Rect) (tab : Tab R G) : Prop where
  placed : tab.Placed
  fits : Fitted tab.panes tab.layout area

/-- Saved tabs are spawned on their own rectangles. -/
theorem Tab.SpawnedFrom.ready {format : SnapshotFormat R} {world : World} {shell : String} {tw th : Nat}
    {settings : Settings} {scrollback : Nat} {saved : TabSnapshot R} {tab : Tab R G}
    (spawned : Tab.SpawnedFrom format world shell tw th settings scrollback saved tab) (valid : saved.Valid) :
    tab.Ready (terminalContentArea tw th settings) := by
  obtain ⟨restored, before, after, spawned⟩ := spawned
  have layout : tab.layout = saved.layout := by rw [restored]; rfl
  refine ⟨fun id member => ?_, fun id pane rect found placed => ?_⟩
  · rw [layout]
    exact valid.leaves.mem_iff.mp ((spawnSnapshotPanes_ok spawned).mp member)
  · exact (spawnSnapshotPanes_unread spawned found).2.fits rect (layout ▸ placed)

end Fitting

namespace Core
variable {R G : Type} [RatioOps R] [Vt100 G]

/-- The borders are those of the current geometry, or are about to be rebuilt. -/
def BordersFresh (c : Core R G) : Prop :=
  c.borderDirty = true ∨ ∀ cache, c.borderCache = some cache → cache = c.freshCache

/-- Unless a pane is zoomed, every pane of the active tab fits its rectangle. -/
def PanesFit (c : Core R G) : Prop :=
  c.session.tab.zoomedPane = none → Fitted c.session.tab.panes c.session.tab.layout c.session.contentArea

structure Geometry (c : Core R G) : Prop where
  placed : c.session.AllTabs Tab.Placed
  borders : c.BordersFresh
  fits : c.PanesFit

/-- Nothing that the borders or the rectangles depend on has changed. -/
structure SameScreen (c next : Core R G) : Prop where
  layout : next.session.tab.layout = c.session.tab.layout
  area : next.session.contentArea = c.session.contentArea
  fresh : next.freshCache = c.freshCache
  cache : next.borderCache = c.borderCache
  dirty : c.borderDirty = true → next.borderDirty = true

omit [Vt100 G] in
theorem SameScreen.of_same {c next : Core R G} (layout : next.session.tab.layout = c.session.tab.layout)
    (tw : next.session.tw = c.session.tw) (th : next.session.th = c.session.th)
    (settings : next.session.settings = c.session.settings) (cache : next.borderCache = c.borderCache)
    (dirty : c.borderDirty = true → next.borderDirty = true) : c.SameScreen next :=
  ⟨layout, by simp only [Session.contentArea, tw, th, settings],
    by simp only [freshCache, layout, tw, th, settings], cache, dirty⟩

theorem SameScreen.geometry {c next : Core R G} (same : c.SameScreen next) (geometry : c.Geometry)
    (placed : next.session.AllTabs Tab.Placed)
    (grids : next.session.tab.zoomedPane = none → c.session.tab.zoomedPane = none ∧
      (Fitted c.session.tab.panes c.session.tab.layout c.session.contentArea →
        Fitted next.session.tab.panes c.session.tab.layout c.session.contentArea)) : next.Geometry := by
  refine ⟨placed, ?_, fun unzoomed => ?_⟩
  · rcases geometry.borders with dirty | fresh
    · exact .inl (same.dirty dirty)
    · refine .inr fun cache found => ?_
      rw [same.fresh]
      exact fresh cache (same.cache ▸ found)
  · obtain ⟨before, keeps⟩ := grids unzoomed
    rw [same.layout, same.area]
    exact keeps (geometry.fits before)

omit [RatioOps R] [Vt100 G] in
theorem placed_evolve {Rel : Pane G → Pane G → Prop} {tab next : Tab R G}
    (evolve : PaneMap.Evolve Rel tab.panes next.panes) (layout : next.layout = tab.layout) (placed : tab.Placed) :
    next.Placed := fun id member => layout ▸ placed id (evolve.mem member)

/-- Panes that keep their grids in place keep the geometry. -/
theorem Geometry.evolve {c next : Core R G} (geometry : c.Geometry) (same : c.SameScreen next)
    (panes : PaneMap.Evolve Pane.SameGrid c.session.tab.panes next.session.tab.panes)
    (zoom : next.session.tab.zoomedPane = none → c.session.tab.zoomedPane = none)
    (stored : ∀ tab ∈ next.session.tabMgr.tabs, tab.Placed) : next.Geometry :=
  same.geometry geometry ⟨placed_evolve panes same.layout geometry.placed.1, stored⟩ fun unzoomed =>
    ⟨zoom unzoomed, fun fitted => fitted.evolve panes⟩

/-! ## Refitting -/

section Lawful
variable [LawfulVt100 G] {world : World}

theorem refit_geometry {c : Core R G} (succeeds : ∀ process, world.resizeFails process = false)
    (placed : c.session.AllTabs Tab.Placed) : (c.refit world).Geometry := by
  refine ⟨⟨fun id member => ?_, placed.2⟩, .inl rfl, fun _ => fitted_resizeAll succeeds⟩
  exact placed.1 id (mem_resizeAll.mp member)

theorem refitZoomed_geometry {c : Core R G} (succeeds : ∀ process, world.resizeFails process = false)
    (placed : c.session.AllTabs Tab.Placed) : (c.refitZoomed world).Geometry := by
  have refitted := refit_geometry succeeds placed
  simp only [refitZoomed]
  split
  · rename_i id zoomed
    refine ⟨⟨fun other member => ?_, placed.2⟩, .inl rfl, fun unzoomed => ?_⟩
    · exact refitted.placed.1 other (mem_resizeZoomedPane.mp member)
    · simp only [Session.resizeZoomedPane, Session.setPanes] at unzoomed
      rw [zoomed] at unzoomed
      cases unzoomed
  · exact refitted

omit [LawfulVt100 G] in
theorem retab_geometry {c : Core R G} {session : Session R G} (placed : session.AllTabs Tab.Placed)
    (fits : Fitted session.tab.panes session.tab.layout session.contentArea) : (c.retab session).Geometry :=
  ⟨placed, .inl rfl, fun _ => fits⟩

/-- A session whose active tab has just been unpacked and refitted. -/
theorem retab_resizeAll_geometry {c : Core R G} {session : Session R G}
    (succeeds : ∀ process, world.resizeFails process = false) (placed : session.AllTabs Tab.Placed) :
    (c.retab (session.resizeAll world)).Geometry :=
  retab_geometry ⟨fun id member => placed.1 id (mem_resizeAll.mp member), placed.2⟩ (fitted_resizeAll succeeds)

/-! ## Upkeep -/

theorem detectSpawned_geometry {c : Core R G} (geometry : c.Geometry) : c.detectSpawned.Geometry := by
  obtain ⟨panes, configured, evolve⟩ := configure_evolve (R := R) Pane.SameGrid Pane.SameGrid.refl
    Pane.SameGrid.trans (c.session.tab.panes.keys.filter fun pid => !c.spawnedSeen.contains pid) c.session
    fun pane => pane.setScrollbackBudget_sameGrid _
  simp only [detectSpawned, configured]
  exact geometry.evolve (.of_same rfl rfl rfl rfl rfl id) evolve id geometry.placed.2

theorem readAll_geometry {c : Core R G} (geometry : c.Geometry) (feeds : Nat → Pane.Feed) :
    (c.readAll world feeds).Geometry := by
  refine geometry.evolve (.of_same rfl rfl rfl rfl rfl id) (.map fun _ pane => pane.serve_sameGrid world _) id ?_
  intro tab member
  obtain ⟨old, stored, rfl⟩ := List.mem_map.mp member
  have evolve : PaneMap.Evolve Pane.SameGrid old.panes (old.panes.map fun _ pane => (pane.readOutput world (feeds pane.process)).1) :=
    .map fun _ pane => pane.readOutput_sameGrid world _
  exact placed_evolve evolve rfl (geometry.placed.2 old stored)

omit [LawfulVt100 G] in
theorem modifyPane_geometry {c : Core R G} (geometry : c.Geometry) {id : Nat} {change : Pane G → Pane G}
    (same : ∀ pane : Pane G, pane.SameGrid (change pane)) : (c.modifyPane id change).Geometry :=
  geometry.evolve (.of_same rfl rfl rfl rfl rfl fun dirty => dirty)
    (.modify Pane.SameGrid.refl fun pane _ => same pane) (fun unzoomed => unzoomed) geometry.placed.2

omit [LawfulVt100 G] in
theorem drainPrompt_geometry {c : Core R G} (geometry : c.Geometry) : c.drainPrompt.Geometry := by
  simp only [drainPrompt]
  split
  · exact geometry
  split
  · exact geometry
  rename_i paneId pane asks
  have found : c.session.tab.panes[paneId]? = some pane := by
    rw [← Std.ExtTreeMap.mem_toList_iff_getElem?_eq_some]
    exact List.mem_of_find?_eq_some asks
  refine geometry.evolve (.of_same rfl rfl rfl rfl rfl id) ?_ id geometry.placed.2
  exact .insert Pane.SameGrid.refl found (Pane.SameGrid.refl pane)

/-- Restarting keeps panes in their places, with grids of their rectangles. -/
private theorem restartPanes_geometry (world : World) (spawns : Nat) {tab : Tab R G} (state : RestartState) (shell : String)
    (tw th : Nat) (settings : Settings) (scrollback : Nat) (placed : tab.Placed) :
    let outcome := restartPanes world spawns tab.panes tab.layout tab.restartPolicies state shell tw th settings
      scrollback
    (∀ id ∈ outcome.panes, id ∈ tab.layout.paneIds) ∧
      (Fitted tab.panes tab.layout (terminalContentArea tw th settings) →
        Fitted outcome.panes tab.layout (terminalContentArea tw th settings)) := by
  refine restartPanes_invariant (fun panes _ => (∀ id ∈ panes, id ∈ tab.layout.paneIds) ∧
    (Fitted tab.panes tab.layout (terminalContentArea tw th settings) →
      Fitted panes tab.layout (terminalContentArea tw th settings))) ⟨placed, id⟩ ?_
  intro panes restarted id rect pane before present rectangle spawned
  refine ⟨fun other member => ?_, fun fitted => (before.2 fitted).insert rectangle spawned.fits⟩
  rcases IdMap.mem_insert_iff.mp member with rfl | old
  · exact before.1 _ present
  · exact before.1 _ old

theorem restart_geometry {c : Core R G} (geometry : c.Geometry) : (c.restart world).Geometry := by
  have restarted := restartPanes_geometry world c.session.spawns c.session.tab.restartState c.session.shell c.session.tw
    c.session.th c.session.settings c.session.scrollback geometry.placed.1
  let outcome := restartPanes world c.session.spawns c.session.tab.panes c.session.tab.layout
    c.session.tab.restartPolicies c.session.tab.restartState c.session.shell c.session.tw c.session.th
    c.session.settings c.session.scrollback
  obtain ⟨panes, configured, evolve⟩ := configure_evolve (R := R) Pane.SameGrid Pane.SameGrid.refl
    Pane.SameGrid.trans outcome.restarted
    { c.session with tab.panes := outcome.panes, tab.restartState := outcome.state, spawns := outcome.spawns }
    fun pane => pane.setScrollbackBudget_sameGrid _
  have same : c.SameScreen (c.restart world) := by
    simp only [restart, outcome] at configured ⊢
    rw [configured]
    exact .of_same rfl rfl rfl rfl rfl id
  refine same.geometry geometry ?_ ?_
  · simp only [restart, outcome] at configured ⊢
    rw [configured]
    exact ⟨fun id member => restarted.1 id (evolve.mem member), geometry.placed.2⟩
  · simp only [restart, outcome] at configured ⊢
    rw [configured]
    exact fun unzoomed => ⟨unzoomed, fun fitted => (restarted.2 fitted).evolve evolve⟩

theorem restartInactive_geometry {c : Core R G} (geometry : c.Geometry) : (c.restartInactive world).Geometry := by
  have each : List.Forall₂ (fun before after : Tab R G => before.Placed → after.Placed) c.session.tabMgr.tabs
      ((c.restartedTabs world).1.map (·.1)) :=
    List.forall₂_map_right_iff.mpr (restartTabs_forall₂ fun spawns tab placed => (restartPanes_geometry world spawns _ _ _ _ _ _ placed).1)
  refine geometry.evolve (.of_same rfl rfl rfl rfl rfl id) (.refl Pane.SameGrid.refl _) id ?_
  simp only [restartInactive, TabManager.replaceStored_tabs each]
  exact forall_of_forall₂ each geometry.placed.2 fun _ _ keeps placed => keeps placed

omit [LawfulVt100 G] in
theorem rebuildBorders_geometry {c : Core R G} (geometry : c.Geometry) : c.rebuildBorders.Geometry := by
  simp only [rebuildBorders]
  split
  · refine ⟨geometry.placed, .inr fun cache found => ?_, geometry.fits⟩
    cases found
    rfl
  · exact geometry

theorem unzoom_geometry {c : Core R G} (succeeds : ∀ process, world.resizeFails process = false)
    (placed : c.session.AllTabs Tab.Placed) : (c.unzoom world).Geometry :=
  refit_geometry (c := { c with session.tab.zoomedPane := none }) succeeds placed

omit [LawfulVt100 G] in
/-- A zoomed pane has its own grid; the others do not matter meanwhile. -/
theorem zoomed_geometry {c next : Core R G} (geometry : c.Geometry) (same : c.SameScreen next)
    (panes : ∀ id ∈ next.session.tab.panes, id ∈ c.session.tab.panes)
    (zoomed : next.session.tab.zoomedPane.isSome) (stored : next.session.tabMgr = c.session.tabMgr) :
    next.Geometry := by
  refine same.geometry geometry ⟨fun id member => ?_, stored ▸ geometry.placed.2⟩ fun unzoomed => ?_
  · exact same.layout ▸ geometry.placed.1 id (panes id member)
  · rw [unzoomed] at zoomed
    cases zoomed

omit [LawfulVt100 G] in
theorem followZoom_geometry {c : Core R G} (geometry : c.Geometry) : (c.followZoom world).Geometry := by
  simp only [followZoom]
  split
  · refine zoomed_geometry geometry (.of_same rfl rfl rfl rfl rfl id) (fun id member => ?_) rfl rfl
    exact mem_resizeZoomedPane.mp member
  · exact geometry

theorem draw_geometry {c : Core R G} (geometry : c.Geometry) (targets : List Nat) : (c.draw targets).Geometry := by
  induction targets generalizing c with
  | nil => exact geometry
  | cons id targets ih =>
      refine ih (modifyPane_geometry geometry fun pane => ?_)
      exact (LawfulVt100.size_setScrollback _ _).trans (LawfulVt100.size_setScrollback _ _)

/-! ## Handlers -/

omit [Vt100 G] [LawfulVt100 G] in
/-- The content area knows of the border style only whether there is a frame. -/
private theorem area_congr {before after : Settings} (border : after.borderStyle.isNone = before.borderStyle.isNone)
    (statusBar : after.showStatusBar = before.showStatusBar) (tabBar : after.showTabBar = before.showTabBar)
    (count : after.tabCount = before.tabCount) (layout : Layout R) (tw th : Nat) :
    terminalContentArea tw th after = terminalContentArea tw th before ∧
      borderCacheFor layout tw th after = borderCacheFor layout tw th before := by
  have height : terminalRenderHeight th after = terminalRenderHeight th before := by
    simp only [terminalRenderHeight, border, tabBar, count]
  constructor
  · simp only [terminalContentArea, contentArea, height, border, statusBar]
  · simp only [borderCacheFor, height, statusBar, buildBorderCache_congr _ _ _ _ border]

theorem panel_geometry {c : Core R G} (succeeds : ∀ process, world.resizeFails process = false)
    (geometry : c.Geometry) {outcome : Settings × SettingsAction}
    (border : outcome.1.borderStyle.isNone = c.session.settings.borderStyle.isNone)
    (count : outcome.1.tabCount = c.session.settings.tabCount) : (c.panel world outcome).Geometry := by
  simp only [panel]
  split
  · exact refit_geometry succeeds geometry.placed
  rename_i bars
  simp only [Bool.or_eq_true, decide_eq_true_eq, not_or, not_not] at bars
  have same := area_congr border bars.1 bars.2 count c.session.tab.layout c.session.tw c.session.th
  exact SameScreen.geometry (c := c) ⟨rfl, same.1, same.2, rfl, id⟩ geometry geometry.placed fun unzoomed => ⟨unzoomed, id⟩

omit [LawfulVt100 G] in
theorem answer_geometry {c : Core R G} (geometry : c.Geometry) (reply : Osc52Answer) : (c.answer reply).Geometry := by
  simp only [answer]
  split
  · exact geometry
  · refine geometry.evolve (.of_same rfl rfl rfl rfl rfl id) ?_ id geometry.placed.2
    refine .modify Pane.SameGrid.refl fun pane _ => ?_
    cases reply <;> exact Pane.SameGrid.refl pane

/-! ## Layout -/

theorem split_geometry {c : Core R G} (succeeds : ∀ process, world.resizeFails process = false)
    (geometry : c.Geometry) (target : Nat) (dir : Direction) :
    ({ c with
        session := (c.session.doSplit world target dir).1
        borderDirty := c.borderDirty || (c.session.doSplit world target dir).2.isOk } : Core R G).Geometry := by
  simp only [Session.doSplit]
  rcases doSplit_cases world c.session.spawns c.session.tab.layout c.session.tab.panes target dir c.session.shell
      c.session.tw c.session.th c.session.settings c.session.scrollback with
    ⟨message, failed, same⟩ | ⟨rect, cwd, pane, accepted, _, leaf, _, _, _, _, _, next⟩
  · rw [failed, same]
    simp only [Except.isOk, Except.toBool, Bool.or_false]
    exact geometry.evolve (.of_same rfl rfl rfl rfl rfl id) (.refl Pane.SameGrid.refl _) id geometry.placed.2
  · rw [accepted, next]
    refine ⟨⟨fun id member => ?_, geometry.placed.2⟩, .inl ?_, fun _ => fitted_resizeAll succeeds⟩
    · rcases IdMap.mem_insert_iff.mp (mem_resizeAll.mp member) with rfl | old
      · exact Layout.mem_split_paneIds.mpr (.inr ⟨rfl, leaf⟩)
      · exact Layout.mem_split_paneIds.mpr (.inl (geometry.placed.1 id old))
    · simp [Except.isOk, Except.toBool]

theorem close_geometry {c : Core R G} (succeeds : ∀ process, world.resizeFails process = false)
    (geometry : c.Geometry) (target : Nat) :
    ({ c with session := c.session.closePane target }.refit world).Geometry := by
  refine refit_geometry succeeds ⟨fun id member => ?_, geometry.placed.2⟩
  simp only [Session.closePane, closePane_panes, closePane_layout, IdMap.mem_erase_iff] at member ⊢
  have leaf := geometry.placed.1 id member.2
  rcases c.session.tab.layout.remove_cases target with ⟨same, _⟩ | ⟨root, removed, _, _, ids⟩
  · rw [same]
    exact leaf
  · rw [removed]
    simp only [Layout.paneIds, ids]
    exact (List.mem_erase_of_ne member.1).mpr leaf

/-- A layout that keeps its leaves keeps the panes in place. -/
theorem relayout_geometry {c : Core R G} (succeeds : ∀ process, world.resizeFails process = false)
    (geometry : c.Geometry) {layout : Layout R} (leaves : ∀ id ∈ c.session.tab.layout.paneIds, id ∈ layout.paneIds) :
    ({ c with session := c.session.setLayout layout }.refit world).Geometry :=
  refit_geometry succeeds ⟨fun id member => leaves id (geometry.placed.1 id member), geometry.placed.2⟩

/-- A process spawned in a pane's place has the grid of its rectangle. -/
theorem spawned_geometry {c next : Core R G} (geometry : c.Geometry) {id : Nat} {rect : Rect} {pane : Pane G}
    (placed : (c.session.tab.layout.paneRects c.session.contentArea)[id]? = some rect)
    (spawned : Pane.SpawnedAt pane rect) (same : c.SameScreen next)
    (panes : next.session.tab.panes = c.session.tab.panes.insert id pane)
    (zoom : next.session.tab.zoomedPane = c.session.tab.zoomedPane)
    (stored : next.session.tabMgr = c.session.tabMgr) : next.Geometry := by
  refine same.geometry geometry ⟨fun other member => ?_, stored ▸ geometry.placed.2⟩ fun unzoomed => ?_
  · rw [same.layout]
    rcases IdMap.mem_insert_iff.mp (panes ▸ member) with rfl | old
    · exact Layout.mem_paneRects.mp (IdMap.mem_of_getElem? placed)
    · exact geometry.placed.1 other old
  · refine ⟨zoom ▸ unzoomed, fun fitted => ?_⟩
    rw [panes]
    exact fitted.insert placed spawned.fits

theorem respawn_geometry {c : Core R G} (geometry : c.Geometry) :
    ({ c with session := c.session.respawn world } : Core R G).Geometry := by
  rcases c.session.respawn_cases world with same | ⟨rect, pane, _, placed, spawned, replaced⟩
  · rw [same]
    exact geometry.evolve (.of_same rfl rfl rfl rfl rfl id) (.refl Pane.SameGrid.refl _) id geometry.placed.2
  · rw [replaced]
    exact spawned_geometry geometry placed spawned (.of_same rfl rfl rfl rfl rfl id) rfl rfl rfl

theorem exec_geometry {c : Core R G} (geometry : c.Geometry) (id : Nat) (launch : PaneLaunch) (shell : String) :
    ({ c with session := (c.session.replacePane world id launch shell).1 } : Core R G).Geometry := by
  rcases c.session.replacePane_cases world id launch shell with
    ⟨_, _, same⟩ | ⟨rect, pane, _, placed, spawned, replaced⟩
  · rw [same]
    exact geometry.evolve (.of_same rfl rfl rfl rfl rfl fun dirty => dirty) (.refl Pane.SameGrid.refl _)
      (fun unzoomed => unzoomed) geometry.placed.2
  · rw [replaced]
    exact spawned_geometry geometry placed spawned (.of_same rfl rfl rfl rfl rfl fun dirty => dirty) rfl rfl rfl

omit [LawfulVt100 G] in
/-- Swapped panes keep fitting if their rectangles have the same grid. -/
theorem swap_geometry {c : Core R G} (geometry : c.Geometry) {other : Nat}
    (active : c.session.tab.activePane ∈ c.session.tab.layout.paneIds) (leaf : other ∈ c.session.tab.layout.paneIds)
    (alike : c.session.tab.zoomedPane = none → ∀ rect otherRect,
      (c.session.tab.layout.paneRects c.session.contentArea)[c.session.tab.activePane]? = some rect →
      (c.session.tab.layout.paneRects c.session.contentArea)[other]? = some otherRect →
      max rect.w 1 = max otherRect.w 1 ∧ max rect.h 1 = max otherRect.h 1) :
    ({ c with
        session := c.session.setLayout (c.session.tab.layout.swapPanes c.session.tab.activePane other)
        borderDirty := true } : Core R G).Geometry := by
  refine ⟨⟨fun id member => ?_, geometry.placed.2⟩, .inl rfl, fun unzoomed id pane rect found placed => ?_⟩
  · exact (Layout.mem_swapPanes_paneIds active leaf).mpr (geometry.placed.1 id member)
  have fitted := geometry.fits unzoomed
  have before := c.session.tab.layout.swapPanes_paneRects c.session.tab.activePane other c.session.contentArea
    (Equiv.swap c.session.tab.activePane other id)
  rw [Equiv.swap_apply_self] at before
  have moved := before.symm.trans placed
  have occupied : id ∈ c.session.tab.layout.paneRects c.session.contentArea :=
    Layout.mem_paneRects.mpr (geometry.placed.1 id (IdMap.mem_of_getElem? found))
  obtain ⟨old, had⟩ := IdMap.getElem?_of_mem occupied
  have fits := fitted id pane old found had
  have grids : max rect.w 1 = max old.w 1 ∧ max rect.h 1 = max old.h 1 := by
    rw [Equiv.swap_apply_def] at moved
    split at moved
    · rename_i here
      have sizes := alike unzoomed old rect (here ▸ had) moved
      exact ⟨sizes.1.symm, sizes.2.symm⟩
    split at moved
    · rename_i here
      exact alike unzoomed rect old moved (here ▸ had)
    · rw [had] at moved
      cases moved
      exact ⟨rfl, rfl⟩
  rw [Pane.FitsRect, grids.1, grids.2]
  exact fits

/-! ## Tabs and snapshots -/

theorem newTab_geometry {c : Core R G} (succeeds : ∀ process, world.resizeFails process = false)
    (geometry : c.Geometry) (name : Option String) : (c.retab (c.session.newTab world name).1).Geometry := by
  rcases c.session.newTab_cases world name with
    ⟨mgr, tab, failed, _, _, all⟩ | ⟨rect, pane, title, opened, placed, fresh, _, spawned, rfl⟩
  · rw [failed]
    exact retab_resizeAll_geometry succeeds (all Tab.Placed geometry.placed)
  · rw [opened]
    have fits : ((fresh.setScrollbackBudget c.session.scrollbackBytes).setClipboardPolicy
        c.session.clipboardPolicy).FitsRect rect :=
      Eq.trans (fresh.setScrollbackBudget_sameGrid c.session.scrollbackBytes) spawned.fits
    refine retab_geometry ⟨fun id member => ?_, ?_⟩ ?_
    · rcases IdMap.mem_insert_iff.mp member with rfl | none
      · exact Layout.mem_paneRects.mp (IdMap.mem_of_getElem? placed)
      · exact absurd none (by simp)
    · exact Session.allTabs_iff.mp geometry.placed
    · exact Fitted.insert (fun id pane rect found => by simp at found) placed fits

theorem goToTab_geometry {c : Core R G} (succeeds : ∀ process, world.resizeFails process = false)
    (geometry : c.Geometry) (target : Nat) : (((c.session.goToTab world target).map c.retab).getD c).Geometry := by
  cases moved : c.session.goToTab world target with
  | none => exact geometry
  | some next =>
      obtain ⟨mgr, tab, rfl, _, _, all⟩ := Session.goToTab_cases moved
      exact retab_resizeAll_geometry succeeds (all Tab.Placed geometry.placed)

theorem closeTab_geometry {c : Core R G} (succeeds : ∀ process, world.resizeFails process = false)
    (geometry : c.Geometry) : (((c.session.closeTab world).map c.retab).getD c).Geometry := by
  cases closed : c.session.closeTab world with
  | none => exact geometry
  | some next =>
      obtain ⟨mgr, tab, rfl, _, _, all⟩ := Session.closeTab_cases closed
      exact retab_resizeAll_geometry succeeds (all Tab.Placed geometry.placed)

theorem save_geometry {c : Core R G} (geometry : c.Geometry) (format : SnapshotFormat R) :
    ({ c with session := (c.session.capture format world).1 } : Core R G).Geometry := by
  obtain ⟨tab, tabs, captured, active, stored⟩ := c.session.capture_evolve Pane.SameGrid
    Pane.SameGrid.refl Pane.SameGrid.trans (fun pane => pane.dumpText_sameGrid true) format world
  rw [captured]
  have same : c.SameScreen { c with session := { c.session with tab, tabMgr := c.session.tabMgr.replaceStored tabs } } :=
    .of_same (by rw [active.rest]) rfl rfl rfl rfl id
  refine geometry.evolve same active.panes (fun unzoomed => ?_) ?_
  · rw [active.rest] at unzoomed
    exact unzoomed
  · rw [TabManager.replaceStored_tabs stored]
    refine forall_of_forall₂ stored geometry.placed.2 fun before after evolve placed => ?_
    exact placed_evolve evolve.panes (by rw [evolve.rest]) placed

theorem load_geometry {c : Core R G} (geometry : c.Geometry) (format : SnapshotFormat R) (path : String) :
    (c.load format world path).Geometry := by
  simp only [load]
  rcases c.session.load_cases format world path with
    ⟨message, spawns, failed⟩ | ⟨saved, next, accepted, loaded, tabs, rest, _⟩
  · rw [failed]
    exact geometry.evolve (.of_same rfl rfl rfl rfl rfl id) (.refl Pane.SameGrid.refl _) id geometry.placed.2
  · rw [loaded]
    have valid := loadSnapshot_valid accepted
    have spawned : next.AllTabs (Tab.Ready (terminalContentArea c.session.tw c.session.th saved.settings)) :=
      Session.allTabs_iff.mpr (forall_of_forall₂ tabs (fun saved member => valid.tabs saved member)
        fun saved tab spawned valid => spawned.ready valid)
    have area : next.contentArea = terminalContentArea c.session.tw c.session.th saved.settings := by
      rw [rest]
      rfl
    refine ⟨spawned.mono fun tab ready => ready.placed, .inl rfl, fun _ => ?_⟩
    rw [area]
    exact spawned.1.fits

end Lawful

/-! ## Every operation -/

/-- What keeps the screen coherent: only leaves with the same grid are swapped, and the
settings panel neither adds nor drops the frame. -/
def KeepsGeometry (c : Core R G) : Op R → Prop
  | .swap other =>
      let rects := c.session.tab.layout.paneRects c.session.contentArea
      c.session.tab.activePane ∈ c.session.tab.layout.paneIds ∧ other ∈ c.session.tab.layout.paneIds ∧
        (c.session.tab.zoomedPane = none → ∀ rect otherRect,
          rects[c.session.tab.activePane]? = some rect → rects[other]? = some otherRect →
          max rect.w 1 = max otherRect.w 1 ∧ max rect.h 1 = max otherRect.h 1)
  | .panelKey key =>
      (c.session.settings.handleKey key).1.borderStyle.isNone = c.session.settings.borderStyle.isNone
  | .panelClick x y =>
      (c.session.settings.handleClick x y c.session.tw c.session.th).1.borderStyle.isNone =
        c.session.settings.borderStyle.isNone
  | _ => True

theorem apply_geometry [LawfulVt100 G] {world : World} (succeeds : ∀ process, world.resizeFails process = false)
    {c : Core R G} (geometry : c.Geometry) (format : SnapshotFormat R) (op : Op R) (keeps : c.KeepsGeometry op) :
    (c.apply format world op).Geometry := by
  have placed := geometry.placed
  have unchanged : PaneMap.Evolve Pane.SameGrid c.session.tab.panes c.session.tab.panes :=
    .refl Pane.SameGrid.refl _
  cases op with
  | read feeds => exact readAll_geometry (detectSpawned_geometry geometry) feeds
  | prompt => exact drainPrompt_geometry geometry
  | restart => exact restart_geometry geometry
  | restartInactive => exact restartInactive_geometry geometry
  | unzoomMissing =>
      simp only [apply]
      split
      · exact unzoom_geometry succeeds placed
      · exact geometry
  | render targets => exact draw_geometry (followZoom_geometry (rebuildBorders_geometry geometry)) _
  | resizeTerminal tw th => exact refitZoomed_geometry succeeds placed
  | reload border showStatusBar showTabBar themeChanged =>
      simp only [apply]
      split
      · exact refitZoomed_geometry succeeds placed
      · rename_i visual
        simp only [Bool.or_eq_true, decide_eq_true_eq, not_or, not_not] at visual
        obtain ⟨⟨⟨sameBorder, sameStatusBar⟩, sameTabBar⟩, _⟩ := visual
        subst sameBorder sameStatusBar sameTabBar
        exact geometry
  | requestReload requested => exact geometry.evolve ⟨rfl, rfl, rfl, rfl, id⟩ unchanged id placed.2
  | markBorders => exact geometry.evolve ⟨rfl, rfl, rfl, rfl, fun _ => rfl⟩ unchanged id placed.2
  | split target dir => exact split_geometry succeeds geometry target dir
  | close target => exact close_geometry succeeds geometry target
  | equalize => exact relayout_geometry succeeds geometry fun id leaf => by simpa using leaf
  | refit => exact refit_geometry succeeds placed
  | resizePane dir delta =>
      have leaves := c.session.tab.layout.resizePane_paneIds c.session.tab.activePane dir delta
      simp only [apply]
      split
      · rename_i layout result
        rw [result] at leaves
        exact relayout_geometry succeeds geometry fun id leaf => by rwa [leaves]
      · exact geometry
  | setRatio path ratio => exact relayout_geometry succeeds geometry fun id leaf => by simpa using leaf
  | swap other => exact swap_geometry geometry keeps.1 keeps.2.1 keeps.2.2
  | reconfigure spec =>
      rcases reconfigureLayout_cases c.session.tab.layout spec with ⟨message, same⟩ | ⟨root, applied, ids⟩
      · simp only [apply, same]
        exact geometry
      · simp only [apply, applied]
        refine relayout_geometry succeeds geometry fun id leaf => ?_
        simp only [Layout.paneIds, ids]
        exact leaf
  | focus id => exact geometry.evolve (.of_same rfl rfl rfl rfl rfl fun dirty => dirty) unchanged (fun same => same) placed.2
  | zoom id =>
      exact zoomed_geometry geometry (.of_same rfl rfl rfl rfl rfl fun dirty => dirty)
        (fun other member => mem_resizeZoomedPane.mp member) rfl rfl
  | unzoom => exact unzoom_geometry succeeds placed
  | setBroadcast on => exact geometry.evolve (.of_same rfl rfl rfl rfl rfl id) unchanged id placed.2
  | showStatusBar on => exact refit_geometry succeeds placed
  | showTabBar on => exact refit_geometry succeeds placed
  | togglePanel => exact geometry.evolve ⟨rfl, rfl, rfl, rfl, id⟩ unchanged id placed.2
  | panelKey key => exact panel_geometry succeeds geometry keeps (Settings.handleKey_tabCount key _)
  | panelClick x y => exact panel_geometry succeeds geometry keeps (Settings.handleClick_tabCount x y _ _ _)
  | pane id op => exact modifyPane_geometry geometry op.apply_sameGrid
  | respawn => exact respawn_geometry geometry
  | exec id command =>
      simp only [apply]
      split
      · exact exec_geometry geometry id (.command command) c.session.shell
      · exact geometry
  | answer reply => exact answer_geometry geometry reply
  | newTab name => exact newTab_geometry succeeds geometry name
  | goToTab target => exact goToTab_geometry succeeds geometry target
  | closeTab => exact closeTab_geometry succeeds geometry
  | renameTab name => exact geometry.evolve (.of_same rfl rfl rfl rfl rfl id) unchanged id placed.2
  | save => exact save_geometry geometry format
  | load path => exact load_geometry geometry format path

end Core

end Ezpn
