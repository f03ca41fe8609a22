import Ezpn.Server.Geometry
import Ezpn.Server.Loop.Rules
import Ezpn.Session.Panes

/-!
# Frames over whole runs

A session boots with its panes on their rectangles. From there, in a run whose
operations all keep the geometry, every frame is composed from fresh borders and
from panes that fit.
-/

set_option autoImplicit false

namespace Ezpn

section Boot
variable {R G : Type} [RatioOps R] [Vt100 G] [LawfulVt100 G]

omit [RatioOps R] in
theorem configureAll_evolve (config : LaunchConfig) (panes : PaneMap G) :
    PaneMap.Evolve Pane.SameGrid panes (configureAll config panes) :=
  .map fun _ pane => pane.setScrollbackBudget_sameGrid _

theorem Tab.Ready.configured {area : Rect} {tab : Tab R G} (ready : tab.Ready area) (config : LaunchConfig) :
    ({ tab with panes := configureAll config tab.panes } : Tab R G).Ready area :=
  ⟨Core.placed_evolve (configureAll_evolve config tab.panes) rfl ready.placed,
    ready.fits.evolve (configureAll_evolve config tab.panes)⟩

theorem spawnLayoutPanes_fitted {world : World} {spawns after : Nat} {layout : Layout R} {launches : IdMap PaneLaunch}
    {shell : String} {tw th : Nat} {settings : Settings} {scrollback : Nat} {panes : PaneMap G}
    (spawned : spawnLayoutPanes world spawns layout launches shell tw th settings scrollback = (.ok panes, after)) :
    Fitted panes layout (terminalContentArea tw th settings) := by
  intro id pane rect found placed
  simp only [spawnLayoutPanes, Prod.mk.injEq] at spawned
  refine (spawnEach_forall
    (P := fun id pane => pane.clipboardPolicy = {} ∧
      pane.Unread (layout.paneRects (terminalContentArea tw th settings)) id)
    (Prod.ext spawned.1 rfl) (fun entry member attempt pane started => ?_) (by simp) found).2.fits rect placed
  obtain ⟨⟨task, own⟩, listed, rfl⟩ := List.mem_map.mp member
  have known := Std.ExtTreeMap.mem_toList_iff_getElem?_eq_some.mp listed
  exact spawnInner_unread (fun other found => Option.some.inj (found.symm.trans known)) started

theorem spawnProjectPanes_fitted {world : World} {spawns after : Nat} {proj : ResolvedProject R} {shell : String}
    {tw th : Nat} {settings : Settings} {scrollback : Nat} {panes : PaneMap G}
    (spawned : spawnProjectPanes world spawns proj shell tw th settings scrollback = (.ok panes, after)) :
    Fitted panes proj.layout (terminalContentArea tw th settings) := by
  intro id pane rect found placed
  refine (spawnEach_forall
    (P := fun id pane => pane.Unread (proj.layout.paneRects (terminalContentArea tw th settings)) id)
    spawned (fun entry member attempt pane started => ?_) (by simp) found).fits rect placed
  obtain ⟨⟨task, own⟩, listed, rfl⟩ := List.mem_map.mp member
  have known := Std.ExtTreeMap.mem_toList_iff_getElem?_eq_some.mp listed
  simp only [spawnProjectPane] at started
  split at started
  · cases started
  rename_i fresh made
  cases started
  have unread := (spawnInner_unread (fun other found => Option.some.inj (found.symm.trans known)) made).2
  exact ⟨unread.state, unread.fits⟩

omit [LawfulVt100 G] in
/-- No borders are drawn before the first frame. -/
theorem booted_geometry {s : Session R G} (active : s.tab.Ready s.contentArea) (stored : ∀ tab ∈ s.tabMgr.tabs, tab.Placed) :
    ({ session := s } : Core R G).Geometry :=
  ⟨⟨active.placed, stored⟩, .inr nofun, fun _ => active.fits⟩

theorem bootLayout_geometry {world : World} {config : LaunchConfig} {layout : Layout R} {launches : IdMap PaneLaunch}
    {s : Session R G} (booted : bootLayout world config layout launches = .ok s) :
    ({ session := s } : Core R G).Geometry := by
  simp only [bootLayout] at booted
  split at booted
  · cases booted
  rename_i panes spawns spawned
  cases booted
  refine booted_geometry ?_ (by simp [LaunchConfig.session])
  have ready : Tab.Ready (terminalContentArea 80 24 { Settings.new config.border with
        showStatusBar := config.showStatusBar
        showTabBar := config.showTabBar })
      ({ name := "1", layout, panes, activePane := layout.paneIds.head?.getD 0 } : Tab R G) :=
    ⟨fun id member => (spawnLayoutPanes_ok spawned).mp member, spawnLayoutPanes_fitted spawned⟩
  exact ready.configured config

theorem bootProject_geometry {world : World} {config : LaunchConfig} {proj : ResolvedProject R} {s : Session R G}
    (booted : bootProject world config proj = .ok s) : ({ session := s } : Core R G).Geometry := by
  simp only [bootProject] at booted
  split at booted
  · cases booted
  rename_i panes spawns spawned
  cases booted
  refine booted_geometry ?_ (by simp [LaunchConfig.session])
  have ready : Tab.Ready (terminalContentArea 80 24 { Settings.new config.border with
        showStatusBar := config.showStatusBar
        showTabBar := config.showTabBar })
      ({ name := "1"
         layout := proj.layout
         panes
         activePane := proj.layout.paneIds.head?.getD 0
         restartPolicies := proj.restarts } : Tab R G) :=
    ⟨fun id member => (spawnProjectPanes_ok spawned).mp member, spawnProjectPanes_fitted spawned⟩
  exact ready.configured config

theorem bootSnapshot_geometry {format : SnapshotFormat R} {world : World} {config : LaunchConfig} {path : String}
    {s : Session R G} (booted : bootSnapshot format world config path = .ok s) :
    ({ session := s } : Core R G).Geometry := by
  simp only [bootSnapshot] at booted
  split at booted
  · cases booted
  rename_i snapshot read
  have valid := loadSnapshot_valid read
  split at booted
  · cases booted
  rename_i saved chosen
  split at booted
  · cases booted
  rename_i panes spawns active
  split at booted
  · cases booted
  rename_i tabs after spawned
  split at booted
  · rename_i nonempty
    cases booted
    let settings : Settings :=
      { Settings.new snapshot.borderStyle with
        tabCount := snapshot.tabs.length
        showStatusBar := snapshot.showStatusBar
        showTabBar := snapshot.showTabBar }
    -- the active tab's panes were spawned first; the others were spawned around it
    have here : (Tab.restore saved panes : Tab R G).Ready (terminalContentArea 80 24 settings) :=
      Tab.SpawnedFrom.ready ⟨rfl, _, _, active⟩ (valid.tabs saved (List.mem_of_getElem? chosen))
    have all : ∀ tab ∈ tabs, tab.Ready (terminalContentArea 80 24 settings) := by
      refine forall_of_forall₂ (P := fun entry => entry ∈ snapshot.tabs.zipIdx) (spawnTabs_cases spawned)
        (fun entry member => member) ?_
      rintro ⟨entry, idx⟩ tab alternatives member
      rcases alternatives with spawned | ⟨restored, had⟩
      · exact spawned.ready (valid.tabs entry (List.fst_mem_of_mem_zipIdx member))
      · split at had
        · rename_i chosenIdx
          have ready : tab.panes = configureAll config panes := (Option.some.inj had).symm
          have same : entry = saved := by
            have listed : snapshot.tabs[idx]? = some entry := List.mem_zipIdx_iff_getElem?.mp member
            rw [show idx = snapshot.activeTab from chosenIdx, chosen] at listed
            exact (Option.some.inj listed).symm
          rw [restored, same, ready]
          exact here.configured config
        · cases had
    have inRange : min snapshot.activeTab (tabs.length - 1) < tabs.length := by omega
    have stored : ∀ tab ∈ (TabManager.fromTabs tabs snapshot.activeTab nonempty).1.tabs, tab.Ready _ :=
      (Session.allTabs_takeOut all inRange).2
    exact booted_geometry (all _ (List.getElem_mem inRange)) fun tab member => (stored tab member).placed
  · cases booted

theorem boot_geometry {format : SnapshotFormat R} {world : World} {config : LaunchConfig} {startup : Startup R}
    {s : Session R G} (booted : boot format world config startup = .ok s) : ({ session := s } : Core R G).Geometry := by
  cases startup with
  | restore path => exact bootSnapshot_geometry booted
  | project proj => exact bootProject_geometry booted
  | procfile contents =>
      simp only [boot] at booted
      split at booted
      · exact bootLayout_geometry booted
      · exact bootLayout_geometry booted
  | grid rows cols commands => exact bootLayout_geometry booted
  | spec spec commands =>
      simp only [boot] at booted
      split at booted
      · cases booted
      · exact bootLayout_geometry booted

end Boot

/-- The screen that a frame is composed from: its borders are those of the current geometry, and
unless a pane is zoomed, every pane of the active tab has the grid of its rectangle. -/
structure Core.Coherent {R G : Type} [RatioOps R] [Vt100 G] (c : Core R G) : Prop where
  borders : c.borderCache = some c.freshCache
  grids : c.session.tab.zoomedPane = none → ∀ (id : Nat) (pane : Pane G), c.session.tab.panes[id]? = some pane →
    ∃ rect, (c.session.tab.layout.paneRects c.session.contentArea)[id]? = some rect ∧
      Vt100.size pane.parser = (max rect.h 1, max rect.w 1)

namespace Loop
variable {R G U : Type} [RatioOps R] [Vt100 G] [LawfulVt100 G]

omit [LawfulVt100 G] in
/-- Refreshing leaves nothing pending. -/
theorem refresh_clean (world : World) (c : Core R G) : (c.refresh world).borderDirty = false := by
  have rebuilt : c.rebuildBorders.borderDirty = false := by
    simp only [Core.rebuildBorders]
    split
    · rfl
    · rename_i clean
      simpa using clean
  simp only [Core.refresh, Core.followZoom]
  split
  · exact rebuilt
  · exact rebuilt

omit [LawfulVt100 G] in
theorem refresh_coherent {world : World} {c : Core R G} (geometry : c.Geometry)
    (drawn : (c.refresh world).borderCache.isSome = true) : (c.refresh world).Coherent := by
  have refreshed : (c.refresh world).Geometry := Core.followZoom_geometry (Core.rebuildBorders_geometry geometry)
  obtain ⟨cache, found⟩ := Option.isSome_iff_exists.mp drawn
  refine ⟨?_, fun unzoomed id pane present => ?_⟩
  · rcases refreshed.borders with dirty | fresh
    · rw [refresh_clean] at dirty
      cases dirty
    · rw [found, fresh cache found]
  · have leaf := refreshed.placed.1 id (IdMap.mem_of_getElem? present)
    obtain ⟨rect, placed⟩ := IdMap.getElem?_of_mem (Layout.mem_paneRects.mpr leaf)
    exact ⟨rect, placed, refreshed.fits unzoomed id pane rect present placed⟩

variable {format : SnapshotFormat R}

omit [LawfulVt100 G] in
theorem geometry_indifferent : Indifferent (fun l : Loop R G U => l.core.Geometry) where
  ui _ _ geometry := geometry
  ended _ geometry := geometry
  marked _ _ geometry := geometry
  clients _ _ _ _ _ _ geometry := geometry

variable [Interface U]

/-- Resizes succeed, and the step's handler keeps the geometry in whatever it runs. -/
def KeepsScreen (format : SnapshotFormat R) (l : Loop R G U) (label : World × LoopOp R G U) : Prop :=
  (∀ process, label.1.resizeFails process = false) ∧
    Handles format label.1 (fun l op => l.core.KeepsGeometry op) l label.2

theorem closeDeadTab_geometry {world : World} (succeeds : ∀ process, world.resizeFails process = false) {l : Loop R G U}
    (geometry : l.core.Geometry) : (l.closeDeadTab format world).core.Geometry := by
  simp only [closeDeadTab]
  split
  · exact geometry
  split
  · exact geometry
  · exact Core.apply_geometry succeeds geometry format .closeTab trivial

theorem upkeep_geometry {world : World} (succeeds : ∀ process, world.resizeFails process = false) {l : Loop R G U}
    (geometry : l.core.Geometry) (feeds : Nat → Pane.Feed) : (l.upkeep format world feeds).core.Geometry := by
  have performed {l : Loop R G U} (geometry : l.core.Geometry) (op : Op R) (keeps : l.core.KeepsGeometry op) :
      (l.perform format world op).core.Geometry := Core.apply_geometry succeeds geometry format op keeps
  have detected : (l.detect format world feeds).core.Geometry :=
    performed (performed geometry (.read feeds) trivial) .prompt trivial
  have restarted : ((l.detect format world feeds).restartAll format world).core.Geometry :=
    performed (performed detected .restart trivial) .restartInactive trivial
  have closed : (((l.detect format world feeds).restartAll format world).closeDeadTab format world).core.Geometry :=
    closeDeadTab_geometry succeeds restarted
  simp only [upkeep]
  split
  · exact closed
  · exact performed closed .unzoomMissing trivial

omit [Interface U] in
theorem frame_geometry {world : World} (succeeds : ∀ process, world.resizeFails process = false) {l : Loop R G U}
    (geometry : l.core.Geometry) (input : FrameInput) : (l.frame format world input).core.Geometry := by
  have drawn (targets : Option (List Nat)) : (l.core.apply format world (.render targets)).Geometry :=
    Core.apply_geometry succeeds geometry format (.render targets) trivial
  simp only [frame]
  split
  · split
    · exact drawn (some (l.synced world input))
    · exact drawn (some (l.synced world input))
  · exact drawn none

theorem step_geometry {l : Loop R G U} (geometry : l.core.Geometry) (label : World × LoopOp R G U)
    (keeps : l.KeepsScreen format label) : (l.step format label).core.Geometry := by
  obtain ⟨world, op⟩ := label
  obtain ⟨succeeds, handles⟩ := keeps
  have applied {c : Core R G} (geometry : c.Geometry) (op : Op R) (keeps : c.KeepsGeometry op) :
      (c.apply format world op).Geometry := Core.apply_geometry succeeds geometry format op keeps
  have performs (l : Loop R G U) (op : Op R) (geometry : l.core.Geometry) (_ : op.handled = true)
      (keeps : l.core.KeepsGeometry op) : (l.perform format world op).core.Geometry := applied geometry op keeps
  have resizes (l : Loop R G U) (tw th : Nat) (geometry : l.core.Geometry) :
      (l.perform format world (.resizeTerminal tw th)).core.Geometry := applied geometry (.resizeTerminal tw th) trivial
  have saves (l : Loop R G U) (geometry : l.core.Geometry) : (l.perform format world .save).core.Geometry :=
    applied geometry .save trivial
  have borders (l : Loop R G U) (geometry : l.core.Geometry) : l.core.markBorders.Geometry :=
    applied geometry .markBorders trivial
  simp only [step]
  split
  · exact geometry
  cases op with
  | upkeep feeds => exact upkeep_geometry succeeds geometry feeds
  | front handler => exact handle_invariant geometry_indifferent.toInert performs geometry handler handles
  | attach w h mode connected =>
      exact acceptClient_invariant geometry_indifferent resizes (fun _ _ _ _ geometry => geometry) borders geometry w h mode
        connected
  | message id msg => exact message_invariant geometry_indifferent performs geometry id msg handles
  | outputFailed id => exact geometry
  | settle => exact settle_invariant geometry_indifferent resizes saves geometry
  | frame input => exact frame_geometry succeeds geometry input
  | kill => exact geometry

/-- Where only leaves with the same grid are swapped and the settings panel neither adds nor drops
the frame, every frame is composed from a coherent screen. -/
theorem frames_coherent (format : SnapshotFormat R) {bootWorld : World} {config : LaunchConfig} {startup : Startup R}
    {session : Session R G} (booted : boot format bootWorld config startup = .ok session) (ui : U)
    {log : List (Loop R G U × (World × LoopOp R G U))} {l : Loop R G U}
    (history : Machine.History (step format) { core := { session }, ui } log l)
    (keeps : ∀ entry ∈ log, entry.1.KeepsScreen format entry.2) :
    ∀ entry ∈ log, ∀ world input, entry.2 = (world, .frame input) → entry.1.composes world input = true →
      (entry.1.core.refresh world).Coherent := by
  intro entry member world input _ composed
  have geometry := (history.invariant (fun l => l.core.Geometry) (KeepsScreen format)
    (fun l label geometry keeps => step_geometry geometry label keeps) (boot_geometry booted) keeps).2 entry member
  simp only [composes, Bool.and_eq_true] at composed
  exact refresh_coherent geometry composed.2

/-- A client attaches, and the shell's pane is split and made wider. -/
def widened : List (World × LoopOp ℚ RawDisplay Unit) :=
  [({}, .attach 80 24 .shared true), ({}, .front fun _ _ => [.op (.split 0 .horizontal)]),
    ({}, .front fun _ _ => [.op (.resizePane .right (1 / 20))])]

/-- The wide and the narrow pane change places. -/
def swapped : List (World × LoopOp ℚ RawDisplay Unit) := widened ++ [(({} : World), .front fun _ _ => [.op (.swap 1)])]


theorem swapped_incoherent :
    ¬∀ (log : List (Loop ℚ RawDisplay Unit × (World × LoopOp ℚ RawDisplay Unit))) (l : Loop ℚ RawDisplay Unit),
      Machine.History (step plainFormat) { core := { session := oneShell }, ui := () } log l →
      (∀ entry ∈ log, ∀ process, entry.2.1.resizeFails process = false) →
      ∀ entry ∈ log, ∀ world input, entry.2 = (world, .frame input) → entry.1.composes world input = true →
        (entry.1.core.refresh world).Coherent := by
  intro claimed
  have run := Machine.History.of_labels (step plainFormat)
    ({ core := { session := oneShell }, ui := () } : Loop ℚ RawDisplay Unit) swapped
  have coherent := claimed _ _ (run.step ({}, .frame { due := true })) ?_ _
    (List.mem_append_right _ (List.mem_singleton_self _)) {} { due := true } rfl (by decide +kernel)
  · -- the first pane keeps its 42 columns on a rectangle of 35
    have grids : let screen := (swapped.foldl (step plainFormat) { core := { session := oneShell }, ui := () }).core.refresh {}
        screen.session.tab.zoomedPane = none ∧
          screen.session.tab.panes[0]?.map (fun pane => Vt100.size pane.parser) = some (21, 42) ∧
          (screen.session.tab.layout.paneRects screen.session.contentArea)[0]?.map (fun rect => (max rect.h 1, max rect.w 1)) =
            some (21, 35) := by
      decide +kernel
    obtain ⟨pane, found, size⟩ := Option.map_eq_some_iff.mp grids.2.1
    obtain ⟨rect, placed, shape⟩ := Option.map_eq_some_iff.mp grids.2.2
    obtain ⟨other, there, fits⟩ := coherent.grids grids.1 0 pane found
    cases there.symm.trans placed
    rw [size, shape] at fits
    cases fits
  · simp [swapped, widened, Machine.trace]

theorem widened_coherent :
    ((widened.foldl (step plainFormat) { core := { session := oneShell }, ui := () }).core.refresh {}).Coherent := by
  have run := Machine.History.of_labels (step plainFormat)
    ({ core := { session := oneShell }, ui := () } : Loop ℚ RawDisplay Unit) widened
  refine frames_coherent plainFormat oneShell_booted () (run.step ({}, .frame { due := true })) ?_ _
    (List.mem_append_right _ (List.mem_singleton_self _)) {} { due := true } rfl (by decide +kernel)
  simp only [widened, Machine.trace, List.cons_append, List.nil_append, List.forall_mem_cons]
  exact ⟨⟨fun _ => rfl, trivial⟩, ⟨fun _ => rfl, fun _ => trivial, trivial⟩, ⟨fun _ => rfl, fun _ => trivial, trivial⟩,
    ⟨fun _ => rfl, trivial⟩, by simp⟩

end Loop

end Ezpn
