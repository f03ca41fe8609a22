import Ezpn.Session

/-!
# Saving and restoring sessions

How a live session becomes a snapshot, and how a snapshot or another start-up
choice becomes a live session.
-/

set_option autoImplicit false

namespace Ezpn

/-! ## Capture -/

section Capture
variable {R G : Type} [Vt100 G]

def plainShellSnapshot (id : Nat) : PaneSnapshot :=
  { id, launch := .shell, name := none, cwd := none, env := ∅, restart := .never, shell := none
    scrollback := none, cursorPos := none }

omit [Vt100 G] in
def snapshotPane (world : World) (panes : PaneMap G) (restartPolicies : IdMap RestartPolicy) (id : Nat) :
    PaneSnapshot :=
  let pane := panes[id]?
  if pane.any (·.snapshotSensitive) then plainShellSnapshot id
  else
    { id
      launch := (pane.map (·.launch)).getD .shell
      name := pane.bind (·.name)
      cwd := pane.bind (·.liveCwd world)
      env := (pane.map (·.initialEnv)).getD ∅
      restart := restartPolicies[id]?.getD .never
      shell := pane.bind (·.initialShell)
      scrollback := none
      cursorPos := none }

omit [Vt100 G] in
def snapshotTab (world : World) (tab : Tab R G) : TabSnapshot R :=
  { name := tab.name
    layout := tab.layout
    activePane := tab.activePane
    zoomedPane := tab.zoomedPane
    broadcast := tab.broadcast
    panes := tab.layout.paneIds.map (snapshotPane world tab.panes tab.restartPolicies) }

/-- History of one pane, where it is kept; the dump leaves the pane's view in place. -/
def captureScrollback (format : SnapshotFormat R) (persistDefault : Bool) (overrides : IdMap Bool)
    (panes : PaneMap G) (saved : PaneSnapshot) : PaneMap G × Except String PaneSnapshot :=
  let saved := { saved with scrollback := none, cursorPos := none }
  match panes[saved.id]? with
  | none => (panes, .ok saved)
  | some pane =>
      if pane.snapshotSensitive then (panes, .ok (plainShellSnapshot saved.id))
      else if !overrides[saved.id]?.getD persistDefault then (panes, .ok saved)
      else
        let (pane, text) := pane.dumpText true
        let panes := panes.insert saved.id pane
        match ScrollbackBlob.encodeBincodeGz format (text.map fun text => { text, attrs := [] }) with
        | .error message => (panes, .error message)
        | .ok blob =>
            (panes, .ok { saved with scrollback := some blob, cursorPos := some (Vt100.cursorPosition pane.parser) })

def capturePanes (format : SnapshotFormat R) (persistDefault : Bool) (overrides : IdMap Bool) :
    PaneMap G → List PaneSnapshot → PaneMap G × Except String (List PaneSnapshot)
  | panes, [] => (panes, .ok [])
  | panes, saved :: rest =>
      match captureScrollback format persistDefault overrides panes saved with
      | (panes, .error message) => (panes, .error message)
      | (panes, .ok saved) =>
          match capturePanes format persistDefault overrides panes rest with
          | (panes, .error message) => (panes, .error message)
          | (panes, .ok rest) => (panes, .ok (saved :: rest))

omit [Vt100 G] in
def persistOverrides (panes : PaneMap G) : IdMap Bool := panes.filterMap fun _ pane => pane.persistScrollbackOverride

/-- `capture_tab_scrollback`, on the tab's live panes and its snapshot. -/
def captureTabScrollback (format : SnapshotFormat R) (persistDefault : Bool) (tab : Tab R G)
    (saved : TabSnapshot R) : Tab R G × Except String (TabSnapshot R) :=
  match capturePanes format persistDefault (persistOverrides tab.panes) tab.panes saved.panes with
  | (panes, .error message) => ({ tab with panes }, .error message)
  | (panes, .ok captured) => ({ tab with panes }, .ok { saved with panes := captured })

/-- Attach history to the snapshots of the stored tabs, stopping at the first failure. -/
def captureStored (format : SnapshotFormat R) (persistDefault : Bool) :
    List (Tab R G × TabSnapshot R) → List (Tab R G) × Except String (List (TabSnapshot R))
  | [] => ([], .ok [])
  | (tab, saved) :: rest =>
      match captureTabScrollback format persistDefault tab saved with
      | (tab, .error message) => (tab :: rest.map (·.1), .error message)
      | (tab, .ok saved) =>
          match captureStored format persistDefault rest with
          | (tabs, .error message) => (tab :: tabs, .error message)
          | (tabs, .ok rest) => (tab :: tabs, .ok (saved :: rest))

end Capture

namespace Session
variable {R G : Type} [RatioOps R] [Vt100 G]

omit [RatioOps R] [Vt100 G] in
/-- `WorkspaceSnapshot::from_live` -/
def fromLive (world : World) (s : Session R G) : WorkspaceSnapshot R :=
  { version := snapshotVersion
    shell := s.shell
    borderStyle := s.settings.borderStyle
    showStatusBar := s.settings.showStatusBar
    showTabBar := s.settings.showTabBar
    scrollback := s.scrollback
    activeTab := s.tabMgr.activeIdx
    tabs := (List.range s.tabMgr.count).filterMap fun i =>
      if i = s.tabMgr.activeIdx then some (snapshotTab world s.tab)
      else (s.tabMgr.getInactive i).map (snapshotTab world) }

/-- `capture_snapshot`: the active tab's history first, then the stored tabs' in order. -/
def capture (format : SnapshotFormat R) (world : World) (s : Session R G) :
    Session R G × Except String (WorkspaceSnapshot R) :=
  let snapshot := s.fromLive world
  match captureTabScrollback format s.persistScrollback s.tab (snapshotTab world s.tab) with
  | (tab, .error message) => ({ s with tab }, .error message)
  | (tab, .ok active) =>
      let stored := s.tabMgr.tabs.zip (snapshot.tabs.eraseIdx s.tabMgr.activeIdx)
      match captureStored format s.persistScrollback stored with
      | (tabs, .error message) => ({ s with tab, tabMgr := s.tabMgr.replaceStored tabs }, .error message)
      | (tabs, .ok inactive) =>
          let snapshot := { snapshot with tabs := inactive.insertIdx s.tabMgr.activeIdx active }
          ({ s with tab, tabMgr := s.tabMgr.replaceStored tabs }, snapshot.validate.map fun () => snapshot)

end Session

/-! ## Restoring -/

section Restore
variable {R G : Type} [RatioOps R] [Vt100 G]

/-- Only policies that restart are kept. -/
def restartsOf (saved : List PaneSnapshot) : IdMap RestartPolicy :=
  saved.foldl (fun restarts pane =>
    if pane.restart = .never then restarts else restarts.insert pane.id pane.restart) ∅

omit [RatioOps R] [Vt100 G] in
def Tab.restore (saved : TabSnapshot R) (panes : PaneMap G) : Tab R G :=
  { name := saved.name
    layout := saved.layout
    panes
    activePane := saved.activePane
    restartPolicies := restartsOf saved.panes
    zoomedPane := saved.zoomedPane
    broadcast := saved.broadcast }

/-- Spawn the tabs in order; `ready` gives the panes of a tab that has them already. -/
def spawnTabs (format : SnapshotFormat R) (world : World) (shell : String) (tw th : Nat) (settings : Settings)
    (scrollback : Nat) (ready : Nat → Option (PaneMap G)) :
    (idx spawns : Nat) → List (TabSnapshot R) → Except String (List (Tab R G)) × Nat
  | _, spawns, [] => (.ok [], spawns)
  | idx, spawns, saved :: rest =>
      let spawned := match ready idx with
        | some panes => (Except.ok panes, spawns)
        | none => spawnSnapshotPanes format world spawns saved.layout saved shell tw th settings scrollback
      match spawned with
      | (.error message, spawns) => (.error message, spawns)
      | (.ok panes, spawns) =>
          match spawnTabs format world shell tw th settings scrollback ready (idx + 1) spawns rest with
          | (.error message, spawns) => (.error message, spawns)
          | (.ok tabs, spawns) => (.ok (Tab.restore saved panes :: tabs), spawns)

/-- IPC `Load`: the complete replacement is prepared first, so that a failure
leaves the running processes alone. -/
def Session.load (format : SnapshotFormat R) (world : World) (path : String) (s : Session R G) :
    Session R G × Except String Unit :=
  match loadSnapshot format path with
  | .error message => (s, .error message)
  | .ok snapshot =>
      let next : Settings :=
        { Settings.new snapshot.borderStyle with
          tabCount := snapshot.tabs.length
          showStatusBar := snapshot.showStatusBar
          showTabBar := snapshot.showTabBar }
      match spawnTabs format world snapshot.shell s.tw s.th next snapshot.scrollback (fun _ => none) 0 s.spawns
          snapshot.tabs with
      | (.error message, spawns) => ({ s with spawns }, .error message)
      | (.ok tabs, spawns) =>
          if nonempty : 0 < tabs.length then
            let (mgr, active) := TabManager.fromTabs tabs snapshot.activeTab nonempty
            let settings : Settings :=
              { s.settings with
                borderStyle := next.borderStyle
                showStatusBar := next.showStatusBar
                showTabBar := next.showTabBar
                tabCount := mgr.count }
            ({ s with tab := active, tabMgr := mgr, settings, shell := snapshot.shell, spawns }, .ok ())
          else ({ s with spawns }, .error "assertion failed: !tabs.is_empty()")

/-! ## Start-up -/

/-- What the daemon starts from, once the command line and the project files are read. -/
inductive Startup (R : Type) where
  | restore (path : String)
  | project (proj : ResolvedProject R)
  | procfile (contents : String)
  | grid (rows cols : Nat) (commands : List String)
  | spec (spec : String) (commands : List String)

/-- The limits that reading the command line and the project files has enforced. -/
def Startup.Accepted : Startup R → Prop
  | restore _ => True
  | project proj => ∃ rows cols, (proj.layout = Layout.fromGrid rows cols ∧ rows * cols ≤ 100) ∨
      ∃ spec, Layout.fromSpec spec = .ok proj.layout
  | procfile _ => True
  | grid rows cols _ => 1 ≤ rows ∧ 1 ≤ cols ∧ rows * cols ≤ 100
  | spec _ _ => True

/-- Config and command-line values that a session starts with. -/
structure LaunchConfig where
  shell : String
  border : BorderStyle
  showStatusBar : Bool
  showTabBar : Bool
  scrollback : Nat
  scrollbackBytes : Nat
  clipboardPolicy : ClipboardPolicy
  persistScrollback : Bool

/-- Budget and policy for the panes spawned at boot. -/
def configureAll (config : LaunchConfig) (panes : PaneMap G) : PaneMap G :=
  panes.map fun _ pane => (pane.setScrollbackBudget config.scrollbackBytes).setClipboardPolicy config.clipboardPolicy

def LaunchConfig.session (config : LaunchConfig) (tab : Tab R G) (spawns : Nat) : Session R G :=
  { tab
    tabMgr := {}
    settings :=
      { Settings.new config.border with
        showStatusBar := config.showStatusBar
        showTabBar := config.showTabBar }
    shell := config.shell
    scrollback := config.scrollback
    scrollbackBytes := config.scrollbackBytes
    clipboardPolicy := config.clipboardPolicy
    persistScrollback := config.persistScrollback
    spawns }

/-- Start with a layout and its launches, on the 80x24 screen that a session has
before any client attaches. -/
def bootLayout (world : World) (config : LaunchConfig) (layout : Layout R) (launches : IdMap PaneLaunch) :
    Except String (Session R G) :=
  let unspawned : Session R G := config.session { name := "1", layout, panes := ∅, activePane := 0 } 0
  match spawnLayoutPanes world 0 layout launches config.shell 80 24 unspawned.settings config.scrollback with
  | (.error message, _) => .error message
  | (.ok panes, spawns) =>
      .ok (config.session
        { name := "1"
          layout
          panes := configureAll config panes
          activePane := layout.paneIds.head?.getD 0 } spawns)

def bootProject (world : World) (config : LaunchConfig) (proj : ResolvedProject R) :
    Except String (Session R G) :=
  let unspawned : Session R G := config.session { name := "1", layout := proj.layout, panes := ∅, activePane := 0 } 0
  match spawnProjectPanes world 0 proj config.shell 80 24 unspawned.settings config.scrollback with
  | (.error message, _) => .error message
  | (.ok panes, spawns) =>
      .ok (config.session
        { name := "1"
          layout := proj.layout
          panes := configureAll config panes
          activePane := proj.layout.paneIds.head?.getD 0
          restartPolicies := proj.restarts } spawns)

/-- `--restore`: the active tab first, then the others in order around it. -/
def bootSnapshot (format : SnapshotFormat R) (world : World) (config : LaunchConfig) (path : String) :
    Except String (Session R G) :=
  match loadSnapshot format path with
  | .error message => .error message
  | .ok snapshot =>
      match snapshot.tabs[snapshot.activeTab]? with
      | none => .error "index out of bounds"
      | some saved =>
          let settings : Settings :=
            { Settings.new snapshot.borderStyle with
              tabCount := snapshot.tabs.length
              showStatusBar := snapshot.showStatusBar
              showTabBar := snapshot.showTabBar }
          match spawnSnapshotPanes format world 0 saved.layout saved snapshot.shell 80 24 settings
              snapshot.scrollback with
          | (.error message, _) => .error message
          | (.ok panes, spawns) =>
              let panes := configureAll config panes
              let ready (idx : Nat) := if idx = snapshot.activeTab then some panes else none
              match spawnTabs format world snapshot.shell 80 24 settings snapshot.scrollback ready 0 spawns
                  snapshot.tabs with
              | (.error message, _) => .error message
              | (.ok tabs, spawns) =>
                  if nonempty : 0 < tabs.length then
                    let (mgr, active) := TabManager.fromTabs tabs snapshot.activeTab nonempty
                    let s : Session R G := config.session active spawns
                    .ok { s with tabMgr := mgr, settings, shell := snapshot.shell }
                  else .error "assertion failed: !tabs.is_empty()"

/-- `build_initial_state` and the restoring of tabs that follows it. -/
def boot (format : SnapshotFormat R) (world : World) (config : LaunchConfig) :
    Startup R → Except String (Session R G)
  | .restore path => bootSnapshot format world config path
  | .project proj => bootProject world config proj
  | .procfile contents =>
      match tryLoadProcfile (R := R) contents.toList with
      | some (layout, launches) => bootLayout world config layout launches
      | none => bootLayout world config (.fromGrid 1 2) ∅
  | .grid rows cols commands =>
      let layout : Layout R := .fromGrid rows cols
      bootLayout world config layout (buildCommandLaunches layout commands)
  | .spec spec commands =>
      match Layout.fromSpec spec.toList with
      | .error message => .error message
      | .ok layout => bootLayout world config layout (buildCommandLaunches layout commands)

end Restore

end Ezpn
