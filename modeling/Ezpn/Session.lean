import Ezpn.Tab

/-!
# Sessions

The part of the server loop's state that outlives its clients: the tabs, the
settings, the terminal size and what the config fixes. Operations here are the
sequences of calls that the loop and its handlers make on that state.
-/

set_option autoImplicit false

namespace Ezpn

structure Session (R G : Type) where
  /-- the active tab, unpacked -/
  tab : Tab R G
  tabMgr : TabManager R G
  settings : Settings
  shell : String
  tw : Nat := 80
  th : Nat := 24
  /-- the config's history limit, not a loaded snapshot's -/
  scrollback : Nat
  scrollbackBytes : Nat
  clipboardPolicy : ClipboardPolicy
  persistScrollback : Bool
  /-- how many spawns have been tried; the code does not keep it -/
  spawns : Nat := 0

namespace Session
variable {R G : Type} [RatioOps R] [Vt100 G]

omit [RatioOps R] [Vt100 G] in
/-- All tabs in order. -/
def tabs (s : Session R G) : List (Tab R G) := s.tabMgr.withActive s.tab

omit [RatioOps R] [Vt100 G] in
def contentArea (s : Session R G) : Rect := terminalContentArea s.tw s.th s.settings

/-! ## The active tab -/

omit [RatioOps R] [Vt100 G] in
def setPanes (panes : PaneMap G) (s : Session R G) : Session R G := { s with tab.panes := panes }

omit [RatioOps R] [Vt100 G] in
def setLayout (layout : Layout R) (s : Session R G) : Session R G := { s with tab.layout := layout }

omit [RatioOps R] [Vt100 G] in
def focus (id : Nat) (s : Session R G) : Session R G := { s with tab.activePane := id }

def resizeAll (world : World) (s : Session R G) : Session R G :=
  s.setPanes (Ezpn.resizeAll world s.tab.panes s.tab.layout s.tw s.th s.settings)

omit [RatioOps R] in
def resizeZoomedPane (world : World) (id : Nat) (s : Session R G) : Session R G :=
  s.setPanes (Ezpn.resizeZoomedPane world s.tab.panes id s.tw s.th s.settings)

def doSplit (world : World) (target : Nat) (dir : Direction) (s : Session R G) :
    Session R G × Except String Unit :=
  let outcome := Ezpn.doSplit world s.spawns s.tab.layout s.tab.panes target dir s.shell s.tw s.th s.settings
    s.scrollback
  ({ s with tab.layout := outcome.state.1, tab.panes := outcome.state.2, spawns := outcome.spawns }, outcome.result)

omit [RatioOps R] [Vt100 G] in
def closePane (target : Nat) (s : Session R G) : Session R G :=
  let (layout, panes, active) := Ezpn.closePane s.tab.layout s.tab.panes s.tab.activePane target
  { s with tab.layout := layout, tab.panes := panes, tab.activePane := active }

def replacePane (world : World) (target : Nat) (launch : PaneLaunch) (shell : String) (s : Session R G) :
    Session R G × Except String Unit :=
  let outcome := Ezpn.replacePane world s.spawns s.tab.panes s.tab.layout target launch shell s.tw s.th s.settings
    s.scrollback
  ({ s with tab.panes := outcome.state, spawns := outcome.spawns }, outcome.result)

/-- Enter on a dead pane: run its launch again, keeping its name and shell. -/
def respawn (world : World) (s : Session R G) : Session R G :=
  match s.tab.panes[s.tab.activePane]? with
  | none => s
  | some old =>
      if old.alive then s
      else
        let (next, result) := s.replacePane world s.tab.activePane old.launch (old.initialShell.getD s.shell)
        match result with
        | .error _ => next
        | .ok () => next.setPanes (next.tab.panes.modify s.tab.activePane fun pane =>
            { pane with name := old.name, initialShell := old.initialShell.or pane.initialShell })

/-- Byte budget and clipboard policy for a pane of the active tab. -/
def configurePane (id : Nat) (s : Session R G) : Session R G :=
  s.setPanes (s.tab.panes.modify id fun pane =>
    (pane.setScrollbackBudget s.scrollbackBytes).setClipboardPolicy s.clipboardPolicy)

/-! ## Tab actions -/

omit [RatioOps R] [Vt100 G] in
/-- Unpack a tab that the manager has handed over. -/
def enter (mgr : TabManager R G) (tab : Tab R G) (s : Session R G) : Session R G := { s with tabMgr := mgr, tab }

omit [RatioOps R] [Vt100 G] in
def syncTabCount (s : Session R G) : Session R G := { s with settings.tabCount := s.tabMgr.count }

/-- `TabAction::NewTab` and whether its pane was spawned. When not, the empty tab
is closed and another restored. -/
def newTab (world : World) (requestedName : Option String) (s : Session R G) : Session R G × Bool :=
  let inheritCwd := s.tab.panes[s.tab.activePane]?.bind fun pane => pane.liveCwd world
  let (mgr, name) := s.tabMgr.createTab s.tab
  let opened : Tab R G :=
    { name := requestedName.getD name
      layout := Layout.fromGrid 1 1
      panes := ∅
      activePane := s.tab.activePane
      broadcast := s.tab.broadcast }
  let s := (s.enter mgr opened).syncTabCount
  -- the new layout has one leaf
  let (pid, rect) := (s.tab.layout.paneRects s.contentArea).toList.head?.getD (0, s.contentArea)
  match spawnPaneIn world s.spawns s.shell .shell (max rect.w 1) (max rect.h 1) s.scrollback inheritCwd with
  | .ok pane =>
      let pane := (pane.setScrollbackBudget s.scrollbackBytes).setClipboardPolicy s.clipboardPolicy
      ({ s with
          tab.panes := s.tab.panes.insert pid pane
          tab.activePane := pid
          tab.broadcast := false
          spawns := s.spawns + 1 }, true)
  | .error _ =>
      let s := { s with spawns := s.spawns + 1 }
      match s.tabMgr.closeActive with
      | some (mgr, restored) => (((s.enter mgr restored).syncTabCount).resizeAll world, false)
      | none => (s, false)

/-- `NextTab`, `PrevTab` and `GoToTab`; `none` when the target is the active tab or none. -/
def goToTab (world : World) (target : Nat) (s : Session R G) : Option (Session R G) :=
  (s.tabMgr.switchTo target s.tab).map fun (mgr, tab) => (s.enter mgr tab).resizeAll world

/-- Close the active tab after its panes are killed; `none` for the only one. -/
def closeTab (world : World) (s : Session R G) : Option (Session R G) :=
  s.tabMgr.closeActive.map fun (mgr, tab) => ((s.enter mgr tab).syncTabCount).resizeAll world

omit [RatioOps R] [Vt100 G] in
def renameTab (name : String) (s : Session R G) : Session R G := { s with tab.name := name }

end Session

end Ezpn
