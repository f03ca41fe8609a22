import Ezpn.Border
import Ezpn.Lib.Machine
import Ezpn.Session.Snapshot

/-!
# The core of the server loop

The loop variables that the session's integrity rests on, and what each part of
the loop and of its handlers does to them. A handler is a sequence of these
operations; everything else it changes is the user interface around them.
-/

set_option autoImplicit false

namespace Ezpn

/-- A pending confirm prompt: the pane it is about, by its id within its tab. -/
structure Osc52ConfirmState where
  paneId : Nat
  byteCount : Nat
  queuedPayloads : List Envelope

structure Core (R G : Type) where
  session : Session R G
  borderCache : Option BorderCache := none
  /-- `update.border_dirty` -/
  borderDirty : Bool := false
  /-- panes of the active tab that the loop has met; at first, those spawned at boot -/
  spawnedSeen : List Nat := session.tab.panes.keys
  osc52Confirm : Option Osc52ConfirmState := none

/-- What a handler does to a single pane. -/
inductive PaneOp where
  | write (bytes : Bytes)
  | scrollUp (lines : Nat)
  | scrollDown (lines : Nat)
  | snapToBottom
  | syncScrollback
  | resetScrollbackView
  /-- an envelope of the user's own copy -/
  | copyOut (payload : Envelope)
  | dump (includeScrollback : Bool)

inductive Osc52Answer where
  | yes
  | no
  /-- Esc -/
  | later
  deriving DecidableEq, Repr

inductive Op (R : Type) where
  -- upkeep of the loop
  | read (feeds : Nat → Pane.Feed)
  | prompt
  | restart
  | restartInactive
  | unzoomMissing
  /-- refresh the screen, and compose a frame that draws these panes if one is due -/
  | render (targets : Option (List Nat))
  -- terminal and config
  | resizeTerminal (tw th : Nat)
  | reload (border : BorderStyle) (showStatusBar showTabBar themeChanged : Bool)
  | requestReload (requested : Bool)
  | markBorders
  -- layout
  | split (target : Nat) (dir : Direction)
  | close (target : Nat)
  | equalize
  | refit
  | resizePane (dir : NavDir) (delta : R)
  | setRatio (path : List Bool) (ratio : R)
  | swap (other : Nat)
  | reconfigure (spec : String)
  -- focus and zoom
  | focus (id : Nat)
  | zoom (id : Nat)
  | unzoom
  | setBroadcast (on : Bool)
  -- settings
  | showStatusBar (on : Bool)
  | showTabBar (on : Bool)
  | togglePanel
  | panelKey (key : KeyEvent)
  | panelClick (x y : Nat)
  -- panes
  | pane (id : Nat) (op : PaneOp)
  | respawn
  | exec (id : Nat) (command : String)
  | answer (answer : Osc52Answer)
  -- tabs
  | newTab (name : Option String)
  | goToTab (target : Nat)
  | closeTab
  | renameTab (name : String)
  -- snapshots
  | save
  | load (path : String)

section Apply
variable {R G : Type} [RatioOps R] [Vt100 G]

def PaneOp.apply (op : PaneOp) (pane : Pane G) : Pane G :=
  match op with
  | write bytes => pane.writeBytes bytes
  | scrollUp lines => pane.scrollUp lines
  | scrollDown lines => pane.scrollDown lines
  | snapToBottom => pane.snapToBottom
  | syncScrollback => pane.syncScrollback
  | resetScrollbackView => pane.resetScrollbackView
  | copyOut payload => { pane with osc52Pending := pane.osc52Pending ++ [payload] }
  | dump includeScrollback => (pane.dumpText includeScrollback).1

/-- Read a pane of the active tab: its output, the synchronized-update watchdog,
and the clipboard sequences that leave for the clients. -/
def Pane.serve (world : World) (feed : Pane.Feed) (pane : Pane G) : Pane G :=
  ((pane.readOutput world feed).1.syncWatchdog world).1.takeOsc52.1

/-- Restart the dead panes of background tabs, one tab after another. The loop ignores
which panes those are. -/
def restartTabs (world : World) (shell : String) (tw th : Nat) (settings : Settings) (scrollback : Nat) :
    (spawns : Nat) → List (Tab R G) → List (Tab R G × List Nat) × Nat
  | spawns, [] => ([], spawns)
  | spawns, tab :: tabs =>
      let outcome := restartPanes world spawns tab.panes tab.layout tab.restartPolicies tab.restartState shell tw th
        settings scrollback
      let (rest, spawns) := restartTabs world shell tw th settings scrollback outcome.spawns tabs
      (({ tab with panes := outcome.panes, restartState := outcome.state }, outcome.restarted) :: rest, spawns)

namespace Core

/-- The cache that the current geometry asks for. -/
def freshCache (c : Core R G) : BorderCache :=
  borderCacheFor c.session.tab.layout c.session.tw c.session.th c.session.settings

omit [RatioOps R] [Vt100 G] in
def markBorders (c : Core R G) : Core R G := { c with borderDirty := true }

/-- Fit the panes to the layout and ask for new borders. -/
def refit (world : World) (c : Core R G) : Core R G :=
  { c with session := c.session.resizeAll world, borderDirty := true }

/-- The same with the zoomed pane, if any, on the whole content area. -/
def refitZoomed (world : World) (c : Core R G) : Core R G :=
  let c := c.refit world
  match c.session.tab.zoomedPane with
  | some id => { c with session := c.session.resizeZoomedPane world id }
  | none => c

/-- Another tab has been unpacked: its borders are built at once. -/
def retab (session : Session R G) (c : Core R G) : Core R G :=
  let c := { c with session }
  { c with borderCache := some c.freshCache, borderDirty := true }

/-- Panes that the loop has not met get the configured budget and policy. -/
def detectSpawned (c : Core R G) : Core R G :=
  let newlySpawned := c.session.tab.panes.keys.filter fun pid => !c.spawnedSeen.contains pid
  { c with
    session := newlySpawned.foldl (fun session pid => session.configurePane pid) c.session
    spawnedSeen := (c.spawnedSeen ++ newlySpawned).filter c.session.tab.panes.contains }

/-- Read every pane, of background tabs first. -/
def readAll (world : World) (feeds : Nat → Pane.Feed) (c : Core R G) : Core R G :=
  let mgr := c.session.tabMgr.mapInactive fun tab =>
    { tab with panes := tab.panes.map fun _ pane => (pane.readOutput world (feeds pane.process)).1 }
  let session := { c.session with tabMgr := mgr }
  { c with session := session.setPanes (session.tab.panes.map fun _ pane => pane.serve world (feeds pane.process)) }

omit [RatioOps R] [Vt100 G] in
/-- Without a prompt, raise one for the first pane that waits for an answer. -/
def drainPrompt (c : Core R G) : Core R G :=
  if c.osc52Confirm.isSome then c
  else match c.session.tab.panes.toList.find? fun (_, pane) => !pane.state.osc52PendingConfirm.isEmpty with
    | none => c
    | some (paneId, pane) =>
        let (pane, pending) := pane.takeOsc52PendingConfirm
        { c with
          session := c.session.setPanes (c.session.tab.panes.insert paneId pane)
          osc52Confirm := some
            { paneId, byteCount := (pending.map (·.bytes.length)).sum, queuedPayloads := pending } }

/-- Restart dead panes of the active tab, with the configured budget and policy. -/
def restart (world : World) (c : Core R G) : Core R G :=
  let s := c.session
  let outcome := restartPanes world s.spawns s.tab.panes s.tab.layout s.tab.restartPolicies s.tab.restartState s.shell
    s.tw s.th s.settings s.scrollback
  let s := { s with tab.panes := outcome.panes, tab.restartState := outcome.state, spawns := outcome.spawns }
  { c with session := outcome.restarted.foldl (fun session pid => session.configurePane pid) s }

/-- What restarting the background tabs would leave. -/
def restartedTabs (world : World) (c : Core R G) : List (Tab R G × List Nat) × Nat :=
  let s := c.session
  restartTabs world s.shell s.tw s.th s.settings s.scrollback s.spawns s.tabMgr.tabs

def restartInactive (world : World) (c : Core R G) : Core R G :=
  let (tabs, spawns) := c.restartedTabs world
  { c with session := { c.session with tabMgr := c.session.tabMgr.replaceStored (tabs.map (·.1)), spawns } }

def unzoom (world : World) (c : Core R G) : Core R G :=
  { c with session.tab.zoomedPane := none }.refit world

omit [RatioOps R] [Vt100 G] in
def modifyPane (id : Nat) (change : Pane G → Pane G) (c : Core R G) : Core R G :=
  { c with session := c.session.setPanes (c.session.tab.panes.modify id change) }

def rebuildBorders (c : Core R G) : Core R G :=
  if c.borderDirty then { c with borderCache := some c.freshCache, borderDirty := false } else c

omit [RatioOps R] in
/-- The zoom follows the focus. -/
def followZoom (world : World) (c : Core R G) : Core R G :=
  if c.session.tab.zoomedPane.isSome then
    let active := c.session.tab.activePane
    { c with session := { c.session with tab.zoomedPane := some active }.resizeZoomedPane world active }
  else c

/-- The state that a frame is composed from. -/
def refresh (world : World) (c : Core R G) : Core R G := c.rebuildBorders.followZoom world

omit [RatioOps R] in
/-- Drawing a pane moves its view to the scroll offset and back. -/
def draw (targets : List Nat) (c : Core R G) : Core R G :=
  targets.foldl (fun c id => c.modifyPane id fun pane => pane.syncScrollback.resetScrollbackView) c

/-- What the settings panel has decided; bar changes refit the panes, border changes do not. -/
def panel (world : World) (outcome : Settings × SettingsAction) (c : Core R G) : Core R G :=
  let before := c.session.settings
  let broadcast := c.session.tab.broadcast
  let c := { c with
    session.settings := outcome.1
    session.tab.broadcast := if outcome.2 = .broadcastToggle then !broadcast else broadcast }
  if outcome.1.showStatusBar ≠ before.showStatusBar || outcome.1.showTabBar ≠ before.showTabBar then c.refit world
  else c

omit [RatioOps R] in
def answer (reply : Osc52Answer) (c : Core R G) : Core R G :=
  match c.osc52Confirm with
  | none => c
  | some prompt =>
      let settle := match reply with
        | .yes => Pane.acceptOsc52 prompt.queuedPayloads
        | .no => Pane.setOsc52Decision .denied
        | .later => Pane.requeueOsc52PendingConfirm prompt.queuedPayloads
      { c.modifyPane prompt.paneId settle with osc52Confirm := none }

def load (format : SnapshotFormat R) (world : World) (path : String) (c : Core R G) : Core R G :=
  match c.session.load format world path with
  | (session, .error _) => { c with session }
  | (session, .ok ()) => { c with session, spawnedSeen := [], osc52Confirm := none, borderDirty := true }

def apply (format : SnapshotFormat R) (world : World) (op : Op R) (c : Core R G) : Core R G :=
  let s := c.session
  match op with
  | .read feeds => c.detectSpawned.readAll world feeds
  | .prompt => c.drainPrompt
  | .restart => c.restart world
  | .restartInactive => c.restartInactive world
  | .unzoomMissing => if s.tab.zoomedPane.any fun id => !s.tab.panes.contains id then c.unzoom world else c
  | .render targets => (c.refresh world).draw (targets.getD [])
  | .resizeTerminal tw th => { c with session := { s with tw, th } }.refitZoomed world
  | .reload border showStatusBar showTabBar themeChanged =>
      let visual := s.settings.borderStyle ≠ border || s.settings.showStatusBar ≠ showStatusBar ||
        s.settings.showTabBar ≠ showTabBar || themeChanged
      let c := { c with session.settings := { s.settings with borderStyle := border, showStatusBar, showTabBar } }
      if visual then c.refitZoomed world else c
  | .requestReload requested => { c with session.settings.reloadRequest := requested }
  | .markBorders => c.markBorders
  | .split target dir =>
      let (session, result) := s.doSplit world target dir
      { c with session, borderDirty := c.borderDirty || result.isOk }
  | .close target => { c with session := s.closePane target }.refit world
  | .equalize => { c with session := s.setLayout s.tab.layout.equalize }.refit world
  | .refit => c.refit world
  | .resizePane dir delta =>
      match s.tab.layout.resizePane s.tab.activePane dir delta with
      | (layout, true) => { c with session := s.setLayout layout }.refit world
      | (_, false) => c
  | .setRatio path ratio => { c with session := s.setLayout (s.tab.layout.setRatioAtPath path ratio) }.refit world
  | .swap other =>
      { c with session := s.setLayout (s.tab.layout.swapPanes s.tab.activePane other), borderDirty := true }
  | .reconfigure spec =>
      match reconfigureLayout s.tab.layout spec with
      | (layout, .ok ()) => { c with session := s.setLayout layout }.refit world
      | (_, .error _) => c
  | .focus id => { c with session := s.focus id }
  | .zoom id => { c with session := ({ s with tab.zoomedPane := some id }).resizeZoomedPane world id }
  | .unzoom => c.unzoom world
  | .setBroadcast on => { c with session.tab.broadcast := on }
  | .showStatusBar on => { c with session.settings.showStatusBar := on }.refit world
  | .showTabBar on => { c with session.settings.showTabBar := on }.refit world
  | .togglePanel => { c with session.settings := s.settings.toggle }
  | .panelKey key => c.panel world (s.settings.handleKey key)
  | .panelClick x y => c.panel world (s.settings.handleClick x y s.tw s.th)
  | .pane id op => c.modifyPane id op.apply
  | .respawn => { c with session := s.respawn world }
  | .exec id command =>
      if s.tab.panes.contains id then { c with session := (s.replacePane world id (.command command) s.shell).1 } else c
  | .answer reply => c.answer reply
  | .newTab name => c.retab (s.newTab world name).1
  | .goToTab target => ((s.goToTab world target).map c.retab).getD c
  | .closeTab => ((s.closeTab world).map c.retab).getD c
  | .renameTab name => { c with session := s.renameTab name }
  | .save => { c with session := (s.capture format world).1 }
  | .load path => c.load format world path

/-- One operation in the surroundings it meets. -/
def step (format : SnapshotFormat R) (c : Core R G) (label : World × Op R) : Core R G := c.apply format label.1 label.2

end Core

end Apply

end Ezpn
