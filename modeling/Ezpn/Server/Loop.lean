import Ezpn.Server.Clients
import Ezpn.Server.Core
import Ezpn.Server.Update

/-!
# The server loop

What the loop keeps around the core: pending redraws, clients, the panes whose
exit it has announced, the names in the tab bar. One iteration is the upkeep, an
attaching client, the clients' messages, the settling of sizes and departures, tab
actions and IPC requests, and a frame; here they are steps that may come in any
order. Handlers run the operations of the core and the changes of the user
interface that they decide on.
-/

set_option autoImplicit false

namespace Ezpn

/-- The loop's variables for input modes, drags and selections, and the three ways
in which the loop itself resets them. -/
class Interface (U : Type) where
  dropDrag : U → U
  /-- back to the normal mode, without drag or selection -/
  rest : U → U
  /-- the same on another tab, with its focused pane -/
  enterTab : (active : Nat) → U → U

/-- Whether a handler may run the operation. A view that it moves to read the history is
put back before it returns. -/
def Op.handled {R : Type} : Op R → Bool
  | .read _ | .prompt | .restart | .restartInactive | .unzoomMissing | .render _ | .resizeTerminal _ _ => false
  | .pane _ .syncScrollback => false
  | _ => true

inductive FrontOp (R U : Type) where
  | op (op : Op R) (handled : op.handled = true := by rfl)
  | ui (change : U → U)
  | mark (update : RenderUpdate)
  /-- kill the session -/
  | quit

/-- What a handler decides on, from the user interface and the core. -/
abbrev Handler (R G U : Type) : Type := U → Core R G → List (FrontOp R U)

inductive ClientMsg (R G U : Type) where
  | event (handler : Handler R G U) (detach : Bool)
  | resize (w h : Nat)
  | detach
  | disconnected
  | kill

/-- What composing a frame depends on beside the loop's variables. -/
structure FrameInput where
  /-- the frame interval has passed -/
  due : Bool
  /-- pane of a text selection that is counted -/
  selected : Option Nat := none
  flashExpired : Bool := false
  rendered : Bool := true
  deriving DecidableEq, Repr

inductive LoopOp (R G U : Type) where
  | upkeep (feeds : Nat → Pane.Feed)
  /-- timers, reloads, tab actions and IPC requests -/
  | front (handler : Handler R G U)
  /-- `connected`: the socket could be set up -/
  | attach (w h : Nat) (mode : AttachMode) (connected : Bool)
  | message (id : Nat) (msg : ClientMsg R G U)
  | outputFailed (id : Nat)
  | settle
  | frame (input : FrameInput)
  | kill

structure Loop (R G U : Type) where
  core : Core R G
  ui : U
  update : RenderUpdate := {}
  clients : List ConnectedClient := []
  nextClientId : Nat := 1
  sizeChanged : Bool := false
  detachIds : List Nat := []
  disconnectIds : List Nat := []
  exitedFired : List Nat := []
  tabNamesCache : List (Nat × String × Bool) := []
  tabNamesDirty : Bool := true
  /-- the loop has returned -/
  ended : Bool := false
  /-- processes whose exit has been announced, in order; the code does not keep it -/
  announced : List Nat := []
  /-- processes whose pane was given up after their exit and before its announcement -/
  lost : List Nat := []
  /-- processes with output that no frame has painted -/
  unpainted : List Nat := []

/-! ## What the operations mark -/

section Marks
variable {R G : Type} [RatioOps R] [Vt100 G]

/-- Whether serving the pane marks it: something changed, and no synchronized update is open. -/
def Pane.repaints (world : World) (feed : Pane.Feed) (pane : Pane G) : Bool :=
  let (pane, changed) := pane.readOutput world feed
  let (pane, closed) := pane.syncWatchdog world
  (changed || closed) && !pane.inSync

namespace Core

def restarting (world : World) (c : Core R G) : Restarts G :=
  let s := c.session
  restartPanes world s.spawns s.tab.panes s.tab.layout s.tab.restartPolicies s.tab.restartState s.shell s.tw s.th
    s.settings s.scrollback

/-- What the operation adds to the pending redraw, at least. -/
def marks (format : SnapshotFormat R) (world : World) (op : Op R) (c : Core R G) : RenderUpdate :=
  let s := c.session
  let after := (c.apply format world op).session.tab.layout
  match op with
  | .read feeds =>
      { dirtyPanes := (c.detectSpawned.session.tab.panes.toList.filter
          fun (_, pane) => pane.repaints world (feeds pane.process)).map (·.1) }
  | .prompt =>
      if c.osc52Confirm.isNone && c.drainPrompt.osc52Confirm.isSome then { fullRedraw := true, statusDirty := true }
      else {}
  | .restart => { dirtyPanes := (c.restarting world).restarted }
  | .unzoomMissing => if s.tab.zoomedPane.any fun id => !s.tab.panes.contains id then .all after else {}
  | .reload border showStatusBar showTabBar themeChanged =>
      if s.settings.borderStyle ≠ border || s.settings.showStatusBar ≠ showStatusBar ||
          s.settings.showTabBar ≠ showTabBar || themeChanged then .all after
      else {}
  | .split target dir => if (s.doSplit world target dir).2.isOk then .all after else {}
  | .resizePane dir delta => if (s.tab.layout.resizePane s.tab.activePane dir delta).2 then .all after else {}
  | .reconfigure spec => if (reconfigureLayout s.tab.layout spec).2.isOk then .all after else {}
  | .resizeTerminal _ _ | .close _ | .equalize | .refit | .setRatio _ _ | .swap _ | .unzoom | .showStatusBar _
  | .showTabBar _ | .newTab _ => .all after
  | .goToTab target => if (s.goToTab world target).isSome then .all after else {}
  | .closeTab => if (s.closeTab world).isSome then .all after else {}
  | .load path => if (s.load format world path).2.isOk then .all after else {}
  | .focus _ | .zoom _ | .setBroadcast _ | .togglePanel | .panelKey _ | .panelClick _ _ => .full
  | .answer _ => { fullRedraw := true, statusDirty := true }
  | .renameTab _ => { fullRedraw := true, statusDirty := true, tabsDirty := true }
  | .respawn => .pane s.tab.activePane
  | .exec id command =>
      if s.tab.panes.contains id && (s.replacePane world id (.command command) s.shell).2.isOk then .pane id else {}
  | .restartInactive | .render _ | .requestReload _ | .markBorders | .pane _ _ | .save => {}

/-- Whether the operation asks for the tab names again. -/
def renames (format : SnapshotFormat R) (world : World) (op : Op R) (c : Core R G) : Bool :=
  match op with
  | .newTab _ | .renameTab _ => true
  | .goToTab target => (c.session.goToTab world target).isSome
  | .closeTab => (c.session.closeTab world).isSome
  | .load path => (c.session.load format world path).2.isOk
  | _ => false

omit [RatioOps R] [Vt100 G] in
def tabNames (c : Core R G) : List (Nat × String × Bool) := c.session.tabMgr.tabNames c.session.tab.name

/-- The panes whose place in a tab the operation empties or gives to a new process. -/
def givenUp (world : World) (op : Op R) (c : Core R G) : List (Pane G) :=
  let s := c.session
  match op with
  | .restart => (c.restarting world).restarted.filterMap fun id => s.tab.panes[id]?
  | .restartInactive =>
      (s.tabMgr.tabs.zip (c.restartedTabs world).1).flatMap fun (tab, _, restarted) =>
        restarted.filterMap fun id => tab.panes[id]?
  | .close target => s.tab.panes[target]?.toList
  | .respawn =>
      (s.tab.panes[s.tab.activePane]?.filter fun old => !old.alive &&
        (s.replacePane world s.tab.activePane old.launch (old.initialShell.getD s.shell)).2.isOk).toList
  | .exec id command =>
      (s.tab.panes[id]?.filter fun _ => (s.replacePane world id (.command command) s.shell).2.isOk).toList
  | _ => []

/-- Processes that have output in the channels that the operation reads. -/
def outputs (op : Op R) (c : Core R G) : List Nat :=
  match op with
  | .read feeds =>
      (c.session.tabs.flatMap fun tab => tab.panes.toList.map fun (_, pane) => pane.process).filter
        fun process => !(feeds process).chunks.isEmpty
  | _ => []

omit [RatioOps R] [Vt100 G] in
/-- No pane of the active tab runs or will be restarted. -/
def activeTabDead (c : Core R G) : Bool :=
  let tab := c.session.tab
  tab.panes.toList.all fun (id, pane) =>
    if pane.alive then false
    else if (tab.restartPolicies[id]?).any fun policy => restartAllowed policy pane.exitCode then
      (tab.restartState[id]?).any fun (_, retries) => retries ≥ maxRestartRetries
    else true

end Core

end Marks

namespace Loop
variable {R G U : Type} [RatioOps R] [Vt100 G] [Interface U]

/-! ## Operations of the core -/

/-- Ids in the fired set that the operation frees for another announcement. -/
def rearmed (format : SnapshotFormat R) (world : World) (op : Op R) (c : Core R G) (fired : List Nat) : List Nat :=
  match op with
  | .restart => fired.filter fun id => !(c.restarting world).restarted.contains id
  | .load path => if (c.session.load format world path).2.isOk then [] else fired
  | _ => fired

omit [Interface U] in
def perform (format : SnapshotFormat R) (world : World) (op : Op R) (l : Loop R G U) : Loop R G U :=
  let abandoned := (l.core.givenUp world op).filter fun pane => !pane.alive && !l.announced.contains pane.process
  { l with
    core := l.core.apply format world op
    update := l.update.merge (l.core.marks format world op)
    tabNamesDirty := l.tabNamesDirty || l.core.renames format world op
    exitedFired := rearmed format world op l.core l.exitedFired
    lost := l.lost ++ abandoned.map (·.process)
    unpainted := l.unpainted ++ l.core.outputs op }

/-! ## Upkeep -/

omit [RatioOps R] [Vt100 G] [Interface U] in
/-- Panes that are dead and not in the fired set, in id order. -/
def exiting (l : Loop R G U) : List (Nat × Pane G) :=
  l.core.session.tab.panes.toList.filter fun (id, pane) => !pane.alive && !l.exitedFired.contains id

omit [RatioOps R] [Vt100 G] [Interface U] in
/-- Announce the exits that the fired set does not know of. -/
def announceExits (l : Loop R G U) : Loop R G U :=
  { l with
    exitedFired := l.exitedFired ++ l.exiting.map (·.1)
    announced := l.announced ++ l.exiting.map (·.2.process) }

/-- Close the active tab if it is dead; with no other tab, the server exits. -/
def closeDeadTab (format : SnapshotFormat R) (world : World) (l : Loop R G U) : Loop R G U :=
  if !l.core.activeTabDead then l
  else if l.core.session.tabMgr.count ≤ 1 then { l with ended := true }
  else
    let core := l.core.apply format world .closeTab
    { l with
      core
      ui := Interface.enterTab core.session.tab.activePane l.ui
      update := l.update.merge (.all core.session.tab.layout) }

omit [Interface U] in
/-- Reading the panes, up to the announcement of exits. -/
def detect (format : SnapshotFormat R) (world : World) (feeds : Nat → Pane.Feed) (l : Loop R G U) : Loop R G U :=
  ((l.perform format world (.read feeds)).perform format world .prompt).announceExits

omit [Interface U] in
def restartAll (format : SnapshotFormat R) (world : World) (l : Loop R G U) : Loop R G U :=
  (l.perform format world .restart).perform format world .restartInactive

/-- The top of an iteration, in the order of the source. -/
def upkeep (format : SnapshotFormat R) (world : World) (feeds : Nat → Pane.Feed) (l : Loop R G U) : Loop R G U :=
  let l := ((l.detect format world feeds).restartAll format world).closeDeadTab format world
  if l.ended then l else l.perform format world .unzoomMissing

/-! ## Handlers -/

omit [Interface U] in
/-- Closing the only tab ends the server, as quitting does. -/
def frontOp (format : SnapshotFormat R) (world : World) (l : Loop R G U) (op : FrontOp R U) : Loop R G U :=
  if l.ended then l
  else match op with
    | .op .closeTab _ =>
        if l.core.session.tabMgr.count ≤ 1 then { l with ended := true } else l.perform format world .closeTab
    | .op op _ => l.perform format world op
    | .ui change => { l with ui := change l.ui }
    | .mark update => { l with update := l.update.merge update }
    | .quit => { l with ended := true }

omit [Interface U] in
def handle (format : SnapshotFormat R) (world : World) (handler : Handler R G U) (l : Loop R G U) : Loop R G U :=
  (handler l.ui l.core).foldl (frontOp format world) l

/-! ## Clients -/

/-- Take the size that the clients ask for, if it is another. -/
def takeSize (format : SnapshotFormat R) (world : World) (l : Loop R G U) : Loop R G U :=
  let (ew, eh) := effectiveSize l.clients
  if ew ≠ l.core.session.tw ∨ eh ≠ l.core.session.th then
    { l.perform format world (.resizeTerminal ew eh) with ui := Interface.dropDrag l.ui }
  else l

omit [RatioOps R] [Vt100 G] [Interface U] in
def accepts (mode : AttachMode) (connected : Bool) (l : Loop R G U) : Bool :=
  (mode = .steal || l.clients.length < maxClients) && connected

omit [RatioOps R] [Vt100 G] [Interface U] in
/-- A stealing client detaches the others. -/
def join (w h : Nat) (mode : AttachMode) (l : Loop R G U) : Loop R G U :=
  let (tw, th) := normalizeSize w h
  let client : ConnectedClient := { id := l.nextClientId, mode, tw, th }
  { l with
    clients := (if mode = .steal then [] else l.clients) ++ [client]
    nextClientId := l.nextClientId + 1 }

def acceptClient (format : SnapshotFormat R) (world : World) (w h : Nat) (mode : AttachMode) (connected : Bool)
    (l : Loop R G U) : Loop R G U :=
  if !l.accepts mode connected then l
  else
    let l := (l.join w h mode).takeSize format world
    { l with core := l.core.markBorders, update := l.update.merge (.all l.core.session.tab.layout) }

omit [Interface U] in
/-- One message of a client that is neither leaving nor gone. -/
def receive (format : SnapshotFormat R) (world : World) (client : ConnectedClient) (l : Loop R G U) :
    ClientMsg R G U → Loop R G U
  | .event handler detach =>
      if client.mode = .readonly then l
      else
        let l := l.handle format world handler
        if detach then { l with detachIds := l.detachIds ++ [client.id] } else l
  | .resize w h =>
      { l with
        clients := l.clients.map fun c => if c.id = client.id then { c with tw := w, th := h } else c
        sizeChanged := true
        update := l.update.merge (.all l.core.session.tab.layout) }
  | .detach => { l with detachIds := l.detachIds ++ [client.id] }
  | .disconnected => { l with disconnectIds := l.disconnectIds ++ [client.id] }
  | .kill => if client.mode = .readonly then l else { l with ended := true }

omit [RatioOps R] [Vt100 G] [Interface U] in
/-- The client whose messages are read under an id. -/
def sender (id : Nat) (l : Loop R G U) : Option ConnectedClient :=
  if l.detachIds.contains id || l.disconnectIds.contains id then none else l.clients.find? fun c => c.id = id

omit [Interface U] in
def message (format : SnapshotFormat R) (world : World) (id : Nat) (msg : ClientMsg R G U) (l : Loop R G U) :
    Loop R G U :=
  match l.sender id with
  | none => l
  | some client => l.receive format world client msg

omit [RatioOps R] [Vt100 G] [Interface U] in
def removeLeaving (l : Loop R G U) : Loop R G U :=
  { l with
    clients := l.clients.filter fun c => !(l.detachIds.contains c.id || l.disconnectIds.contains c.id)
    detachIds := []
    disconnectIds := [] }

/-- New sizes, if a client has sent one. -/
def takeSizes (format : SnapshotFormat R) (world : World) (l : Loop R G U) : Loop R G U :=
  if l.sizeChanged then { l.takeSize format world with sizeChanged := false } else l

/-- Departures; the last client's saves the session. -/
def depart (format : SnapshotFormat R) (world : World) (l : Loop R G U) : Loop R G U :=
  let leaving := !l.detachIds.isEmpty || !l.disconnectIds.isEmpty
  let hadClients := !l.clients.isEmpty
  let l := l.removeLeaving
  if leaving then
    if l.clients.isEmpty then
      if hadClients then { l.perform format world .save with ui := Interface.rest l.ui } else l
    else l.takeSize format world
  else l

/-- The bookkeeping after the messages. -/
def settle (format : SnapshotFormat R) (world : World) (l : Loop R G U) : Loop R G U :=
  (l.takeSizes format world).depart format world

/-! ## Frames -/

omit [Interface U] in
/-- The pending redraw without the panes in a synchronized batch, and those. -/
def pending (world : World) (l : Loop R G U) : RenderUpdate × List Nat :=
  l.update.deferDirtyPanes fun id => ((l.core.refresh world).session.tab.panes[id]?).any (·.inSync)

omit [Interface U] in
def composes (world : World) (input : FrameInput) (l : Loop R G U) : Bool :=
  (l.pending world).1.needsRender && input.due && !l.clients.isEmpty && (l.core.refresh world).borderCache.isSome

omit [Interface U] in
/-- The panes that a frame paints. Those without a rectangle have nothing to show. -/
def painted (world : World) (input : FrameInput) (l : Loop R G U) : List Nat :=
  let tab := (l.core.refresh world).session.tab
  let update := (l.pending world).1
  collectRenderTargets tab.panes update.dirtyPanes (update.fullRedraw || input.flashExpired) tab.zoomedPane

omit [Interface U] in
/-- The panes whose view is put in place for a frame. -/
def synced (world : World) (input : FrameInput) (l : Loop R G U) : List Nat :=
  let tab := (l.core.refresh world).session.tab
  let update := (l.pending world).1
  let targets := collectRenderTargets tab.panes update.dirtyPanes update.fullRedraw tab.zoomedPane
  targets ++ (input.selected.filter fun id => tab.panes.contains id && !targets.contains id).toList

omit [Interface U] in
/-- Processes of the panes that a frame paints. -/
def shown (world : World) (input : FrameInput) (l : Loop R G U) : List Nat :=
  (l.painted world input).filterMap fun id => ((l.core.refresh world).session.tab.panes[id]?).map (·.process)

omit [Interface U] in
def frame (format : SnapshotFormat R) (world : World) (input : FrameInput) (l : Loop R G U) : Loop R G U :=
  let (update, deferred) := l.pending world
  let kept := { update with dirtyPanes := update.dirtyPanes ++ deferred }
  if l.composes world input then
    let sent :=
      { l with
        core := l.core.apply format world (.render (some (l.synced world input)))
        tabNamesCache := if l.tabNamesDirty then (l.core.refresh world).tabNames else l.tabNamesCache
        tabNamesDirty := false }
    if input.rendered then
      { sent with
        update := { dirtyPanes := deferred }
        unpainted := l.unpainted.filter fun process => !(l.shown world input).contains process }
    else { sent with update := { kept with fullRedraw := kept.fullRedraw || input.flashExpired } }
  else
    { l with
      core := l.core.apply format world (.render none)
      update := if l.clients.isEmpty then {} else kept }

/-! ## Steps -/

def apply (format : SnapshotFormat R) (world : World) (l : Loop R G U) : LoopOp R G U → Loop R G U
  | .upkeep feeds => l.upkeep format world feeds
  | .front handler => l.handle format world handler
  | .attach w h mode connected => l.acceptClient format world w h mode connected
  | .message id msg => l.message format world id msg
  | .outputFailed id => { l with disconnectIds := l.disconnectIds ++ [id] }
  | .settle => l.settle format world
  | .frame input => l.frame format world input
  | .kill => { l with ended := true }

/-- One step of the loop in the surroundings it meets; none once it has returned. -/
def step (format : SnapshotFormat R) (l : Loop R G U) (label : World × LoopOp R G U) : Loop R G U :=
  if l.ended then l else l.apply format label.1 label.2

end Loop

/-! ## A session to run -/

instance : Interface Unit where
  dropDrag := id
  rest := id
  enterTab _ := id

/-- Files without compression or content. -/
def plainFormat : SnapshotFormat ℚ :=
  { gzip := id, gunzip := fun _ => .ok, prettyLength := fun _ => 0, read := fun _ => .error "no such file" }

def plainConfig : LaunchConfig :=
  { shell := "/bin/sh", border := .rounded, showStatusBar := true, showTabBar := true, scrollback := 100
    scrollbackBytes := 0, clipboardPolicy := {}, persistScrollback := false }

/-- One shell on the 80x24 screen. -/
def oneShell : Session ℚ RawDisplay :=
  let unspawned : Session ℚ RawDisplay :=
    plainConfig.session { name := "1", layout := .fromGrid 1 1, panes := ∅, activePane := 0 } 0
  (boot plainFormat {} plainConfig (.grid 1 1 [])).toOption.getD unspawned

theorem eq_ok_of_isOk {ε α : Type} {result : Except ε α} (accepted : result.isOk = true) (default : α) :
    result = .ok (result.toOption.getD default) := by
  cases result with
  | error message => cases accepted
  | ok value => rfl

theorem oneShell_booted : boot plainFormat {} plainConfig (.grid 1 1 []) = .ok oneShell := by
  have started : (boot (G := RawDisplay) plainFormat {} plainConfig (.grid 1 1 [])).isOk = true := by decide +kernel
  exact eq_ok_of_isOk started (plainConfig.session { name := "1", layout := .fromGrid 1 1, panes := ∅, activePane := 0 } 0)

/-- That process ends, and no other has anything to say. -/
def exitOf (process : Nat) : Nat → Pane.Feed :=
  fun other => if other = process then { disconnected := true, exited := some 0 } else {}

end Ezpn
