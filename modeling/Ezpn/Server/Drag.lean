import Ezpn.Layout.Separator
import Ezpn.Server.Core

/-!
# Separator drags

`DragState` of `input_modes.rs` beside the core of the loop. A press on a separator
stores its path and its geometry; every later drag event sets the ratio at that path.
-/

set_option autoImplicit false

namespace Ezpn

structure DragState where
  path : List Bool
  direction : Direction
  area : Rect
  deriving DecidableEq, Repr

namespace DragState

def fromHit (hit : SepHit) : DragState := { path := hit.path, direction := hit.direction, area := hit.area }

def calcRatio {R : Type} [RatioOps R] (mx my : Nat) (drag : DragState) : R :=
  match drag.direction with
  | .horizontal =>
      let usable := drag.area.w - 1
      if usable = 0 then RatioOps.half else RatioOps.clamp (RatioOps.dragRatio mx drag.area.x usable)
  | .vertical =>
      let usable := drag.area.h - 1
      if usable = 0 then RatioOps.half else RatioOps.clamp (RatioOps.dragRatio my drag.area.y usable)

end DragState

structure Dragging (R G : Type) where
  core : Core R G
  drag : Option DragState := none

inductive DragAction (R : Type) where
  /-- the left button goes down -/
  | press (x y : Nat)
  | drag (x y : Nat)
  | release
  /-- the last client has left -/
  | abandon
  /-- whatever else the loop and its handlers do -/
  | op (op : Op R)

namespace Dragging
variable {R G : Type} [RatioOps R] [Vt100 G]

def press (x y : Nat) (s : Dragging R G) : Dragging R G :=
  let session := s.core.session
  match s.core.borderCache with
  | none => s
  | some cache =>
      if session.settings.visible || (titleButtonHit x y session.tab.layout cache.inner).isSome ||
        session.tab.zoomedPane.isSome then s
      else match session.tab.layout.findSeparatorAt x y cache.inner with
        | none => s
        | some hit => { s with drag := some (.fromHit hit) }

/-- A drag event, if a drag is in progress. -/
def move (format : SnapshotFormat R) (world : World) (x y : Nat) (s : Dragging R G) : Dragging R G :=
  match s.drag with
  | none => s
  | some drag => { s with core := s.core.apply format world (.setRatio drag.path (drag.calcRatio x y)) }

def release (format : SnapshotFormat R) (world : World) (s : Dragging R G) : Dragging R G :=
  match s.drag with
  | none => s
  | some _ => { core := s.core.apply format world .refit, drag := none }

/-- Whether an operation resets the drag. -/
def resets (format : SnapshotFormat R) (world : World) (c : Core R G) : Op R → Bool
  | .resizeTerminal tw th => tw ≠ c.session.tw || th ≠ c.session.th
  | .newTab name => (c.session.newTab world name).2
  | .goToTab target => (c.session.goToTab world target).isSome
  | .closeTab => (c.session.closeTab world).isSome
  | .load path => (c.session.load format world path).2.isOk
  | _ => false

def apply (format : SnapshotFormat R) (world : World) (action : DragAction R) (s : Dragging R G) : Dragging R G :=
  match action with
  | .press x y => s.press x y
  | .drag x y => s.move format world x y
  | .release => s.release format world
  | .abandon => { s with drag := none }
  | .op op =>
      { core := s.core.apply format world op, drag := if resets format world s.core op then none else s.drag }

def step (format : SnapshotFormat R) (s : Dragging R G) (label : World × DragAction R) : Dragging R G :=
  s.apply format label.1 label.2

/-- The drag's path addresses a split with the direction and the area that it stores. -/
def Addresses (c : Core R G) (drag : DragState) : Prop :=
  c.session.tab.layout.root.splitAt drag.path c.session.contentArea.clipped = some (drag.direction, drag.area)

def Valid (s : Dragging R G) : Prop := ∀ drag, s.drag = some drag → Addresses s.core drag

/-! ## Steps that leave a dragged separator in place -/

/-- The tree edit keeps the splits above the grabbed one, with their ratios. -/
def KeepsSpine (c : Core R G) (drag : DragState) (layout : Layout R) : Prop :=
  layout.root.spine drag.path = c.session.tab.layout.root.spine drag.path

def KeepsArea (c : Core R G) (settings : Settings) : Prop :=
  terminalContentArea c.session.tw c.session.th settings = c.session.contentArea

/-- What an operation must not do while a drag is in progress. -/
def KeepsGrabbed (world : World) (c : Core R G) (drag : DragState) : Op R → Prop
  | .split target dir =>
      (c.session.doSplit world target dir).2.isOk = true → KeepsSpine c drag (c.session.tab.layout.split target dir).1
  | .close target => KeepsSpine c drag (c.session.tab.layout.remove target).1
  | .equalize => KeepsSpine c drag c.session.tab.layout.equalize
  | .resizePane dir delta => KeepsSpine c drag (c.session.tab.layout.resizePane c.session.tab.activePane dir delta).1
  | .setRatio path ratio => KeepsSpine c drag (c.session.tab.layout.setRatioAtPath path ratio)
  | .reconfigure spec => KeepsSpine c drag (reconfigureLayout c.session.tab.layout spec).1
  | .reload border showStatusBar showTabBar _ =>
      KeepsArea c { c.session.settings with borderStyle := border, showStatusBar, showTabBar }
  | .showStatusBar on => KeepsArea c { c.session.settings with showStatusBar := on }
  | .showTabBar on => KeepsArea c { c.session.settings with showTabBar := on }
  | .panelKey key => KeepsArea c (c.session.settings.handleKey key).1
  | .panelClick x y => KeepsArea c (c.session.settings.handleClick x y c.session.tw c.session.th).1
  | .newTab _ =>
      world.spawnError c.session.spawns c.session.shell = none ∨
        c.session.tabMgr.activeIdx + 1 = c.session.tabMgr.count ∧
          KeepsArea c { c.session.settings with tabCount := c.session.tabMgr.count }
  | _ => True

/-- The condition on a step: a grab needs borders of the current content area, and an operation
during a drag leaves what is above the grabbed separator. -/
def Undisturbed (s : Dragging R G) (label : World × DragAction R) : Prop :=
  match label.2 with
  | .press _ _ => ∀ cache, s.core.borderCache = some cache → cache.inner = s.core.session.contentArea
  | .op op => ∀ drag, s.drag = some drag → KeepsGrabbed label.1 s.core drag op
  | _ => True

end Dragging

end Ezpn
