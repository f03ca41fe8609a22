import Ezpn.Border
import Ezpn.Layout.Partition
import Ezpn.Layout.Invariant
import Ezpn.RenderDiff
import Ezpn.Server.TabBar
import Ezpn.Lib.Layers

/-!
# Chrome

What a frame shows in the cells that react to the mouse, and what a left click
does there: the buttons of the pane titles, the labels of the tab bar and the
items of the settings panel.
-/

set_option autoImplicit false

namespace Ezpn

open Layers

/-- The item of the panel whose row is clicked. -/
def Settings.itemAt (mx my tw th : Nat) : Option Nat :=
  let (ox, oy) := origin tw th
  if mx < ox || mx ≥ ox + panelW || my < oy || my ≥ oy + panelH then none
  else itemY.findIdx? fun row => my = oy + row

namespace Chrome

/-- What a cell of a frame belongs to. -/
inductive Element where
  | titleButton (action : TitleAction)
  | tabLabel (index : Nat)
  /-- the background of the settings panel, by row -/
  | panelRow (dy : Nat)
  | settingsItem (item : Nat)
  /-- text, content and lines, which do not react -/
  | text
  deriving DecidableEq, Repr

inductive ClickAction where
  | title (action : TitleAction)
  | goToTab (index : Nat)
  | activate (item : Nat)
  deriving DecidableEq, Repr

/-- The action that an element stands for; an item of the panel fills its row. -/
def Element.action : Element → Option ClickAction
  | titleButton action => some (.title action)
  | tabLabel index => some (.goToTab index)
  | panelRow dy => (Settings.itemY.findIdx? (dy = ·)).map .activate
  | settingsItem item => some (.activate item)
  | text => none

abbrev Piece : Type := Layer (Nat × Nat) Element

/-- `width` cells printed from column `x` on. -/
def strip (x y width : Nat) (element : Element) : Piece :=
  { covers := fun (cx, cy) => cy = y && x ≤ cx && cx < x + width, paint := element }

def area (rect : Rect) (element : Element) : Piece :=
  { covers := fun (cx, cy) => rect.contains cx cy, paint := element }

/-- `Clear(ClearType::All)` -/
def clear : Piece := { covers := fun _ => true, paint := .text }

/-! ## Titles -/

/-- What the frame and the mouse handler read of a pane; `label` is `launch_label("")`. -/
structure PaneView where
  label : List Char := []
  alive : Bool := false
  scrolled : Bool := false
  exitCode : Option Nat := none
  wantsMouse : Bool := false

section Titles
variable (tables : CellTables)

def truncateFrom (maxCols : Nat) : (width : Nat) → List Char → List Char
  | _, [] => []
  | width, ch :: rest =>
      if Text.isControl ch then truncateFrom maxCols width rest
      else
        let cw := (tables.charWidth ch).getD 0
        if width + cw > maxCols then [] else ch :: truncateFrom maxCols (width + cw) rest

def truncateLabel (label : List Char) (maxCols : Nat) : List Char :=
  if maxCols = 0 then [] else truncateFrom tables maxCols 0 label

/-- The title before it is cut to the room the buttons leave. -/
def titleText (view : PaneView) (idx avail : Nat) (borderless : Bool) : List Char :=
  let scrollInd : String := if view.scrolled then " [SCROLL]" else ""
  let number := toString (idx + 1)
  let framed (text : List Char) := if borderless then text else ' ' :: (text ++ [' '])
  if !view.alive then
    match view.exitCode with
    | some code => framed s!"{number} [exit {code}]".toList
    | none => framed s!"{number} [exited]".toList
  else if view.label.isEmpty || avail < 12 then framed (number ++ scrollInd).toList
  else
    let pad := if borderless then 4 else 8
    let short := truncateLabel tables view.label (avail - (pad + scrollInd.utf8ByteSize))
    framed (number.toList ++ ':' :: (short ++ scrollInd.toList))

/-- Columns for the buttons: the full set, or the close button alone. -/
def rightLen (avail : Nat) : Nat :=
  let showButtons := avail ≥ 13
  let btnLen := if showButtons then 11 else 0
  let closeLen := if !showButtons && avail ≥ 4 then 2 else 0
  btnLen + closeLen

/-- The printed title's width, as `UnicodeWidthStr` measures it. -/
def titleWidth (view : PaneView) (idx avail : Nat) (borderless : Bool) : Nat :=
  tables.strWidth (truncateLabel tables (titleText tables view idx avail borderless) (avail - (1 + rightLen avail)))

/-- The buttons from column `x` on: `[━] [┃] [×]` or ` ×`. -/
def buttons (x y avail pid : Nat) : List Piece :=
  if avail ≥ 13 then
    [strip x y 11 .text, strip x y 3 (.titleButton (.splitH pid)), strip (x + 4) y 3 (.titleButton (.splitV pid)),
      strip (x + 8) y 3 (.titleButton (.close pid))]
  else [strip x y 2 (.titleButton (.close pid))]

def drawPaneTitle (view : PaneView) (pid idx : Nat) (rect : Rect) (borderless : Bool) : List Piece :=
  let titleY := rect.y - 1
  let avail := rect.w
  if avail < 4 then []
  else
    let right := rightLen avail
    let tlen := titleWidth tables view idx avail borderless
    if avail ≥ tlen + 1 + right then
      if borderless then
        strip rect.x titleY avail .text :: strip rect.x titleY tlen .text ::
          buttons (rect.x + (avail - right)) titleY avail pid
      else
        let fill := avail - (tlen + 1 + right)
        strip rect.x titleY (1 + tlen + fill) .text :: buttons (rect.x + 1 + tlen + fill) titleY avail pid
    else []

end Titles

/-! ## Settings panel -/

/-- Inner padding of the panel. -/
def pad : Nat := 4

/-- Each item fills its row up to the padding; the panel is left out on a small terminal. -/
def renderOverlay (tw th : Nat) : List Piece :=
  if tw < Settings.panelW + 4 || th < Settings.panelH + 2 then []
  else
    let (ox, oy) := Settings.origin tw th
    let x := ox + pad
    let xr := ox + Settings.panelW - pad
    clear :: ((List.range Settings.panelH).map fun dy => strip ox (oy + dy) Settings.panelW (.panelRow dy)) ++
      Settings.itemY.zipIdx.map fun (row, item) => strip (x - 1) (oy + row) (xr - x + 2) (.settingsItem item)

/-! ## The bottom rows -/

/-- The tab bar: its row, then the labels that fit. -/
def drawTabBar (strWidth : String → Nat) (tw th : Nat) (showStatusBar : Bool) (tabs : List TabBar.Entry) : List Piece :=
  if tabs.length ≤ 1 || tw = 0 || th ≤ showStatusBar.toNat then []
  else
    let y := tabBarY th showStatusBar
    strip 0 y tw .text ::
      (TabBar.labels strWidth tw 1 tabs).map fun label => strip label.start y label.width (.tabLabel label.index)

def cutConfirm (tables : CellTables) (limit : Nat) : (w : Nat) → List Char → List Char
  | _, [] => []
  | w, ch :: rest =>
      let cw := (tables.charWidth ch).getD 0
      if w + cw > limit then ['…'] else ch :: cutConfirm tables limit (w + cw) rest

/-- The confirm prompt, cut to the terminal. -/
def confirmText (tables : CellTables) (paneId byteCount tw : Nat) : List Char :=
  let msg := s!" OSC52 pane #{paneId}: allow {byteCount} bytes to clipboard? [y/n/Esc] ".toList
  let maxInner := tw - 2
  if tables.strWidth msg > maxInner then cutConfirm tables (maxInner - 1) 0 msg else msg

/-! ## Frames -/

/-- A server in `Normal` mode, as a frame and the mouse handler see it. -/
structure Scene (R : Type) where
  tables : CellTables
  layout : Layout R
  panes : IdMap PaneView
  zoomedPane : Option Nat
  settings : Settings
  tabs : List TabBar.Entry
  tw : Nat
  th : Nat
  flashMessage : Option String
  /-- pane and payload size under the clipboard prompt -/
  osc52Confirm : Option (Nat × Nat)
  /-- a separator is being dragged, or text is being selected -/
  dragging : Bool
  selecting : Bool
  formed : layout.WellFormed
  /-- the extents are `u16` values -/
  narrow : tw ≤ u16Max
  low : th ≤ u16Max
  /-- `set_tab_count` runs with every change of the tabs -/
  counted : settings.tabCount = tabs.length

namespace Scene
variable {R : Type} [RatioOps R] (s : Scene R)

def cache : BorderCache := borderCacheFor s.layout s.tw s.th s.settings

def inner : Rect := s.cache.inner

def view (pid : Nat) : PaneView := s.panes[pid]?.getD {}

omit [RatioOps R] in
def borderless : Bool := s.settings.borderStyle.isNone

def strWidth (text : String) : Nat := s.tables.strWidth text.toList

/-- Title and content of one pane. -/
def paneLayers (pid idx : Nat) : List Piece :=
  match s.cache.paneRects[pid]? with
  | none => []
  | some rect =>
      if rect.w = 0 || rect.h = 0 then []
      else drawPaneTitle s.tables (s.view pid) pid idx rect s.borderless ++ [area rect .text]

/-- The lines between the panes come first and are left out. -/
def renderPanes : List Piece :=
  if s.tw = 0 || s.th = 0 then []
  else if s.inner.w = 0 || s.inner.h = 0 then [clear]
  else clear :: s.cache.paneOrder.zipIdx.flatMap fun (pid, idx) => s.paneLayers pid idx

/-- Nothing on the screen of a zoomed pane reacts. -/
def renderZoomedPane (pid : Nat) : List Piece := if s.panes.contains pid then [clear] else []

def statusBar : List Piece :=
  if s.settings.showStatusBar && s.tw ≠ 0 && s.th ≠ 0 then [strip 0 (s.th - 1) s.tw .text] else []

def tabBar : List Piece :=
  if s.tabs.length > 1 && s.settings.showTabBar then
    drawTabBar s.strWidth s.tw s.th s.settings.showStatusBar s.tabs
  else []

def flash : List Piece :=
  if s.flashMessage.isSome && s.tw ≠ 0 && s.th ≠ 0 then [strip 0 (s.th - 1) s.tw .text] else []

def panel : List Piece := if s.settings.visible then renderOverlay s.tw s.th else []

def confirm : List Piece :=
  match s.osc52Confirm with
  | some (paneId, byteCount) =>
      if s.tw = 0 || s.th = 0 then []
      else [strip 0 (s.th - 1) (s.tables.strWidth (confirmText s.tables paneId byteCount s.tw)) .text]
  | none => []

def body : List Piece :=
  match s.zoomedPane with
  | some pid => s.renderZoomedPane pid ++ s.statusBar
  | none => s.renderPanes ++ s.statusBar ++ s.panel

/-- A full frame, in drawing order: the two status bars share a row, and the panel
is drawn below and above the bars. -/
def frame : List Piece := s.body ++ s.statusBar ++ s.tabBar ++ s.flash ++ s.panel ++ s.confirm

/-- The action that the frame shows at a cell. -/
def shown (x y : Nat) : Option ClickAction := (topmost s.frame (x, y)).bind Element.action

/-! ## Clicks -/

def rects : IdMap Rect :=
  match s.zoomedPane with
  | some id => (∅ : IdMap Rect).insert id (terminalContentArea s.tw s.th s.settings)
  | none => s.cache.paneRects

def hitPane (x y : Nat) : Option Nat := (s.rects.toList.find? fun (_, r) => r.contains x y).map (·.1)

def clickLayout : Layout R :=
  match s.zoomedPane with
  | some id => Layout.singleton id s.layout.nextId
  | none => s.layout

def onTabBar (y : Nat) : Bool :=
  s.settings.showTabBar && s.tabs.length > 1 && y = tabBarY s.th s.settings.showStatusBar

/-- The click goes to the program in the pane. -/
def forwards (shift : Bool) (x y : Nat) : Bool :=
  !s.settings.visible && !s.onTabBar y && !s.dragging && !s.selecting && !shift &&
    match s.hitPane x y with
    | some id => (s.view id).wantsMouse
    | none => false

def clickedTab (x y : Nat) : Option Nat :=
  if !s.settings.visible && s.onTabBar y then TabBar.tabBarHit s.strWidth x s.tabs s.tw else none

/-- What `process_mouse` does for a left click: a tab, a row of the panel or a title
button. `none` is everything else: focus, selection, a separator, closing the panel. -/
def clicked (shift : Bool) (x y : Nat) : Option ClickAction :=
  if s.forwards shift x y then none
  else match s.clickedTab x y with
    | some index => some (.goToTab index)
    | none =>
        if s.settings.visible then (Settings.itemAt x y s.tw s.th).map .activate
        else (titleButtonHit x y s.clickLayout s.inner).map .title

end Scene

end Chrome

end Ezpn
