import Ezpn.Pane
import Ezpn.Settings

/-!
# Borders

The border cache that a frame is drawn with, and the parts of the screen around
the panes that react to clicks.
-/

set_option autoImplicit false

namespace Ezpn

structure BorderCell where
  x : Nat
  y : Nat
  /-- lines to the cell above, below, left and right -/
  flags : Nat
  deriving DecidableEq, Repr

/-- Cells by row-major index, with the lines that meet in each. -/
structure BorderMap where
  width : Nat
  height : Nat
  cells : IdMap Nat := ∅

namespace BorderMap

def mark (x y bits : Nat) (map : BorderMap) : BorderMap :=
  if x ≥ map.width || y ≥ map.height then map
  else
    let index := y * map.width + x
    { map with cells := map.cells.insert index (map.cells[index]?.getD 0 ||| bits) }

def addHLine (x1 x2 y : Nat) (map : BorderMap) : BorderMap :=
  (List.range' x1 (x2 + 1 - x1)).foldl
    (fun map x => map.mark x y ((decide (x > x1)).toNat * 4 ||| (decide (x < x2)).toNat * 8)) map

def addVLine (x y1 y2 : Nat) (map : BorderMap) : BorderMap :=
  (List.range' y1 (y2 + 1 - y1)).foldl
    (fun map y => map.mark x y ((decide (y > y1)).toNat ||| (decide (y < y2)).toNat * 2)) map

def intoCells (map : BorderMap) : List BorderCell :=
  map.cells.toList.map fun (index, bits) => { x := index % map.width, y := index / map.width, flags := bits }

end BorderMap

structure BorderCache where
  inner : Rect
  paneOrder : List Nat
  paneRects : IdMap Rect
  cells : List BorderCell

section Hits
variable {R : Type} [RatioOps R]

/-- `build_border_cache_with_style` -/
def buildBorderCache (layout : Layout R) (showStatusBar : Bool) (termW termH : Nat) (style : BorderStyle) :
    BorderCache :=
  let borderH := termH - showStatusBar.toNat
  let outer : Rect := { x := 0, y := 0, w := termW, h := borderH }
  let inner := contentArea termW termH showStatusBar style
  let separators := layout.separators inner outer
  let map : BorderMap :=
    if style.isNone && separators.isEmpty then { width := 0, height := 0 }
    else { width := termW, height := borderH }
  -- only bordered styles draw the outer frame
  let map :=
    if !style.isNone && outer.w > 0 && outer.h > 0 then
      (((map.addHLine outer.x (outer.x + outer.w - 1) outer.y).addHLine outer.x (outer.x + outer.w - 1)
        (outer.y + outer.h - 1)).addVLine outer.x outer.y (outer.y + outer.h - 1)).addVLine
        (outer.x + outer.w - 1) outer.y (outer.y + outer.h - 1)
    else map
  let map := separators.foldl (fun map sep =>
    if sep.horizontal then map.addHLine sep.x (sep.x + sep.length - 1) sep.y
    else map.addVLine sep.x sep.y (sep.y + sep.length - 1)) map
  { inner, paneOrder := layout.paneIds, paneRects := layout.paneRects inner, cells := map.intoCells }

/-- The cache for a terminal: what every rebuild in the server loop computes. -/
def borderCacheFor (layout : Layout R) (tw th : Nat) (settings : Settings) : BorderCache :=
  buildBorderCache layout settings.showStatusBar tw (terminalRenderHeight th settings) settings.borderStyle

/-- Borders tell styles apart only by whether there is a frame. -/
theorem buildBorderCache_congr (layout : Layout R) (showStatusBar : Bool) (termW termH : Nat)
    {style other : BorderStyle} (same : style.isNone = other.isNone) :
    buildBorderCache layout showStatusBar termW termH style =
      buildBorderCache layout showStatusBar termW termH other := by
  unfold buildBorderCache contentArea
  rw [same]

inductive TitleAction where
  | close (pane : Nat)
  | splitH (pane : Nat)
  | splitV (pane : Nat)
  deriving DecidableEq, Repr

/-- The button of one pane's title row under the pointer. -/
def titleButton (x y pid : Nat) (rect : Rect) : Option TitleAction :=
  if y ≠ rect.y - 1 || rect.w = 0 || rect.h = 0 then none
  else if rect.w ≥ 13 then
    let last := rect.x + rect.w
    if x ≥ last - 3 && x < last then some (.close pid)
    else if x ≥ last - 7 && x < last - 4 then some (.splitV pid)
    else if x ≥ last - 11 && x < last - 8 then some (.splitH pid)
    else none
  else if rect.w ≥ 4 then
    let button := rect.x + rect.w - 1
    if x = button || x = button - 1 then some (.close pid) else none
  else none

def titleButtonHit (x y : Nat) (layout : Layout R) (inner : Rect) : Option TitleAction :=
  (layout.paneRects inner).toList.findSome? fun (pid, rect) => titleButton x y pid rect

end Hits

/-! ## Tab bar -/

def tabBarY (termH : Nat) (showStatusBar : Bool) : Nat := if showStatusBar then termH - 2 else termH - 1

/-- Width of a tab's label: the printable characters of its name after its number. -/
def tabLabelWidth (G : Type) [Vt100 G] (index : Nat) (name : String) : Nat :=
  let pre := s!"  {index + 1}: "
  pre.length + ((name.toList.filter fun c => !Text.isControl c).map (Vt100.charWidth (G := G))).sum + 2

/-- The tab under a column of the tab bar, from the column where the next label starts. -/
def tabBarHitFrom (G : Type) [Vt100 G] (x termW : Nat) : (col : Nat) → List (Nat × String × Bool) → Option Nat
  | _, [] => none
  | col, (idx, name, _) :: tabs =>
      let width := tabLabelWidth G idx name
      if col + width + 2 > termW then none
      else if x ≥ col && x < col + width then some idx
      else tabBarHitFrom G x termW (col + width + 2) tabs

def tabBarHit (G : Type) [Vt100 G] (x : Nat) (tabs : List (Nat × String × Bool)) (termW : Nat) : Option Nat :=
  if tabs.length ≤ 1 then none else tabBarHitFrom G x termW 1 tabs

end Ezpn
