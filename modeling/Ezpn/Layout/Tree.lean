import Mathlib.Tactic.Linarith
import Mathlib.Data.Rat.Floor

/-!
# Layout trees

The recursive split tree of `layout.rs`: construction from grids and weight
specs, and every operation that rewrites the tree. Ratios are an arbitrary type
with the `f32` operations the code uses, so no result depends on rounding.
-/

set_option autoImplicit false

namespace Ezpn

/-- `usize::MAX` of the 64-bit targets. -/
def usizeMax : Nat := 2 ^ 64 - 1

/-- `u16::MAX`. -/
def u16Max : Nat := 2 ^ 16 - 1

/-- The `f32` operations applied to split ratios. -/
class RatioOps (R : Type) where
  /-- `0.5` -/
  half : R
  /-- `a as f32 / b as f32` -/
  quotient : Nat → Nat → R
  isFinite : R → Bool
  /-- `is_finite() && > 0.0 && < 1.0` -/
  isProper : R → Bool
  /-- `clamp(0.1, 0.9)` -/
  clamp : R → R
  add : R → R → R
  /-- `delta * -1.0` -/
  neg : R → R
  /-- `0.05 * n as f32` -/
  twentieths : Nat → R
  /-- `(m as f32 - origin as f32) / usable as f32` -/
  dragRatio : (m origin usable : Nat) → R
  /-- `((f32::from(extent) + 1.0) * ratio).round() as u16` -/
  slots : Nat → R → Nat

/-- Exact ratios, without the rounding of `f32`. -/
instance : RatioOps ℚ where
  half := 1 / 2
  quotient a b := a / b
  isFinite _ := true
  isProper ratio := 0 < ratio && ratio < 1
  clamp ratio := max (1 / 10) (min ratio (9 / 10))
  add := (· + ·)
  neg := (- ·)
  twentieths n := n / 20
  dragRatio m origin usable := (m - origin : ℚ) / usable
  slots extent ratio := min (⌊(extent + 1 : ℚ) * ratio + 1 / 2⌋.toNat) u16Max

inductive Direction where
  /-- panes arranged left | right -/
  | horizontal
  /-- panes arranged top / bottom -/
  | vertical
  deriving DecidableEq, Repr

inductive NavDir where
  | left
  | right
  | up
  | down
  deriving DecidableEq, Repr

inductive LayoutNode (R : Type) where
  | leaf (id : Nat)
  | split (direction : Direction) (ratio : R) (first second : LayoutNode R)
  deriving DecidableEq, Repr

structure Layout (R : Type) where
  root : LayoutNode R
  nextId : Nat
  deriving DecidableEq, Repr

/-! ## Leaves -/

namespace LayoutNode
variable {R : Type}

/-- Leaf ids in tree order. -/
def collectIds : LayoutNode R → List Nat
  | leaf id => [id]
  | split _ _ first second => first.collectIds ++ second.collectIds

def countLeaves : LayoutNode R → Nat
  | leaf _ => 1
  | split _ _ first second => first.countLeaves + second.countLeaves

def contains (target : Nat) : LayoutNode R → Bool
  | leaf id => id == target
  | split _ _ first second => first.contains target || second.contains target

/-! ## Tree modification -/

def splitNode (target newId : Nat) (dir : Direction) [RatioOps R] : LayoutNode R → LayoutNode R
  | leaf id => if id = target then split dir RatioOps.half (leaf id) (leaf newId) else leaf id
  | split direction ratio first second =>
      split direction ratio (first.splitNode target newId dir) (second.splitNode target newId dir)

/-- `none` when the whole tree is the removed leaf. -/
def removeNode (target : Nat) : LayoutNode R → Option (LayoutNode R)
  | leaf id => if id = target then none else some (leaf id)
  | split direction ratio first second =>
      if first.contains target then
        match first.removeNode target with
        | some f => some (split direction ratio f second)
        | none => some second
      else if second.contains target then
        match second.removeNode target with
        | some s => some (split direction ratio first s)
        | none => some first
      else some (split direction ratio first second)

def swapLeafIds (a b : Nat) : LayoutNode R → LayoutNode R
  | leaf id => leaf (if id = a then b else if id = b then a else id)
  | split direction ratio first second =>
      split direction ratio (first.swapLeafIds a b) (second.swapLeafIds a b)

def equalizeNode [RatioOps R] : LayoutNode R → LayoutNode R
  | leaf id => leaf id
  | split direction _ first second =>
      let left := first.countLeaves
      let total := left + second.countLeaves
      split direction (RatioOps.quotient left total) first.equalizeNode second.equalizeNode

def setRatioAt [RatioOps R] (ratio : R) : List Bool → LayoutNode R → LayoutNode R
  | path, node =>
      if !RatioOps.isFinite ratio then node
      else match path, node with
        | [], split direction _ first second => split direction (RatioOps.clamp ratio) first second
        | false :: path, split direction r first second =>
            split direction r (first.setRatioAt ratio path) second
        | true :: path, split direction r first second =>
            split direction r first (second.setRatioAt ratio path)
        | _, leaf id => leaf id

def adjustRatioAt [RatioOps R] (delta : R) : List Bool → LayoutNode R → LayoutNode R
  | [], split direction ratio first second =>
      split direction (RatioOps.clamp (RatioOps.add ratio delta)) first second
  | false :: path, split direction r first second =>
      split direction r (first.adjustRatioAt delta path) second
  | true :: path, split direction r first second =>
      split direction r first (second.adjustRatioAt delta path)
  | _, leaf id => leaf id

/-- Breadcrumbs `(path to split, direction, pane is in second)` from the deepest
split holding the pane up to the root; `none` when the pane is not a leaf. -/
def collectPathToPane (target : Nat) :
    LayoutNode R → List Bool → Option (List (List Bool × Direction × Bool))
  | leaf id, _ => if id = target then some [] else none
  | split direction _ first second, path =>
      match first.collectPathToPane target (path ++ [false]) with
      | some crumbs => some (crumbs ++ [(path, direction, false)])
      | none =>
          match second.collectPathToPane target (path ++ [true]) with
          | some crumbs => some (crumbs ++ [(path, direction, true)])
          | none => none

end LayoutNode

/-! ## Construction -/

section Construction
variable {R : Type} [RatioOps R]
open LayoutNode

/-- `next` is the id counter threaded through the construction. The source only
calls this with `cols ≥ 1`. -/
def buildRow : (cols next : Nat) → LayoutNode R × Nat
  | 0, next => (leaf next, next + 1)
  | 1, next => (leaf next, next + 1)
  | cols + 2, next =>
      let (second, after) := buildRow (cols + 1) (next + 1)
      (split .horizontal (RatioOps.quotient 1 (cols + 2)) (leaf next) second, after)

def buildGrid : (rows cols next : Nat) → LayoutNode R × Nat
  | 0, cols, next => buildRow cols next
  | 1, cols, next => buildRow cols next
  | rows + 2, cols, next =>
      let (first, middle) := buildRow cols next
      let (second, after) := buildGrid (rows + 1) cols middle
      (split .vertical (RatioOps.quotient 1 (rows + 2)) first second, after)

/-- Build a row from weighted columns: `[7, 3]` is a 70:30 split. -/
def buildWeightedRow : (weights : List Nat) → (total next : Nat) → LayoutNode R × Nat
  | [], _, next => (leaf next, next + 1)
  | [_], _, next => (leaf next, next + 1)
  | firstW :: w :: weights, total, next =>
      let (second, after) := buildWeightedRow (w :: weights) (total - firstW) (next + 1)
      (split .horizontal (RatioOps.quotient firstW total) (leaf next) second, after)

/-- Stack rows vertically with equal weight. -/
def buildWeightedColumn : (rows : List (LayoutNode R)) → (count : Nat) → LayoutNode R
  | [], _ => leaf 0
  | [row], _ => row
  | row :: next :: rows, count =>
      split .vertical (RatioOps.quotient 1 count) row (buildWeightedColumn (next :: rows) (count - 1))

end Construction

/-! ## Layout operations -/

namespace Layout
variable {R : Type} [RatioOps R]

def fromGrid (rows cols : Nat) : Layout R :=
  let (root, nextId) := buildGrid (max rows 1) (max cols 1) 0
  { root, nextId }

def paneIds (layout : Layout R) : List Nat := layout.root.collectIds

def paneCount (layout : Layout R) : Nat := layout.root.countLeaves

/-- Equalize all pane sizes: every leaf gets an equal share. -/
def equalize (layout : Layout R) : Layout R := { layout with root := layout.root.equalizeNode }

/-- Split a pane and equalize; the new pane's id is the old `nextId`. -/
def split (layout : Layout R) (targetId : Nat) (dir : Direction) : Layout R × Nat :=
  let newId := layout.nextId
  let root := layout.root.splitNode targetId newId dir
  (equalize { root, nextId := layout.nextId + 1 }, newId)

/-- Remove a pane, collapsing its parent split; `false` for the last pane. The
source takes the root out first, so a failed rewrite would leave the default leaf. -/
def remove (layout : Layout R) (targetId : Nat) : Layout R × Bool :=
  if layout.paneCount ≤ 1 || !layout.root.contains targetId then (layout, false)
  else match layout.root.removeNode targetId with
    | some root => ({ layout with root }, true)
    | none => ({ layout with root := .leaf 0 }, false)

/-- A single-pane layout owning `paneId`. -/
def singleton (paneId nextIdHint : Nat) : Layout R :=
  { root := .leaf paneId, nextId := max nextIdHint (paneId + 1) }

def setRatioAtPath (layout : Layout R) (path : List Bool) (ratio : R) : Layout R :=
  { layout with root := layout.root.setRatioAt ratio path }

/-- Next pane in tree order; an unknown pane counts as the first. -/
def nextPane (layout : Layout R) (current : Nat) : Nat :=
  let ids := layout.paneIds
  if ids.isEmpty then current
  else
    let pos := (ids.findIdx? (· == current)).getD 0
    ids.getD ((pos + 1) % ids.length) current

/-- Previous pane in tree order; an unknown pane counts as the first. -/
def prevPane (layout : Layout R) (current : Nat) : Nat :=
  let ids := layout.paneIds
  if ids.isEmpty then current
  else
    let pos := (ids.findIdx? (· == current)).getD 0
    if pos = 0 then ids.getD (ids.length - 1) current else ids.getD (pos - 1) current

/-- Swap the positions of two panes. -/
def swapPanes (layout : Layout R) (a b : Nat) : Layout R :=
  { layout with root := layout.root.swapLeafIds a b }

/-- Move the deepest separator with the matching axis on the pane's far side. -/
def resizePane (layout : Layout R) (paneId : Nat) (dir : NavDir) (delta : R) : Layout R × Bool :=
  if !RatioOps.isFinite delta then (layout, false)
  else
    let crumbs := (layout.root.collectPathToPane paneId []).getD []
    let targetDir : Direction := match dir with
      | .left | .right => .horizontal
      | .up | .down => .vertical
    let needInSecond : Bool := match dir with
      | .left | .up => true
      | .right | .down => false
    match crumbs.find? (fun (_, splitDir, inSecond) =>
        splitDir = targetDir && inSecond == needInSecond) with
    | some (path, _, _) =>
        let signed := if needInSecond then RatioOps.neg delta else delta
        ({ layout with root := layout.root.adjustRatioAt signed path }, true)
    | none => (layout, false)

end Layout

end Ezpn
