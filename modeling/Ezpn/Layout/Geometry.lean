import Ezpn.Layout.Tree

/-!
# Layout geometry

Rectangles, the recursive area split, separators and hit tests of `layout.rs`.
Cell coordinates are natural numbers; the source keeps them in `u16`.
-/

set_option autoImplicit false

namespace Ezpn

structure Rect where
  x : Nat
  y : Nat
  w : Nat
  h : Nat
  deriving DecidableEq, Repr

/-- A map keyed by pane id. Iteration is by increasing id, where the source's
hash map leaves the order open. -/
abbrev IdMap (α : Type) : Type := Std.ExtTreeMap Nat α compare

theorem IdMap.mem_insert_iff {α : Type} {m : IdMap α} {k id : Nat} {v : α} :
    id ∈ m.insert k v ↔ id = k ∨ id ∈ m := by
  rw [Std.ExtTreeMap.mem_insert, Nat.compare_eq_eq, eq_comm]

theorem IdMap.mem_erase_iff {α : Type} {m : IdMap α} {k id : Nat} : id ∈ m.erase k ↔ id ≠ k ∧ id ∈ m := by
  rw [Std.ExtTreeMap.mem_erase, ne_eq, Nat.compare_eq_eq, eq_comm]

theorem IdMap.getElem?_insert {α : Type} {m : IdMap α} {k id : Nat} {v : α} :
    (m.insert k v)[id]? = if id = k then some v else m[id]? := by
  simp only [Std.ExtTreeMap.getElem?_insert, Nat.compare_eq_eq, eq_comm (a := k)]

theorem IdMap.getElem?_erase {α : Type} {m : IdMap α} {k id : Nat} :
    (m.erase k)[id]? = if id = k then none else m[id]? := by
  simp only [Std.ExtTreeMap.getElem?_erase, Nat.compare_eq_eq, eq_comm (a := k)]

theorem IdMap.getElem?_modify {α : Type} {m : IdMap α} {k id : Nat} {f : α → α} :
    (m.modify k f)[id]? = if id = k then m[id]?.map f else m[id]? := by
  simp only [Std.ExtTreeMap.getElem?_modify, Nat.compare_eq_eq, eq_comm (a := k)]
  split
  · rename_i same
    rw [same]
  · rfl

/-- After one value is inserted at many places there is no other, if there was none before. -/
theorem IdMap.value_of_inserts {α : Type} {v w : α} (ids : List Nat) (m : IdMap α)
    (all : ∀ (id : Nat) (w : α), m[id]? = some w → w = v) {id : Nat}
    (found : (ids.foldl (fun m id => m.insert id v) m)[id]? = some w) : w = v := by
  induction ids generalizing m with
  | nil => exact all id w found
  | cons first ids ih =>
      refine ih (m.insert first v) (fun other w found => ?_) found
      rw [getElem?_insert] at found
      split at found
      · exact (Option.some.inj found).symm
      · exact all other w found

theorem IdMap.mem_of_getElem? {α : Type} {m : IdMap α} {id : Nat} {v : α} (found : m[id]? = some v) : id ∈ m :=
  Std.ExtTreeMap.mem_iff_isSome_getElem?.mpr (by simp [found])

theorem IdMap.getElem?_of_mem {α : Type} {m : IdMap α} {id : Nat} (member : id ∈ m) : ∃ v, m[id]? = some v :=
  Option.isSome_iff_exists.mp (Std.ExtTreeMap.mem_iff_isSome_getElem?.mp member)

namespace Rect

/-- Clip to representable terminal extents. -/
def clipped (r : Rect) : Rect :=
  { r with w := min r.w (u16Max - r.x), h := min r.h (u16Max - r.y) }

def contains (r : Rect) (x y : Nat) : Bool :=
  x ≥ r.x && x - r.x < r.w && y ≥ r.y && y - r.y < r.h

end Rect

/-- First slot of a split axis of `extent` cells; `none` when it is too small. -/
def splitExtent {R : Type} [RatioOps R] (extent : Nat) (ratio : R) : Option Nat :=
  let ratio := if RatioOps.isFinite ratio then ratio else RatioOps.half
  let usable := extent - 1
  if usable < 2 then none
  else some (min (max (RatioOps.slots extent ratio - 1) 1) (usable - 1))

def splitArea {R : Type} [RatioOps R] (area : Rect) (dir : Direction) (ratio : R) : Rect × Rect :=
  let area := area.clipped
  match dir with
  | .horizontal =>
      match splitExtent area.w ratio with
      | none => (area, { area with w := 0 })
      | some fw => ({ area with w := fw }, { area with x := area.x + fw + 1, w := area.w - 1 - fw })
  | .vertical =>
      match splitExtent area.h ratio with
      | none => (area, { area with h := 0 })
      | some fh => ({ area with h := fh }, { area with y := area.y + fh + 1, h := area.h - 1 - fh })

structure SepLine where
  horizontal : Bool
  x : Nat
  y : Nat
  length : Nat
  deriving DecidableEq, Repr

/-- A separator grabbed for dragging: tree path, split direction and node area. -/
structure SepHit where
  path : List Bool
  direction : Direction
  area : Rect
  deriving DecidableEq, Repr

namespace LayoutNode
variable {R : Type} [RatioOps R]

def collectRects : LayoutNode R → Rect → IdMap Rect → IdMap Rect
  | leaf id, area, out => out.insert id area
  | split direction ratio first second, area, out =>
      let (a1, a2) := splitArea area direction ratio
      second.collectRects a2 (first.collectRects a1 out)

def collectSeps (outer : Rect) : LayoutNode R → Rect → List SepLine
  | leaf _, _ => []
  | split direction ratio first second, area =>
      if area.w = 0 || area.h = 0 || outer.w = 0 || outer.h = 0 then []
      else
        let (a1, a2) := splitArea area direction ratio
        let here : List SepLine := match direction with
          | .horizontal =>
              if a2.w > 0 && outer.contains (a1.x + a1.w) area.y then
                let y0 := max (area.y - 1) outer.y
                let y1 := min (area.y + area.h) (outer.y + outer.h - 1)
                [{ horizontal := false, x := a1.x + a1.w, y := y0, length := y1 - y0 + 1 }]
              else []
          | .vertical =>
              if a2.h > 0 && outer.contains area.x (a1.y + a1.h) then
                let x0 := max (area.x - 1) outer.x
                let x1 := min (area.x + area.w) (outer.x + outer.w - 1)
                [{ horizontal := true, x := x0, y := a1.y + a1.h, length := x1 - x0 + 1 }]
              else []
        here ++ first.collectSeps outer a1 ++ second.collectSeps outer a2

def findAtNode (x y : Nat) : LayoutNode R → Rect → Option Nat
  | leaf id, area => if area.contains x y then some id else none
  | split direction ratio first second, area =>
      let (a1, a2) := splitArea area direction ratio
      (first.findAtNode x y a1).or (second.findAtNode x y a2)

def findSepAt (x y : Nat) : LayoutNode R → Rect → List Bool → Option SepHit
  | leaf _, _, _ => none
  | split direction ratio first second, area, path =>
      if !area.contains x y then none
      else
        let (a1, a2) := splitArea area direction ratio
        -- one cell of tolerance on either side of the separator
        let onSep : Bool := match direction with
          | .horizontal =>
              let sepX := a1.x + a1.w
              a2.w > 0 && x ≥ sepX - 1 && x ≤ min (sepX + 1) u16Max && y ≥ area.y && y < area.y + area.h
          | .vertical =>
              let sepY := a1.y + a1.h
              a2.h > 0 && y ≥ sepY - 1 && y ≤ min (sepY + 1) u16Max && x ≥ area.x && x < area.x + area.w
        if onSep then some { path, direction, area }
        else (first.findSepAt x y a1 (path ++ [false])).or (second.findSepAt x y a2 (path ++ [true]))

end LayoutNode

def vOverlap (a b : Rect) : Bool := a.y < b.y + b.h && b.y < a.y + a.h

def hOverlap (a b : Rect) : Bool := a.x < b.x + b.w && b.x < a.x + a.w

def isAdjacent (src dst : Rect) (dir : NavDir) : Bool :=
  if src.w = 0 || src.h = 0 || dst.w = 0 || dst.h = 0 then false
  else match dir with
    | .left => dst.x + dst.w ≤ src.x && vOverlap src dst
    | .right => dst.x ≥ src.x + src.w && vOverlap src dst
    | .up => dst.y + dst.h ≤ src.y && hOverlap src dst
    | .down => dst.y ≥ src.y + src.h && hOverlap src dst

def navDistance (src dst : Rect) (dir : NavDir) : Nat :=
  match dir with
  | .left => src.x - (dst.x + dst.w)
  | .right => dst.x - (src.x + src.w)
  | .up => src.y - (dst.y + dst.h)
  | .down => dst.y - (src.y + src.h)

namespace Layout
variable {R : Type} [RatioOps R]

/-- Content rectangles of all panes. -/
def paneRects (layout : Layout R) (inner : Rect) : IdMap Rect :=
  layout.root.collectRects inner.clipped ∅

def separators (layout : Layout R) (inner outer : Rect) : List SepLine :=
  layout.root.collectSeps outer.clipped inner.clipped

def findAt (layout : Layout R) (x y : Nat) (inner : Rect) : Option Nat :=
  layout.root.findAtNode x y inner.clipped

def findSeparatorAt (layout : Layout R) (x y : Nat) (inner : Rect) : Option SepHit :=
  layout.root.findSepAt x y inner.clipped []

/-- Nearest pane in a direction, ties broken by the smaller id. -/
def navigate (layout : Layout R) (fromId : Nat) (nav : NavDir) (inner : Rect) : Option Nat :=
  let rects := layout.paneRects inner
  match rects[fromId]? with
  | none => none
  | some src =>
      let adjacent := rects.toList.filter fun (id, r) => id != fromId && isAdjacent src r nav
      let closer (best : Option (Nat × Nat)) (candidate : Nat × Rect) : Option (Nat × Nat) :=
        let distance := navDistance src candidate.2 nav
        match best with
        | none => some (distance, candidate.1)
        | some (nearest, id) =>
            if distance < nearest || (distance = nearest && candidate.1 < id) then
              some (distance, candidate.1)
            else some (nearest, id)
      (adjacent.foldl closer none).map (·.2)

end Layout

end Ezpn
