import Ezpn.Layout.HitTest

/-!
# Resizing from the keyboard

The separator that a key moves is the one of the deepest split along the axis that
has the pane on its far side. What the move does to the pane itself is followed
through the splits between the two.
-/

set_option autoImplicit false

namespace Ezpn

/-- The size along an axis. -/
def Rect.span (r : Rect) : Direction → Nat
  | .horizontal => r.w
  | .vertical => r.h

/-- The direction of the splits whose separators a key moves. -/
def NavDir.axis : NavDir → Direction
  | .left | .right => .horizontal
  | .up | .down => .vertical

/-- Whether the pane must be in the second part of such a split. -/
def NavDir.inSecond : NavDir → Bool
  | .left | .up => true
  | .right | .down => false

namespace LayoutNode
variable {R : Type}

/-- The addressed split holds the pane, in its first or in its second part. -/
inductive Ancestor (target : Nat) : LayoutNode R → List Bool → Direction → Bool → Prop where
  | first {first : LayoutNode R} (direction : Direction) (ratio : R) (second : LayoutNode R)
      (member : target ∈ first.collectIds) : Ancestor target (split direction ratio first second) [] direction false
  | second {second : LayoutNode R} (direction : Direction) (ratio : R) (first : LayoutNode R)
      (member : target ∈ second.collectIds) : Ancestor target (split direction ratio first second) [] direction true
  | inFirst {first : LayoutNode R} {path : List Bool} {axis : Direction} {side : Bool} (direction : Direction) (ratio : R)
      (second : LayoutNode R) (deeper : Ancestor target first path axis side) :
      Ancestor target (split direction ratio first second) (false :: path) axis side
  | inSecond {second : LayoutNode R} {path : List Bool} {axis : Direction} {side : Bool} (direction : Direction) (ratio : R)
      (first : LayoutNode R) (deeper : Ancestor target second path axis side) :
      Ancestor target (split direction ratio first second) (true :: path) axis side

theorem Ancestor.member {target : Nat} {node : LayoutNode R} {path : List Bool} {axis : Direction} {side : Bool}
    (ancestor : Ancestor target node path axis side) : target ∈ node.collectIds := by
  induction ancestor with
  | first direction ratio second member => exact List.mem_append_left _ member
  | second direction ratio first member => exact List.mem_append_right _ member
  | inFirst direction ratio second _ ih => exact List.mem_append_left _ ih
  | inSecond direction ratio first _ ih => exact List.mem_append_right _ ih

theorem Ancestor.ratioAt {target : Nat} {node : LayoutNode R} {path : List Bool} {axis : Direction} {side : Bool}
    (ancestor : Ancestor target node path axis side) : ∃ ratio, node.ratioAt path = some ratio := by
  induction ancestor with
  | first direction ratio second _ => exact ⟨ratio, rfl⟩
  | second direction ratio first _ => exact ⟨ratio, rfl⟩
  | inFirst direction ratio second _ ih => exact ih
  | inSecond direction ratio first _ ih => exact ih

/-! ## Breadcrumbs -/

end LayoutNode

/-! ## Which separator moves -/

namespace Layout
variable {R : Type} [RatioOps R]

/-- The change of the ratio, by the direction of the key. -/
def signed (dir : NavDir) (delta : R) : R := if dir.inSecond then RatioOps.neg delta else delta

/-- The first breadcrumb that fits the key. -/
def grabbed (layout : Layout R) (paneId : Nat) (dir : NavDir) : Option (List Bool × Direction × Bool) :=
  ((layout.root.collectPathToPane paneId []).getD []).find? fun (_, splitDir, inSecond) =>
    splitDir = dir.axis && inSecond == dir.inSecond

end Layout

end Ezpn
