import Ezpn.Layout.Partition
import Ezpn.Server.Drag

/-!
# Where a drag puts the separator

A drag scales the mouse position over the cells between the outer ones of the area,
and the split allocates slots of a pane and a separator. The two scales meet in
the middle half of the area only.
-/

set_option autoImplicit false

namespace Ezpn

/-! ## One axis -/

namespace Direction

def along (direction : Direction) (x y : Nat) : Nat :=
  match direction with
  | .horizontal => x
  | .vertical => y

end Direction

namespace Rect

def origin (area : Rect) (direction : Direction) : Nat := direction.along area.x area.y

def extent (area : Rect) (direction : Direction) : Nat := direction.along area.w area.h

theorem Fits.extent {area : Rect} (fits : area.Fits) (direction : Direction) : area.extent direction ≤ u16Max := by
  cases direction with
  | horizontal => exact Nat.le_of_add_left_le fits.1
  | vertical => exact Nat.le_of_add_left_le fits.2

end Rect

namespace LayoutNode
variable {R : Type} [RatioOps R]

/-- The column, or the row, of the separator of the addressed split. -/
def separatorAt (node : LayoutNode R) (path : List Bool) (area : Rect) : Option Nat :=
  match node.splitAt path area, node.ratioAt path with
  | some (direction, area), some ratio =>
      let (first, _) := splitArea area direction ratio
      some (first.origin direction + first.extent direction)
  | _, _ => none

/-- Areas of splits lie inside the area of the tree. -/
theorem splitAt_inside {node : LayoutNode R} {path : List Bool} {area : Rect} (fits : area.Fits)
    {place : Direction × Rect} (addressed : node.splitAt path area = some place) : place.2.Inside area := by
  induction path generalizing node area with
  | nil =>
      cases node with
      | leaf id => cases addressed
      | split direction ratio first second =>
          obtain rfl := Option.some.inj addressed
          exact .refl area
  | cons turn path ih =>
      cases node with
      | leaf id => cases turn <;> cases addressed
      | split direction ratio first second =>
          obtain ⟨inFirst, inSecond⟩ := splitArea_inside fits direction ratio
          cases turn with
          | false => exact (ih (inFirst.fits fits) addressed).trans inFirst
          | true => exact (ih (inSecond.fits fits) addressed).trans inSecond

/-- Two cells besides the separator are enough for a split to take place. -/
theorem separatorAt_eq {node : LayoutNode R} {path : List Bool} {area place : Rect} {direction : Direction} {ratio : R}
    (addressed : node.splitAt path area = some (direction, place)) (stored : node.ratioAt path = some ratio)
    (fits : place.Fits) {first : Nat} (divided : splitExtent (place.extent direction) ratio = some first) :
    node.separatorAt path area = some (place.origin direction + first) := by
  simp only [separatorAt, addressed, stored]
  cases direction with
  | horizontal =>
      simp only [Rect.extent, Direction.along] at divided
      simp only [splitArea, fits.clipped, divided, Rect.origin, Rect.extent, Direction.along]
  | vertical =>
      simp only [Rect.extent, Direction.along] at divided
      simp only [splitArea, fits.clipped, divided, Rect.origin, Rect.extent, Direction.along]

end LayoutNode

/-! ## The two scales -/

/-- The slots of an exact ratio: the distance, and one slot more for each half of
the length that twice the distance is past a quarter. -/
theorem slots_quotient {distance length : Nat} (more : Nat) (positive : 0 < length)
    (lower : 2 * more * length ≤ 4 * distance + length) (upper : 4 * distance < (2 * more + 1) * length) :
    RatioOps.slots (length + 1) ((distance : ℚ) / length) = min (distance + more) u16Max := by
  have length_pos : (0 : ℚ) < length := by exact_mod_cast positive
  have lower' : 2 * (more : ℚ) * length ≤ 4 * distance + length := by exact_mod_cast lower
  have upper' : 4 * (distance : ℚ) < (2 * more + 1) * length := by exact_mod_cast upper
  have scaled : ((length + 1 : Nat) + 1 : ℚ) * (distance / length) + 1 / 2 =
      distance + (4 * distance + length) / (2 * length) := by
    push_cast
    field_simp
    ring
  have floor : ⌊((length + 1 : Nat) + 1 : ℚ) * (distance / length) + 1 / 2⌋ = ((distance + more : Nat) : ℤ) := by
    rw [Int.floor_eq_iff, scaled]
    push_cast
    constructor
    · have : (more : ℚ) ≤ (4 * distance + length) / (2 * length) := by
        rw [le_div_iff₀ (by linarith)]
        linarith
      linarith
    · have : (4 * distance + length) / (2 * length) < (more : ℚ) + 1 := by
        rw [div_lt_iff₀ (by linarith)]
        linarith
      linarith
  simp only [RatioOps.slots, floor, Int.toNat_natCast]

/-- The middle half of the length, from a quarter on. -/
def MiddleHalf (distance length : Nat) : Prop := length ≤ 4 * distance ∧ 4 * distance < 3 * length

instance (distance length : Nat) : Decidable (MiddleHalf distance length) := by
  unfold MiddleHalf
  infer_instance

/-- Cells of the first side, for a mouse that far into an area with so many cells
besides the separator. -/
def firstCells (distance length : Nat) : Nat :=
  if MiddleHalf distance length then distance
  else if 4 * distance < length then max (distance - 1) 1
  else min (distance + 1) (length - 1)

theorem splitExtent_quotient {distance length : Nat} (first : 1 ≤ distance) (second : distance + 1 ≤ length)
    (small : length + 1 ≤ u16Max) :
    splitExtent (length + 1) ((distance : ℚ) / length) = some (firstCells distance length) := by
  have positive : 0 < length := by omega
  have wide : ¬length < 2 := by omega
  simp only [splitExtent, RatioOps.isFinite, if_true, Nat.add_sub_cancel, if_neg wide, Option.some.injEq]
  unfold firstCells
  by_cases early : 4 * distance < length
  · have outer : ¬MiddleHalf distance length := fun middle => Nat.not_le_of_lt early middle.1
    rw [slots_quotient 0 positive (by omega) (by omega), if_neg outer, if_pos early]
    omega
  · by_cases late : 4 * distance < 3 * length
    · have middle : MiddleHalf distance length := ⟨Nat.le_of_not_lt early, late⟩
      rw [slots_quotient 1 positive (by omega) (by omega), if_pos middle]
      omega
    · have outer : ¬MiddleHalf distance length := fun middle => late middle.2
      rw [slots_quotient 2 positive (by omega) (by omega), if_neg outer, if_neg early]
      omega

theorem firstCells_eq_iff {distance length : Nat} (first : 1 ≤ distance) (second : distance + 1 ≤ length) :
    firstCells distance length = distance ↔
      MiddleHalf distance length ∨ distance = 1 ∨ distance + 1 = length := by
  unfold firstCells
  by_cases middle : MiddleHalf distance length
  · rw [if_pos middle]
    exact iff_of_true rfl (.inl middle)
  · rw [if_neg middle, or_iff_right middle]
    split
    · omega
    · have late : ¬4 * distance < 3 * length := fun late => middle ⟨by omega, late⟩
      omega

/-! ## Drags -/

namespace DragState

/-- The mouse position on the axis of the drag. -/
def position (drag : DragState) (mx my : Nat) : Nat := drag.direction.along mx my

/-- How far the mouse is into the area. -/
def distance (drag : DragState) (mx my : Nat) : Nat := drag.position mx my - drag.area.origin drag.direction

/-- The cells besides the separator. -/
def length (drag : DragState) : Nat := drag.area.extent drag.direction - 1

/-- The mouse is inside the area with at least one cell on either side, and the
ratio is not clipped. -/
structure Free (drag : DragState) (mx my : Nat) : Prop where
  first : drag.area.origin drag.direction + 1 ≤ drag.position mx my
  second : drag.position mx my + 2 ≤ drag.area.origin drag.direction + drag.area.extent drag.direction
  above : (1 / 10 : ℚ) ≤ (drag.distance mx my : ℚ) / drag.length
  below : (drag.distance mx my : ℚ) / drag.length ≤ 9 / 10

/-- The mouse is in the middle half of the area, or one cell from either end. -/
def Aligned (drag : DragState) (mx my : Nat) : Prop :=
  MiddleHalf (drag.distance mx my) drag.length ∨ drag.distance mx my = 1 ∨ drag.distance mx my + 1 = drag.length

theorem calcRatio_eq {drag : DragState} {mx my : Nat} (free : drag.Free mx my) :
    drag.calcRatio mx my = (drag.distance mx my : ℚ) / drag.length := by
  obtain ⟨first, second, above, below⟩ := free
  have unclipped : max (1 / 10 : ℚ) (min ((drag.distance mx my : ℚ) / drag.length) (9 / 10)) =
      (drag.distance mx my : ℚ) / drag.length := by
    rw [min_eq_left below, max_eq_right above]
  obtain ⟨path, direction, area⟩ := drag
  cases direction with
  | horizontal =>
      simp only [position, Rect.origin, Rect.extent, Direction.along] at first second
      have usable : area.w - 1 ≠ 0 := by omega
      simp only [calcRatio, if_neg usable, RatioOps.clamp, RatioOps.dragRatio]
      simpa only [distance, length, position, Rect.origin, Rect.extent, Direction.along,
        Nat.cast_sub (Nat.le_of_succ_le first)] using unclipped
  | vertical =>
      simp only [position, Rect.origin, Rect.extent, Direction.along] at first second
      have usable : area.h - 1 ≠ 0 := by omega
      simp only [calcRatio, if_neg usable, RatioOps.clamp, RatioOps.dragRatio]
      simpa only [distance, length, position, Rect.origin, Rect.extent, Direction.along,
        Nat.cast_sub (Nat.le_of_succ_le first)] using unclipped

/-- The separator after a drag to a free position. -/
theorem separatorAt_drag {node : LayoutNode ℚ} {content : Rect} {drag : DragState} {mx my : Nat}
    (x : content.x ≤ u16Max) (y : content.y ≤ u16Max)
    (addressed : node.splitAt drag.path content.clipped = some (drag.direction, drag.area))
    (free : drag.Free mx my) :
    (node.setRatioAt (drag.calcRatio mx my) drag.path).separatorAt drag.path content.clipped =
      some (drag.area.origin drag.direction + firstCells (drag.distance mx my) drag.length) := by
  have content_fits := Rect.clipped_fits x y
  have fits : drag.area.Fits := (LayoutNode.splitAt_inside content_fits addressed).fits content_fits
  have extent : drag.length + 1 = drag.area.extent drag.direction := by
    have first := free.first
    have second := free.second
    unfold length
    omega
  have small : drag.length + 1 ≤ u16Max := extent ▸ fits.extent drag.direction
  obtain ⟨old, had⟩ := LayoutNode.ratioAt_splitAt addressed
  have stored : (node.setRatioAt (drag.calcRatio mx my) drag.path).ratioAt drag.path =
      some ((drag.distance mx my : ℚ) / drag.length) := by
    have unclipped : RatioOps.clamp ((drag.distance mx my : ℚ) / drag.length) = (drag.distance mx my : ℚ) / drag.length := by
      simp only [RatioOps.clamp]
      rw [min_eq_left free.below, max_eq_right free.above]
    rw [LayoutNode.ratioAt_setRatioAt node rfl, if_pos rfl, had, Option.map_some, calcRatio_eq free, unclipped]
  have placed : (node.setRatioAt (drag.calcRatio mx my) drag.path).splitAt drag.path content.clipped =
      some (drag.direction, drag.area) := by
    rw [LayoutNode.splitAt_spine, LayoutNode.spine_setRatioAt, ← LayoutNode.splitAt_spine, addressed]
  have divided : splitExtent (drag.area.extent drag.direction) ((drag.distance mx my : ℚ) / drag.length) =
      some (firstCells (drag.distance mx my) drag.length) := by
    have first := free.first
    have second := free.second
    rw [← extent]
    refine splitExtent_quotient ?_ ?_ small
    · unfold distance
      omega
    · unfold distance
      omega
  exact LayoutNode.separatorAt_eq placed stored fits divided

/-- A drag to a free position puts the separator under the mouse exactly in the
middle half of the area and one cell from its ends. -/
theorem drag_placed_iff {node : LayoutNode ℚ} {content : Rect} {drag : DragState} {mx my : Nat}
    (x : content.x ≤ u16Max) (y : content.y ≤ u16Max)
    (addressed : node.splitAt drag.path content.clipped = some (drag.direction, drag.area))
    (free : drag.Free mx my) :
    (node.setRatioAt (drag.calcRatio mx my) drag.path).separatorAt drag.path content.clipped =
      some (drag.position mx my) ↔ drag.Aligned mx my := by
  have first := free.first
  have second := free.second
  have near : 1 ≤ drag.distance mx my := by
    unfold distance
    omega
  have far : drag.distance mx my + 1 ≤ drag.length := by
    unfold distance length
    omega
  have apart : drag.position mx my = drag.area.origin drag.direction + drag.distance mx my := by
    unfold distance
    omega
  rw [separatorAt_drag x y addressed free, Option.some.injEq, apart, Nat.add_left_cancel_iff,
    firstCells_eq_iff near far]
  rfl

/-- A drag in 21 columns to where the separator already is, with the ratio that an
earlier drag in 41 columns had left. -/
theorem stillDrag_moves :
    let node : LayoutNode ℚ := .split .horizontal (9 / 40) (.leaf 0) (.leaf 1)
    let content : Rect := ⟨0, 0, 21, 10⟩
    let drag : DragState := { path := [], direction := .horizontal, area := content }
    node.splitAt drag.path content.clipped = some (drag.direction, drag.area) ∧ drag.Free 4 0 ∧
      node.separatorAt drag.path content.clipped = some 4 ∧
      (node.setRatioAt (drag.calcRatio 4 0) drag.path).separatorAt drag.path content.clipped = some 3 := by
  refine ⟨by decide +kernel, ⟨by decide +kernel, by decide +kernel, ?_, ?_⟩, by decide +kernel, by decide +kernel⟩
  · decide +kernel
  · decide +kernel

/-- A drag to the middle of 21 columns. -/
theorem centralDrag_placed :
    let node : LayoutNode ℚ := .split .horizontal (9 / 40) (.leaf 0) (.leaf 1)
    let content : Rect := ⟨0, 0, 21, 10⟩
    let drag : DragState := { path := [], direction := .horizontal, area := content }
    (node.setRatioAt (drag.calcRatio 10 0) drag.path).separatorAt drag.path content.clipped = some 10 :=
  (drag_placed_iff (by decide +kernel) (by decide +kernel) (by decide +kernel)
    ⟨by decide +kernel, by decide +kernel, by decide +kernel, by decide +kernel⟩).mpr
    (.inl (by decide +kernel))

end DragState

end Ezpn
