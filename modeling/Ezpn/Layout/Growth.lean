import Ezpn.Layout.Resize

/-!
# What a resize does to the pane

Moving the separator gives the part with the pane more room, and each split below
passes the room on, unless it had none to be cut in and is cut now.
-/

set_option autoImplicit false

namespace Ezpn

/-- Ratios that are ordered like the cells they give. -/
class SteadyRatios (R : Type) [RatioOps R] extends LE R where
  /-- `delta > 0.0` -/
  Positive : R → Prop
  le_add : ∀ ratio delta : R, Positive delta → ratio ≤ RatioOps.add ratio delta
  add_neg_le : ∀ ratio delta : R, Positive delta → RatioOps.add ratio (RatioOps.neg delta) ≤ ratio
  finite_of_add : ∀ ratio delta : R, RatioOps.isFinite (RatioOps.add ratio delta) = true → RatioOps.isFinite ratio = true
  finite_of_clamp : ∀ ratio : R, RatioOps.clamp ratio = ratio → RatioOps.isFinite ratio = true
  slots_ratio : ∀ (extent : Nat) (ratio larger : R), ratio ≤ larger → RatioOps.slots extent ratio ≤ RatioOps.slots extent larger
  slots_extent : ∀ (extent : Nat) (ratio : R), RatioOps.slots extent ratio ≤ RatioOps.slots (extent + 1) ratio
  /-- one more cell is at most one more slot, short of the whole extent -/
  slots_next : ∀ (extent : Nat) (ratio : R), extent ≤ u16Max →
    RatioOps.slots (extent + 1) ratio ≤ RatioOps.slots extent ratio + 1 ∨ extent ≤ RatioOps.slots extent ratio

instance : SteadyRatios ℚ where
  Positive delta := 0 < delta
  le_add ratio delta positive := le_add_of_nonneg_right (le_of_lt positive)
  add_neg_le ratio delta positive := by
    change ratio + -delta ≤ ratio
    linarith
  finite_of_add _ _ _ := rfl
  finite_of_clamp _ _ := rfl
  slots_ratio extent ratio larger le := by
    have scaled : (extent + 1 : ℚ) * ratio + 1 / 2 ≤ (extent + 1 : ℚ) * larger + 1 / 2 := by
      have positive : (0 : ℚ) ≤ extent + 1 := by positivity
      have := mul_le_mul_of_nonneg_left le positive
      linarith
    have floors := Int.toNat_le_toNat (Int.floor_le_floor scaled)
    change min _ _ ≤ min _ _
    omega
  slots_extent extent ratio := by
    change min _ _ ≤ min _ _
    rcases le_total 0 ratio with positive | negative
    · have scaled : (extent + 1 : ℚ) * ratio + 1 / 2 ≤ ((extent + 1 : ℕ) + 1 : ℚ) * ratio + 1 / 2 := by
        push_cast
        nlinarith
      have floors := Int.toNat_le_toNat (Int.floor_le_floor scaled)
      omega
    · have none : ⌊(extent + 1 : ℚ) * ratio + 1 / 2⌋ ≤ 0 := by
        have bound : (extent + 1 : ℚ) * ratio ≤ 0 := mul_nonpos_of_nonneg_of_nonpos (by positivity) negative
        have below : ⌊(extent + 1 : ℚ) * ratio + 1 / 2⌋ < 1 := by
          rw [Int.floor_lt]
          push_cast
          linarith
        omega
      omega
  slots_next extent ratio small := by
    change min _ _ ≤ min _ _ + 1 ∨ extent ≤ min _ _
    rcases le_total ratio 1 with proper | large
    · refine .inl ?_
      have scaled : ((extent + 1 : ℕ) + 1 : ℚ) * ratio + 1 / 2 ≤ ((extent + 1 : ℚ) * ratio + 1 / 2) + (1 : ℤ) := by
        push_cast
        nlinarith
      have floors := Int.floor_le_floor scaled
      rw [Int.floor_add_intCast] at floors
      omega
    · refine .inr (le_min ?_ small)
      have whole : ((extent + 1 : ℕ) : ℤ) ≤ ⌊(extent + 1 : ℚ) * ratio + 1 / 2⌋ := by
        rw [Int.le_floor]
        push_cast
        have : (0 : ℚ) ≤ extent := by positivity
        nlinarith
      omega

/-! ## One split -/

section Extents
variable {R : Type} [RatioOps R]

/-- The parts of an extent; one that is too small goes to the first part. -/
def parts (extent : Nat) (ratio : R) : Nat × Nat :=
  match splitExtent extent ratio with
  | none => (extent, 0)
  | some first => (first, extent - 1 - first)

/-- Along the axis the parts share the extent, across it both have the whole. -/
theorem splitArea_extent {area : Rect} (fits : area.Fits) (direction axis : Direction) (ratio : R) :
    (splitArea area direction ratio).1.span axis =
      (if direction = axis then (parts (area.span axis) ratio).1 else area.span axis) ∧
    (splitArea area direction ratio).2.span axis =
      if direction = axis then (parts (area.span axis) ratio).2 else area.span axis := by
  cases direction with
  | horizontal =>
      simp only [splitArea, fits.clipped, parts]
      cases axis with
      | horizontal =>
          simp only [Rect.span, if_true]
          cases splitExtent area.w ratio <;> exact ⟨rfl, rfl⟩
      | vertical =>
          simp only [Rect.span, reduceCtorEq, if_false]
          cases splitExtent area.w ratio <;> exact ⟨rfl, rfl⟩
  | vertical =>
      simp only [splitArea, fits.clipped, parts]
      cases axis with
      | horizontal =>
          simp only [Rect.span, reduceCtorEq, if_false]
          cases splitExtent area.h ratio <;> exact ⟨rfl, rfl⟩
      | vertical =>
          simp only [Rect.span, if_true]
          cases splitExtent area.h ratio <;> exact ⟨rfl, rfl⟩

theorem Rect.Fits.span {area : Rect} (fits : area.Fits) (axis : Direction) : area.span axis ≤ u16Max := by
  obtain ⟨right, below⟩ := fits
  cases axis with
  | horizontal =>
      simp only [Rect.span]
      omega
  | vertical =>
      simp only [Rect.span]
      omega

/-- The ratio that a split takes for a given one. -/
def properRatio (ratio : R) : R := if RatioOps.isFinite ratio then ratio else RatioOps.half

theorem parts_large {extent : Nat} (large : 3 ≤ extent) (ratio : R) :
    parts extent ratio = (min (max (RatioOps.slots extent (properRatio ratio) - 1) 1) (extent - 2),
      extent - 1 - min (max (RatioOps.slots extent (properRatio ratio) - 1) 1) (extent - 2)) := by
  have cut : splitExtent extent ratio =
      some (min (max (RatioOps.slots extent (properRatio ratio) - 1) 1) (extent - 2)) := by
    simp only [splitExtent]
    rw [if_neg (by omega)]
    rfl
  rw [parts, cut]

variable [SteadyRatios R]

end Extents

/-! ## Below the separator -/

namespace LayoutNode
variable {R : Type} [RatioOps R] [SteadyRatios R]

omit [RatioOps R] [SteadyRatios R] in
theorem listed {target : Nat} {pairs : List (Nat × Rect)} {ids : List Nat} (keys : pairs.map (·.1) = ids) {r : Rect}
    (member : (target, r) ∈ pairs) : target ∈ ids :=
  keys ▸ List.mem_map_of_mem (f := (·.1)) member

end LayoutNode

/-! ## Layouts -/

namespace Layout
variable {R : Type} [RatioOps R] [SteadyRatios R]

end Layout

end Ezpn
