import Ezpn.Layout.Partition
import Ezpn.Layout.Separator

/-!
# Grabbing separators

A hit names the split whose separator is beside the point, and every cell that a
separator is drawn on gives a hit.
-/

set_option autoImplicit false

namespace Ezpn

/-- A range that clamped ratios lie in, `0.1..0.9` for the ratios of the program. -/
class RatioRange (R : Type) [RatioOps R] [LE R] where
  lowest : R
  highest : R
  lowest_le : ∀ ratio : R, RatioOps.isFinite ratio = true → lowest ≤ RatioOps.clamp ratio
  le_highest : ∀ ratio : R, RatioOps.isFinite ratio = true → RatioOps.clamp ratio ≤ highest

instance : RatioRange ℚ where
  lowest := 1 / 10
  highest := 9 / 10
  lowest_le ratio _ := le_max_left _ _
  le_highest ratio _ := max_le (by norm_num) (min_le_right _ _)

section Cells
variable {R : Type} [RatioOps R]

/-- The column or row of cells between the parts of an area, if it is cut. -/
def separatorLine (area : Rect) (direction : Direction) (ratio : R) : Option Nat :=
  let (a1, a2) := splitArea area direction ratio
  match direction with
  | .horizontal => if a2.w > 0 then some (a1.x + a1.w) else none
  | .vertical => if a2.h > 0 then some (a1.y + a1.h) else none

/-- The point is on the separator of the split, or on one of the cells beside it. -/
def Beside (area : Rect) (direction : Direction) (ratio : R) (x y : Nat) : Prop :=
  ∃ line, separatorLine area direction ratio = some line ∧
    match direction with
    | .horizontal => line ≤ x + 1 ∧ x ≤ line + 1
    | .vertical => line ≤ y + 1 ∧ y ≤ line + 1

namespace LayoutNode

/-- What the hit test makes of a split: its own separator first, then the parts. -/
theorem findSepAt_split (x y : Nat) (direction : Direction) (ratio : R) (first second : LayoutNode R) {area : Rect}
    (cell : area.contains x y = true) (path : List Bool) :
    ((split direction ratio first second).findSepAt x y area path = some { path, direction, area } ∧
      Beside area direction ratio x y) ∨
    (split direction ratio first second).findSepAt x y area path =
      (first.findSepAt x y (splitArea area direction ratio).1 (path ++ [false])).or
        (second.findSepAt x y (splitArea area direction ratio).2 (path ++ [true])) := by
  rw [findSepAt, cell]
  simp only [Bool.not_true, Bool.false_eq_true, if_false]
  cases direction with
  | horizontal =>
      dsimp only
      split
      · rename_i onSep
        simp only [Bool.and_eq_true, decide_eq_true_eq] at onSep
        refine .inl ⟨rfl, (splitArea area .horizontal ratio).1.x + (splitArea area .horizontal ratio).1.w,
          if_pos onSep.1.1.1.1, ?_⟩
        dsimp only
        omega
      · exact .inr rfl
  | vertical =>
      dsimp only
      split
      · rename_i onSep
        simp only [Bool.and_eq_true, decide_eq_true_eq] at onSep
        refine .inl ⟨rfl, (splitArea area .vertical ratio).1.y + (splitArea area .vertical ratio).1.h,
          if_pos onSep.1.1.1.1, ?_⟩
        dsimp only
        omega
      · exact .inr rfl

/-- Outside the area there is no hit. -/
theorem findSepAt_outside {node : LayoutNode R} {area : Rect} {x y : Nat} (outside : ¬area.contains x y = true)
    (path : List Bool) : node.findSepAt x y area path = none := by
  cases node with
  | leaf id => rfl
  | split direction ratio first second =>
      unfold findSepAt
      rw [Bool.not_eq_true] at outside
      simp only [outside, Bool.not_false, if_true]

/-- The point of a hit is in the area of the split and beside its separator. -/
theorem findSepAt_beside {x y : Nat} {node : LayoutNode R} {area : Rect} {path : List Bool} {hit : SepHit}
    (found : node.findSepAt x y area path = some hit) :
    ∃ turns ratio, hit.path = path ++ turns ∧ node.splitAt turns area = some (hit.direction, hit.area) ∧
      node.ratioAt turns = some ratio ∧ hit.area.contains x y = true ∧ Beside hit.area hit.direction ratio x y := by
  induction node generalizing area path with
  | leaf id => cases found
  | split direction ratio first second ihFirst ihSecond =>
      have cell : area.contains x y = true := by
        by_contra outside
        rw [findSepAt_outside outside] at found
        cases found
      rcases findSepAt_split x y direction ratio first second cell path with ⟨here, beside⟩ | below
      · rw [here] at found
        cases found
        exact ⟨[], ratio, (List.append_nil path).symm, rfl, rfl, cell, beside⟩
      · rw [below] at found
        rcases Option.or_eq_some_iff.mp found with inFirst | ⟨_, inSecond⟩
        · obtain ⟨turns, deep, extended, there, moved, rest⟩ := ihFirst inFirst
          exact ⟨false :: turns, deep, by simp [extended], there, moved, rest⟩
        · obtain ⟨turns, deep, extended, there, moved, rest⟩ := ihSecond inSecond
          exact ⟨true :: turns, deep, by simp [extended], there, moved, rest⟩

/-- The line between the parts of a split gives a hit. -/
theorem findSepAt_line {x y : Nat} (direction : Direction) (ratio : R) (first second : LayoutNode R) {area : Rect}
    (fits : area.Fits) (cell : area.contains x y = true)
    (notFirst : (splitArea area direction ratio).1.contains x y = false)
    (notSecond : (splitArea area direction ratio).2.contains x y = false) (path : List Bool) :
    (split direction ratio first second).findSepAt x y area path = some { path, direction, area } := by
  unfold findSepAt
  have bounds := Rect.contains_iff.mp cell
  obtain ⟨right, below⟩ := fits
  rw [cell]
  simp only [Bool.not_true, Bool.false_eq_true, if_false]
  rw [if_pos]
  rcases splitArea_cases ⟨right, below⟩ direction ratio with
    ⟨second, whole, _, _⟩ | ⟨fw, rfl, positive, room, cut⟩ | ⟨fh, rfl, positive, room, cut⟩
  · rw [whole, cell] at notFirst
    cases notFirst
  · rw [cut] at notFirst notSecond
    simp only [← Bool.not_eq_true, Rect.contains_iff] at notFirst notSecond
    simp only [cut, Bool.and_eq_true, decide_eq_true_eq]
    omega
  · rw [cut] at notFirst notSecond
    simp only [← Bool.not_eq_true, Rect.contains_iff] at notFirst notSecond
    simp only [cut, Bool.and_eq_true, decide_eq_true_eq]
    omega

/-- A cell that no pane owns gives a hit. -/
theorem findSepAt_unowned (node : LayoutNode R) {area : Rect} (fits : area.Fits) {x y : Nat}
    (cell : area.contains x y = true) (unowned : ∀ e ∈ node.rects area, ¬e.2.contains x y = true) (path : List Bool) :
    (node.findSepAt x y area path).isSome = true := by
  induction node generalizing area path with
  | leaf id => exact absurd cell (unowned (id, area) (List.mem_singleton_self _))
  | split direction ratio first second ihFirst ihSecond =>
      have parts := splitArea_inside fits direction ratio
      rcases findSepAt_split x y direction ratio first second cell path with ⟨here, _⟩ | below
      · rw [here]
        rfl
      cases inFirst : (splitArea area direction ratio).1.contains x y with
      | true =>
          have hit := ihFirst (parts.1.fits fits) inFirst
            (fun e member => unowned e (List.mem_append_left _ member)) (path ++ [false])
          rw [below, Option.isSome_or, hit, Bool.true_or]
      | false =>
          cases inSecond : (splitArea area direction ratio).2.contains x y with
          | true =>
              have hit := ihSecond (parts.2.fits fits) inSecond
                (fun e member => unowned e (List.mem_append_right _ member)) (path ++ [true])
              rw [below, Option.isSome_or, hit, Bool.or_true]
          | false =>
              rw [findSepAt_line direction ratio first second fits cell inFirst inSecond]
              rfl

end LayoutNode

/-! ## The frame -/

/-- All cells that a terminal can have. -/
def fullScreen : Rect := { x := 0, y := 0, w := u16Max, h := u16Max }

theorem fits_fullScreen {r : Rect} (fits : r.Fits) : r.Inside fullScreen :=
  ⟨Nat.zero_le _, by have := fits.right; simpa [fullScreen] using this, Nat.zero_le _,
    by have := fits.below; simpa [fullScreen] using this⟩

/-- A smaller frame draws less of a separator. -/
theorem splitLine_frame {outer area a1 a2 : Rect} (outerFits : outer.Fits) {direction : Direction} {x y : Nat}
    (drawn : Drawn (splitLine outer area a1 a2 direction) x y) : Drawn (splitLine fullScreen area a1 a2 direction) x y := by
  obtain ⟨right, below⟩ := outerFits
  obtain ⟨sep, member, covers⟩ := drawn
  cases direction with
  | horizontal =>
      simp only [splitLine] at member
      split at member
      · rename_i inFrame
        simp only [Bool.and_eq_true, decide_eq_true_eq, Rect.contains_iff] at inFrame
        have inFull : fullScreen.contains (a1.x + a1.w) area.y = true := by
          simp only [Rect.contains_iff, fullScreen]
          omega
        rw [List.mem_singleton] at member
        subst member
        simp only [SepLine.Covers, Bool.false_eq_true, if_false] at covers
        simp only [splitLine, inFull, inFrame.1, decide_true, Bool.and_self, if_true, Drawn, List.mem_singleton,
          exists_eq_left, SepLine.Covers, Bool.false_eq_true, if_false]
        simp only [fullScreen]
        omega
      · cases member
  | vertical =>
      simp only [splitLine] at member
      split at member
      · rename_i inFrame
        simp only [Bool.and_eq_true, decide_eq_true_eq, Rect.contains_iff] at inFrame
        have inFull : fullScreen.contains area.x (a1.y + a1.h) = true := by
          simp only [Rect.contains_iff, fullScreen]
          omega
        rw [List.mem_singleton] at member
        subst member
        simp only [SepLine.Covers, if_true] at covers
        simp only [splitLine, inFull, inFrame.1, decide_true, Bool.and_self, if_true, Drawn, List.mem_singleton,
          exists_eq_left, SepLine.Covers]
        simp only [fullScreen]
        omega
      · cases member

theorem LayoutNode.collectSeps_frame (node : LayoutNode R) {outer area : Rect} (outerFits : outer.Fits) {x y : Nat}
    (drawn : Drawn (node.collectSeps outer area) x y) : Drawn (node.collectSeps fullScreen area) x y := by
  induction node generalizing area with
  | leaf id => exact drawn
  | split direction ratio first second ihFirst ihSecond =>
      rw [collectSeps_split] at drawn ⊢
      split at drawn
      · exact absurd drawn not_drawn_nil
      · rename_i extents
        simp only [Bool.or_eq_true, decide_eq_true_eq, not_or] at extents
        rw [if_neg (by simp [extents.1.1.1, extents.1.1.2, fullScreen, u16Max])]
        rcases drawn_append.mp drawn with here | inSecond
        · rcases drawn_append.mp here with here | inFirst
          · exact drawn_append.mpr (.inl (drawn_append.mpr (.inl (splitLine_frame outerFits here))))
          · exact drawn_append.mpr (.inl (drawn_append.mpr (.inr (ihFirst inFirst))))
        · exact drawn_append.mpr (.inr (ihSecond inSecond))

/-- Separators are drawn on cells of the screen. -/
theorem drawn_onScreen {node : LayoutNode R} {outer area : Rect} (outerFits : outer.Fits) {x y : Nat}
    (drawn : Drawn (node.collectSeps outer area) x y) : x < u16Max ∧ y < u16Max := by
  obtain ⟨right, below⟩ := outerFits
  induction node generalizing area with
  | leaf id => exact absurd drawn not_drawn_nil
  | split direction ratio first second ihFirst ihSecond =>
      rw [LayoutNode.collectSeps_split] at drawn
      split at drawn
      · exact absurd drawn not_drawn_nil
      rcases drawn_append.mp drawn with here | inSecond
      · rcases drawn_append.mp here with ⟨sep, member, covers⟩ | inFirst
        · cases direction with
          | horizontal =>
              simp only [splitLine] at member
              split at member
              · rename_i inFrame
                simp only [Bool.and_eq_true, decide_eq_true_eq, Rect.contains_iff] at inFrame
                rw [List.mem_singleton] at member
                subst member
                simp only [SepLine.Covers, Bool.false_eq_true, if_false] at covers
                omega
              · cases member
          | vertical =>
              simp only [splitLine] at member
              split at member
              · rename_i inFrame
                simp only [Bool.and_eq_true, decide_eq_true_eq, Rect.contains_iff] at inFrame
                rw [List.mem_singleton] at member
                subst member
                simp only [SepLine.Covers, if_true] at covers
                omega
              · cases member
        · exact ihFirst inFirst
      · exact ihSecond inSecond

end Cells

/-! ## Layouts -/

namespace Layout
variable {R : Type} [RatioOps R] [LE R] [RatioRange R]

/-- What a hit says, and what dragging it changes. -/
structure Grabs (layout : Layout R) (inner : Rect) (x y : Nat) (hit : SepHit) (old : R) : Prop where
  place : layout.root.splitAt hit.path inner.clipped = some (hit.direction, hit.area)
  ratio : layout.root.ratioAt hit.path = some old
  cell : hit.area.contains x y = true
  beside : Beside hit.area hit.direction old x y
  drags : ∀ ratio, RatioOps.isFinite ratio = true →
    ∃ new, LayoutNode.Reratioed old new hit.path layout.root (layout.setRatioAtPath hit.path ratio).root ∧
      RatioRange.lowest ≤ new ∧ new ≤ RatioRange.highest
  stays : ∀ ratio, RatioOps.isFinite ratio = false → layout.setRatioAtPath hit.path ratio = layout
  nextId : ∀ ratio, (layout.setRatioAtPath hit.path ratio).nextId = layout.nextId

theorem findSeparatorAt_grabs (layout : Layout R) {inner : Rect} {x y : Nat} {hit : SepHit}
    (found : layout.findSeparatorAt x y inner = some hit) : ∃ old, layout.Grabs inner x y hit old := by
  obtain ⟨turns, old, path, place, ratio, cell, beside⟩ := LayoutNode.findSepAt_beside found
  rw [List.nil_append] at path
  subst path
  refine ⟨old, place, ratio, cell, beside, fun moved finite => ?_, fun moved infinite => ?_, fun _ => rfl⟩
  · exact ⟨_, LayoutNode.setRatioAt_reratioed finite ratio, RatioRange.lowest_le moved finite,
      RatioRange.le_highest moved finite⟩
  · simp only [setRatioAtPath, LayoutNode.setRatioAt_infinite _ _ infinite]

omit [LE R] [RatioRange R] in
theorem separators_grabbed (layout : Layout R) {inner outer : Rect} (representable : inner.Representable)
    (frame : outer.Representable) {x y : Nat} (drawn : Drawn (layout.separators inner outer) x y)
    (cell : inner.contains x y = true) : (layout.findSeparatorAt x y inner).isSome = true := by
  have fits := Rect.clipped_fits representable.x representable.y
  have whole := LayoutNode.collectSeps_frame layout.root (Rect.clipped_fits frame.x frame.y) drawn
  have inside : inner.clipped.contains x y = true := by
    obtain ⟨columns, rows⟩ := drawn_onScreen (Rect.clipped_fits frame.x frame.y) drawn
    rw [Rect.contains_iff] at cell ⊢
    simp only [Rect.clipped]
    omega
  have unowned := mt (LayoutNode.cell_owned_iff layout.root fits (fits_fullScreen fits) inside).mp (not_not_intro whole)
  exact layout.root.findSepAt_unowned fits inside (fun e member own => unowned ⟨e, member, own⟩) []

/-- Hits grab the separator beside the point, and no drawn cell of the content is without a hit. -/
theorem separator_hits (layout : Layout R) (inner outer : Rect) (representable : inner.Representable)
    (frame : outer.Representable) (x y : Nat) :
    (∀ hit, layout.findSeparatorAt x y inner = some hit → ∃ old, layout.Grabs inner x y hit old) ∧
      (Drawn (layout.separators inner outer) x y → inner.contains x y = true →
        (layout.findSeparatorAt x y inner).isSome = true) :=
  ⟨fun _ found => layout.findSeparatorAt_grabs found, fun drawn cell => layout.separators_grabbed representable frame drawn cell⟩

theorem middle_hit : ((fromGrid 1 2 : Layout ℚ).findSeparatorAt 2 1 { x := 0, y := 0, w := 5, h := 3 }).isSome = true :=
  (separator_hits (fromGrid 1 2 : Layout ℚ) { x := 0, y := 0, w := 5, h := 3 } { x := 0, y := 0, w := 5, h := 3 }
    ⟨by decide, by decide, by decide, by decide⟩
    ⟨by decide, by decide, by decide, by decide⟩ 2 1).2
    ⟨{ horizontal := false, x := 2, y := 0, length := 3 }, by decide +kernel, rfl, by decide, by decide⟩ (by decide)

end Layout

end Ezpn
