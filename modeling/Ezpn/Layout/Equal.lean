import Ezpn.Layout.Growth
import Mathlib.Tactic.FieldSimp

/-!
# Equal shares

Where all splits go the same way and each gives its parts what their leaves take of
it, nested rounding does not add up: every slot is one of two neighbouring sizes.
-/

set_option autoImplicit false

namespace Ezpn

namespace LayoutNode

/-- All splits have this direction. -/
def Uniform {R : Type} (axis : Direction) : LayoutNode R → Prop
  | leaf _ => True
  | split direction _ first second => direction = axis ∧ first.Uniform axis ∧ second.Uniform axis

/-- Each ratio is the share of the leaves. -/
def Balanced : LayoutNode ℚ → Prop
  | leaf _ => True
  | split _ ratio first second =>
      ratio = first.countLeaves / (first.countLeaves + second.countLeaves : ℕ) ∧ first.Balanced ∧ second.Balanced

theorem countLeaves_equalizeNode (node : LayoutNode ℚ) : node.equalizeNode.countLeaves = node.countLeaves := by
  rw [countLeaves_eq_length, countLeaves_eq_length, equalizeNode_collectIds]

theorem equalizeNode_balanced (node : LayoutNode ℚ) : node.equalizeNode.Balanced := by
  induction node with
  | leaf id => trivial
  | split direction ratio first second ihFirst ihSecond =>
      refine ⟨?_, ihFirst, ihSecond⟩
      rw [countLeaves_equalizeNode, countLeaves_equalizeNode]
      rfl

theorem equalizeNode_uniform {axis : Direction} {node : LayoutNode ℚ} (uniform : node.Uniform axis) :
    node.equalizeNode.Uniform axis := by
  induction node with
  | leaf id => trivial
  | split direction ratio first second ihFirst ihSecond =>
      obtain ⟨same, inFirst, inSecond⟩ := uniform
      exact ⟨same, ihFirst inFirst, ihSecond inSecond⟩

theorem countLeaves_buildRow (cols next : Nat) : (buildRow (R := ℚ) cols next).1.countLeaves = max cols 1 := by
  fun_induction buildRow (R := ℚ) cols next with
  | case1 next => rfl
  | case2 next => rfl
  | case3 cols next second after built ih =>
      rw [built] at ih
      simp only [countLeaves] at ih ⊢
      omega

theorem buildRow_balanced (cols next : Nat) : (buildRow (R := ℚ) cols next).1.Balanced := by
  fun_induction buildRow (R := ℚ) cols next with
  | case1 next => trivial
  | case2 next => trivial
  | case3 cols next second after built ih =>
      have counted := countLeaves_buildRow (cols + 1) (next + 1)
      rw [built] at ih counted
      refine ⟨?_, trivial, ih⟩
      simp only [countLeaves] at counted ⊢
      rw [counted, show 1 + max (cols + 1) 1 = cols + 2 by omega]
      rfl

theorem buildRow_uniform (cols next : Nat) : (buildRow (R := ℚ) cols next).1.Uniform .horizontal := by
  fun_induction buildRow (R := ℚ) cols next with
  | case1 next => trivial
  | case2 next => trivial
  | case3 cols next second after built ih =>
      rw [built] at ih
      exact ⟨rfl, trivial, ih⟩

end LayoutNode

/-! ## Rounding -/

theorem le_nearest {x : ℚ} {bound : ℕ} (le : (bound : ℚ) ≤ x) : bound ≤ ⌊x + 1 / 2⌋.toNat := by
  have whole : (bound : ℤ) ≤ ⌊x + 1 / 2⌋ := Int.le_floor.mpr (by push_cast; linarith)
  omega

theorem nearest_le {x : ℚ} {bound : ℕ} (le : x ≤ bound) : ⌊x + 1 / 2⌋.toNat ≤ bound := by
  have whole : ⌊x + 1 / 2⌋ < (bound : ℤ) + 1 := Int.floor_lt.mpr (by push_cast; linarith)
  omega

/-- The whole number nearest to the share of the leaves on one side keeps both sides within the bounds. -/
theorem share_bounds {slots left right q : Nat} (positive : 0 < left + right) (lower : (left + right) * q ≤ slots)
    (upper : slots ≤ (left + right) * (q + 1)) :
    let share := ⌊(slots : ℚ) * (left / (left + right : ℕ)) + 1 / 2⌋.toNat
    left * q ≤ share ∧ share ≤ left * (q + 1) ∧ share + right * q ≤ slots ∧ slots ≤ share + right * (q + 1) := by
  intro share
  have total : (0 : ℚ) < (left + right : ℕ) := by exact_mod_cast positive
  have lowerQ : ((left + right : ℕ) : ℚ) * q ≤ slots := by exact_mod_cast lower
  have upperQ : (slots : ℚ) ≤ ((left + right : ℕ) : ℚ) * (q + 1) := by exact_mod_cast upper
  have leftPos : (0 : ℚ) ≤ left := by positivity
  have rightPos : (0 : ℚ) ≤ right := by positivity
  have rightLe : right * q ≤ slots := le_trans (Nat.mul_le_mul_right q (Nat.le_add_left _ _)) lower
  have atLeast : (left : ℚ) * q ≤ slots * (left / (left + right : ℕ)) := by
    rw [mul_div_assoc', le_div_iff₀ total]
    nlinarith
  have atMost : (slots : ℚ) * (left / (left + right : ℕ)) ≤ left * (q + 1) := by
    rw [mul_div_assoc', div_le_iff₀ total]
    nlinarith
  have rest : (slots : ℚ) * (left / (left + right : ℕ)) = slots - slots * right / (left + right : ℕ) := by
    rw [eq_sub_iff_add_eq, mul_div_assoc', ← add_div, div_eq_iff total.ne']
    push_cast
    ring
  have restAtLeast : (right : ℚ) * q ≤ slots * right / (left + right : ℕ) := by
    rw [le_div_iff₀ total]
    nlinarith
  have restAtMost : (slots : ℚ) * right / (left + right : ℕ) ≤ right * (q + 1) := by
    rw [div_le_iff₀ total]
    nlinarith
  have fewest : left * q ≤ share := le_nearest (by rw [Nat.cast_mul]; exact atLeast)
  have most : share ≤ left * (q + 1) := nearest_le (by rw [Nat.cast_mul, Nat.cast_add_one]; exact atMost)
  have leaves : share ≤ slots - right * q := nearest_le (by rw [Nat.cast_sub rightLe, rest, Nat.cast_mul]; linarith)
  have takes : slots - right * (q + 1) ≤ share := by
    by_cases enough : right * (q + 1) ≤ slots
    · exact le_nearest (by rw [Nat.cast_sub enough, rest, Nat.cast_mul, Nat.cast_add_one]; linarith)
    · omega
  exact ⟨fewest, most, by omega, by omega⟩

namespace LayoutNode

/-- With as many slots as the leaves need, each leaf takes one of two neighbouring sizes. -/
theorem rects_even {axis : Direction} {q : Nat} (large : 2 ≤ q) {node : LayoutNode ℚ} (uniform : node.Uniform axis)
    (balanced : node.Balanced) {area : Rect} (fits : area.Fits) (lower : node.countLeaves * q ≤ area.span axis + 1)
    (upper : area.span axis + 1 ≤ node.countLeaves * (q + 1)) {e : Nat × Rect} (member : e ∈ node.rects area) :
    q ≤ e.2.span axis + 1 ∧ e.2.span axis + 1 ≤ q + 1 := by
  induction node generalizing area with
  | leaf id =>
      rw [List.mem_singleton.mp member]
      simp only [countLeaves, Nat.one_mul] at lower upper
      exact ⟨lower, upper⟩
  | split direction ratio first second ihFirst ihSecond =>
      obtain ⟨rfl, firstUniform, secondUniform⟩ := uniform
      obtain ⟨share, firstBalanced, secondBalanced⟩ := balanced
      have inside := splitArea_inside fits direction ratio
      have firstLeaves := first.countLeaves_pos
      have secondLeaves := second.countLeaves_pos
      have representable := fits.span direction
      obtain ⟨fewest, most, leaves, takes⟩ := share_bounds (by omega) lower upper
      generalize given : ⌊((area.span direction + 1 : ℕ) : ℚ) *
        (first.countLeaves / (first.countLeaves + second.countLeaves : ℕ)) + 1 / 2⌋.toNat = slots at fewest most leaves takes
      have firstLarge : 2 ≤ first.countLeaves * q := le_trans large (Nat.le_mul_of_pos_left q firstLeaves)
      have secondLarge : 2 ≤ second.countLeaves * q := le_trans large (Nat.le_mul_of_pos_left q secondLeaves)
      have rounded : RatioOps.slots (area.span direction) ratio = slots := by
        have exact : RatioOps.slots (area.span direction) ratio = min slots u16Max := by
          rw [← given, share]
          push_cast
          rfl
        rw [exact]
        omega
      have cut : parts (area.span direction) ratio = (slots - 1, area.span direction - slots) := by
        have proper : properRatio ratio = ratio := rfl
        rw [parts_large (by omega), proper, rounded]
        ext <;> dsimp only <;> omega
      obtain ⟨firstExtent, secondExtent⟩ := splitArea_extent fits direction direction ratio
      rw [if_pos rfl, cut] at firstExtent secondExtent
      rcases List.mem_append.mp member with inFirst | inSecond
      · exact ihFirst firstUniform firstBalanced (inside.1.fits fits) (by rw [firstExtent]; dsimp only; omega)
          (by rw [firstExtent]; dsimp only; omega) inFirst
      · exact ihSecond secondUniform secondBalanced (inside.2.fits fits) (by rw [secondExtent]; dsimp only; omega)
          (by rw [secondExtent]; dsimp only; omega) inSecond

/-- The map of rectangles holds rectangles of leaves. -/
theorem mem_of_collectRects {R : Type} [RatioOps R] {node : LayoutNode R} {area : Rect} {out : IdMap Rect} {id : Nat} {r : Rect}
    (found : (node.collectRects area out)[id]? = some r) : (id, r) ∈ node.rects area ∨ out[id]? = some r := by
  induction node generalizing area out with
  | leaf leafId =>
      rw [collectRects, IdMap.getElem?_insert] at found
      split at found
      · rename_i here
        cases found
        exact .inl (by simp [rects, here])
      · exact .inr found
  | split direction ratio first second ihFirst ihSecond =>
      rcases ihSecond found with inSecond | earlier
      · exact .inl (List.mem_append_right _ inSecond)
      · exact (ihFirst earlier).imp_left (List.mem_append_left _)

end LayoutNode

/-! ## Layouts -/

namespace Layout

/-- All panes are at least one cell along the axis, and none has more than one cell more than another. -/
def Even (layout : Layout ℚ) (inner : Rect) (axis : Direction) : Prop :=
  ∀ (id : Nat) (r : Rect), (layout.paneRects inner)[id]? = some r → 1 ≤ r.span axis ∧
    ∀ (other : Nat) (r' : Rect), (layout.paneRects inner)[other]? = some r' → r.span axis ≤ r'.span axis + 1

theorem even_of_balanced {layout : Layout ℚ} {inner : Rect} (representable : inner.Representable) {axis : Direction}
    (uniform : layout.root.Uniform axis) (balanced : layout.root.Balanced)
    (room : 2 * layout.paneCount - 1 ≤ inner.clipped.span axis) : layout.Even inner axis := by
  have fits := Rect.clipped_fits representable.x representable.y
  have leaves := layout.root.countLeaves_pos
  have counted : layout.paneCount = layout.root.countLeaves := rfl
  have large : 2 ≤ (inner.clipped.span axis + 1) / layout.root.countLeaves := (Nat.le_div_iff_mul_le leaves).mpr (by omega)
  have lower := Nat.mul_div_le (inner.clipped.span axis + 1) layout.root.countLeaves
  have upper := (Nat.lt_mul_div_succ (inner.clipped.span axis + 1) leaves).le
  have slots {id : Nat} {r : Rect} (found : (layout.paneRects inner)[id]? = some r) :=
    LayoutNode.rects_even large uniform balanced fits lower upper
      ((LayoutNode.mem_of_collectRects found).resolve_right (by simp))
  intro id r found
  refine ⟨?_, fun other r' listed => ?_⟩
  · have bounds := slots found
    dsimp only at bounds
    omega
  · have bounds := slots found
    have otherBounds := slots listed
    dsimp only at bounds otherBounds
    omega

/-- Equalized splits of one direction, and the columns of a row, share the cells evenly. -/
theorem equal_splits (inner : Rect) (representable : inner.Representable) :
    (∀ (layout : Layout ℚ) (axis : Direction), layout.root.Uniform axis →
      2 * layout.paneCount - 1 ≤ inner.clipped.span axis → layout.equalize.Even inner axis) ∧
      ∀ n, 1 ≤ n → 2 * n - 1 ≤ inner.clipped.w → (fromGrid 1 n).Even inner .horizontal := by
  constructor
  · intro layout axis uniform room
    refine even_of_balanced representable (LayoutNode.equalizeNode_uniform uniform) layout.root.equalizeNode_balanced ?_
    have counted : layout.equalize.paneCount = layout.paneCount := LayoutNode.countLeaves_equalizeNode layout.root
    rwa [counted]
  · intro n positive room
    have cols : max n 1 = n := by omega
    have row : (fromGrid 1 n : Layout ℚ).root = (buildRow n 0).1 := by
      simp only [fromGrid, cols]
      rfl
    have counted : (fromGrid 1 n : Layout ℚ).paneCount = n := by
      rw [paneCount, row, LayoutNode.countLeaves_buildRow, cols]
    refine even_of_balanced representable ?_ ?_ (by rwa [counted])
    · rw [row]
      exact LayoutNode.buildRow_uniform n 0
    · rw [row]
      exact LayoutNode.buildRow_balanced n 0

theorem threeColumns_even : (fromGrid 1 3).Even { x := 0, y := 0, w := 7, h := 1 } .horizontal :=
  (equal_splits { x := 0, y := 0, w := 7, h := 1 } ⟨by decide, by decide, by decide, by decide⟩).2 3 (by decide) (by decide)

end Layout

end Ezpn
