import Ezpn.Layout.Geometry
import Ezpn.Layout.TreeProperties

/-!
# How a layout divides the screen

The rectangles of the panes, the separators and the hit test are three recursions
along the same tree. They agree on every cell: it belongs to one pane or to
separators, never to both.
-/

set_option autoImplicit false

namespace Ezpn

namespace Rect

theorem contains_iff {r : Rect} {x y : Nat} :
    r.contains x y = true ↔ (r.x ≤ x ∧ x < r.x + r.w) ∧ r.y ≤ y ∧ y < r.y + r.h := by
  simp only [contains, Bool.and_eq_true, decide_eq_true_eq]
  omega

/-- The fields are `u16` values. -/
structure Representable (r : Rect) : Prop where
  x : r.x ≤ u16Max
  y : r.y ≤ u16Max
  w : r.w ≤ u16Max
  h : r.h ≤ u16Max

/-- Both far edges are representable, so that clipping changes nothing. -/
structure Fits (r : Rect) : Prop where
  right : r.x + r.w ≤ u16Max
  below : r.y + r.h ≤ u16Max

/-- One rectangle lies within another. -/
structure Inside (r outer : Rect) : Prop where
  left : outer.x ≤ r.x
  right : r.x + r.w ≤ outer.x + outer.w
  above : outer.y ≤ r.y
  below : r.y + r.h ≤ outer.y + outer.h

theorem Inside.refl (r : Rect) : r.Inside r := ⟨Nat.le_refl _, Nat.le_refl _, Nat.le_refl _, Nat.le_refl _⟩

theorem Inside.trans {a b c : Rect} (first : a.Inside b) (second : b.Inside c) : a.Inside c :=
  ⟨Nat.le_trans second.left first.left, Nat.le_trans first.right second.right,
    Nat.le_trans second.above first.above, Nat.le_trans first.below second.below⟩

theorem Inside.contains {r outer : Rect} (inside : r.Inside outer) {x y : Nat} (cell : r.contains x y = true) :
    outer.contains x y = true := by
  obtain ⟨left, right, above, below⟩ := inside
  rw [contains_iff] at cell ⊢
  omega

theorem Inside.fits {r outer : Rect} (inside : r.Inside outer) (fits : outer.Fits) : r.Fits :=
  ⟨Nat.le_trans inside.right fits.right, Nat.le_trans inside.below fits.below⟩

theorem clipped_fits {r : Rect} (x : r.x ≤ u16Max) (y : r.y ≤ u16Max) : r.clipped.Fits := by
  constructor
  · simp only [clipped]
    omega
  · simp only [clipped]
    omega

theorem Fits.clipped {r : Rect} (fits : r.Fits) : r.clipped = r := by
  obtain ⟨right, below⟩ := fits
  have width : min r.w (u16Max - r.x) = r.w := by omega
  have height : min r.h (u16Max - r.y) = r.h := by omega
  rw [Rect.clipped, width, height]

theorem inside_of_contains {r outer : Rect} {x y : Nat} (cell : r.contains x y = true)
    (within : ∀ x y, r.contains x y = true → outer.contains x y = true) : r.Inside outer := by
  rw [contains_iff] at cell
  have first := within r.x r.y (by rw [contains_iff]; omega)
  have last := within (r.x + r.w - 1) (r.y + r.h - 1) (by rw [contains_iff]; omega)
  rw [contains_iff] at first last
  constructor
  · omega
  · omega
  · omega
  · omega

/-- A cell of the rectangle or next to it, where separators of its panes may reach. -/
def Near (r : Rect) (x y : Nat) : Prop :=
  0 < r.w ∧ 0 < r.h ∧ r.x ≤ x + 1 ∧ x ≤ r.x + r.w ∧ r.y ≤ y + 1 ∧ y ≤ r.y + r.h

theorem Inside.near {r outer : Rect} (inside : r.Inside outer) {x y : Nat} (near : r.Near x y) : outer.Near x y := by
  obtain ⟨left, right, above, below⟩ := inside
  unfold Near at near ⊢
  omega

end Rect

/-- The cells that a separator is drawn on. -/
def SepLine.Covers (sep : SepLine) (x y : Nat) : Prop :=
  if sep.horizontal then y = sep.y ∧ sep.x ≤ x ∧ x < sep.x + sep.length
  else x = sep.x ∧ sep.y ≤ y ∧ y < sep.y + sep.length

/-! ## Splitting an area -/

section Split
variable {R : Type} [RatioOps R]

theorem splitExtent_cases (extent : Nat) (ratio : R) :
    (splitExtent extent ratio = none ∧ extent < 3) ∨
      ∃ first, splitExtent extent ratio = some first ∧ 1 ≤ first ∧ first + 2 ≤ extent := by
  simp only [splitExtent]
  split
  · rename_i small
    exact .inl ⟨rfl, by omega⟩
  · rename_i large
    exact .inr ⟨_, rfl, by omega, by omega⟩

/-- An area is kept whole, its second part empty, or cut in two along a line of cells. -/
theorem splitArea_cases {area : Rect} (fits : area.Fits) (dir : Direction) (ratio : R) :
    (∃ second, splitArea area dir ratio = (area, second) ∧ second.Inside area ∧
      (dir = .horizontal ∧ second.w = 0 ∨ dir = .vertical ∧ second.h = 0)) ∨
    (∃ fw, dir = .horizontal ∧ 1 ≤ fw ∧ fw + 2 ≤ area.w ∧ splitArea area dir ratio =
      ({ area with w := fw }, { area with x := area.x + fw + 1, w := area.w - 1 - fw })) ∨
    ∃ fh, dir = .vertical ∧ 1 ≤ fh ∧ fh + 2 ≤ area.h ∧ splitArea area dir ratio =
      ({ area with h := fh }, { area with y := area.y + fh + 1, h := area.h - 1 - fh }) := by
  cases dir with
  | horizontal =>
      rw [splitArea, fits.clipped]
      rcases splitExtent_cases area.w ratio with ⟨small, _⟩ | ⟨fw, large, positive, room⟩
      · refine .inl ⟨{ area with w := 0 }, ?_, ⟨Nat.le_refl _, Nat.le_add_right _ _, Nat.le_refl _, Nat.le_refl _⟩, .inl ⟨rfl, rfl⟩⟩
        simp only [small]
      · refine .inr (.inl ⟨fw, rfl, positive, room, ?_⟩)
        simp only [large]
  | vertical =>
      rw [splitArea, fits.clipped]
      rcases splitExtent_cases area.h ratio with ⟨small, _⟩ | ⟨fh, large, positive, room⟩
      · refine .inl ⟨{ area with h := 0 }, ?_, ⟨Nat.le_refl _, Nat.le_refl _, Nat.le_refl _, Nat.le_add_right _ _⟩, .inr ⟨rfl, rfl⟩⟩
        simp only [small]
      · refine .inr (.inr ⟨fh, rfl, positive, room, ?_⟩)
        simp only [large]

theorem splitArea_inside {area : Rect} (fits : area.Fits) (dir : Direction) (ratio : R) :
    (splitArea area dir ratio).1.Inside area ∧ (splitArea area dir ratio).2.Inside area := by
  rcases splitArea_cases fits dir ratio with ⟨second, whole, inside, _⟩ | ⟨fw, _, _, _, cut⟩ | ⟨fh, _, _, _, cut⟩
  · rw [whole]
    exact ⟨.refl _, inside⟩
  · rw [cut]
    exact ⟨⟨by simp, by simp only; omega, by simp, by simp⟩, by simp only; omega, by simp only; omega, by simp, by simp⟩
  · rw [cut]
    exact ⟨⟨by simp, by simp, by simp, by simp only; omega⟩, by simp, by simp, by simp only; omega, by simp only; omega⟩

/-- What lies in one part is not even next to the other. -/
theorem splitArea_apart {area : Rect} (fits : area.Fits) (dir : Direction) (ratio : R) {x y : Nat} :
    ((splitArea area dir ratio).1.contains x y = true → ¬(splitArea area dir ratio).2.Near x y) ∧
      ((splitArea area dir ratio).2.contains x y = true → ¬(splitArea area dir ratio).1.Near x y) := by
  rcases splitArea_cases fits dir ratio with
    ⟨second, whole, inside, empty⟩ | ⟨fw, _, _, _, cut⟩ | ⟨fh, _, _, _, cut⟩
  · rw [whole]
    simp only [Rect.contains_iff, Rect.Near]
    omega
  · rw [cut]
    simp only [Rect.contains_iff, Rect.Near]
    omega
  · rw [cut]
    simp only [Rect.contains_iff, Rect.Near]
    omega

theorem near_of_contains {r : Rect} {x y : Nat} (cell : r.contains x y = true) : r.Near x y := by
  rw [Rect.contains_iff] at cell
  unfold Rect.Near
  omega

end Split

/-! ## Rectangles -/

namespace LayoutNode
variable {R : Type} [RatioOps R]

/-- The rectangle of every leaf, in tree order. -/
def rects : LayoutNode R → Rect → List (Nat × Rect)
  | leaf id, area => [(id, area)]
  | split direction ratio first second, area =>
      first.rects (splitArea area direction ratio).1 ++ second.rects (splitArea area direction ratio).2

theorem rects_ids (node : LayoutNode R) (area : Rect) : (node.rects area).map (·.1) = node.collectIds := by
  induction node generalizing area with
  | leaf id => rfl
  | split direction ratio first second ihFirst ihSecond => simp only [rects, collectIds, List.map_append, ihFirst, ihSecond]

theorem mem_collectRects {node : LayoutNode R} {area : Rect} {out : IdMap Rect} {id : Nat} :
    id ∈ node.collectRects area out ↔ id ∈ node.collectIds ∨ id ∈ out := by
  induction node generalizing area out with
  | leaf leafId => simp only [collectRects, collectIds, IdMap.mem_insert_iff, List.mem_singleton]
  | split direction ratio first second ihFirst ihSecond =>
      simp only [collectRects, collectIds, List.mem_append, ihSecond, ihFirst]
      tauto

theorem collectRects_getElem {node : LayoutNode R} {area : Rect} {out : IdMap Rect} (distinct : node.collectIds.Nodup)
    {id : Nat} {r : Rect} :
    (node.collectRects area out)[id]? = some r ↔ (id, r) ∈ node.rects area ∨ id ∉ node.collectIds ∧ out[id]? = some r := by
  induction node generalizing area out with
  | leaf leafId =>
      simp only [collectRects, rects, collectIds, IdMap.getElem?_insert, List.mem_singleton, Prod.mk.injEq]
      split
      · rename_i here
        simp [here, eq_comm]
      · rename_i other
        simp [other]
  | split direction ratio first second ihFirst ihSecond =>
      have apart := List.nodup_append.mp distinct
      have listed (node : LayoutNode R) (area : Rect) (member : (id, r) ∈ node.rects area) : id ∈ node.collectIds :=
        node.rects_ids area ▸ List.mem_map_of_mem (f := (·.1)) member
      simp only [collectRects, rects, collectIds, List.mem_append, ihSecond apart.2.1, ihFirst apart.1, not_or]
      constructor
      · rintro (inSecond | ⟨notSecond, inFirst | ⟨notFirst, old⟩⟩)
        · exact .inl (.inr inSecond)
        · exact .inl (.inl inFirst)
        · exact .inr ⟨⟨notFirst, notSecond⟩, old⟩
      · rintro ((inFirst | inSecond) | ⟨⟨notFirst, notSecond⟩, old⟩)
        · exact .inr ⟨fun both => apart.2.2 id (listed first _ inFirst) id both rfl, .inl inFirst⟩
        · exact .inl inSecond
        · exact .inr ⟨notSecond, .inr ⟨notFirst, old⟩⟩

/-- Swapping ids moves each rectangle to the other id. -/
theorem swapLeafIds_collectRects {a b id : Nat} {node : LayoutNode R} {area : Rect} {out swapped : IdMap Rect}
    (before : ∀ id, swapped[Equiv.swap a b id]? = out[id]?) :
    ((node.swapLeafIds a b).collectRects area swapped)[Equiv.swap a b id]? = (node.collectRects area out)[id]? := by
  induction node generalizing area out swapped id with
  | leaf leafId =>
      have moved : (leaf leafId : LayoutNode R).swapLeafIds a b = leaf (Equiv.swap a b leafId) := by
        simp only [swapLeafIds, Equiv.swap_apply_def]
      simp only [moved, collectRects, IdMap.getElem?_insert, (Equiv.swap a b).apply_eq_iff_eq, before]
  | split direction ratio first second ihFirst ihSecond =>
      simp only [swapLeafIds, collectRects]
      exact ihSecond fun other => ihFirst before

theorem rects_inside {node : LayoutNode R} {area : Rect} (fits : area.Fits) {id : Nat} {r : Rect}
    (member : (id, r) ∈ node.rects area) : r.Inside area := by
  induction node generalizing area with
  | leaf leafId =>
      obtain ⟨_, rfl⟩ := Prod.mk.inj (List.mem_singleton.mp member)
      exact .refl _
  | split direction ratio first second ihFirst ihSecond =>
      have inside := splitArea_inside fits direction ratio
      rcases List.mem_append.mp member with inFirst | inSecond
      · exact (ihFirst (inside.1.fits fits) inFirst).trans inside.1
      · exact (ihSecond (inside.2.fits fits) inSecond).trans inside.2

/-- No cell of one rectangle is next to another. -/
theorem rects_apart {node : LayoutNode R} {area : Rect} (fits : area.Fits) {x y : Nat} {e other : Nat × Rect}
    (member : e ∈ node.rects area) (cell : e.2.contains x y = true) (otherMember : other ∈ node.rects area)
    (near : other.2.Near x y) : e = other := by
  induction node generalizing area with
  | leaf leafId => exact (List.mem_singleton.mp member).trans (List.mem_singleton.mp otherMember).symm
  | split direction ratio first second ihFirst ihSecond =>
      have inside := splitArea_inside fits direction ratio
      have apart := splitArea_apart fits direction ratio (x := x) (y := y)
      rcases List.mem_append.mp member with inFirst | inSecond
      · rcases List.mem_append.mp otherMember with otherFirst | otherSecond
        · exact ihFirst (inside.1.fits fits) inFirst otherFirst
        · exact absurd ((rects_inside (inside.2.fits fits) otherSecond).near near)
            (apart.1 ((rects_inside (inside.1.fits fits) inFirst).contains cell))
      · rcases List.mem_append.mp otherMember with otherFirst | otherSecond
        · exact absurd ((rects_inside (inside.1.fits fits) otherFirst).near near)
            (apart.2 ((rects_inside (inside.2.fits fits) inSecond).contains cell))
        · exact ihSecond (inside.2.fits fits) inSecond otherSecond

/-- No cell is in two rectangles. -/
theorem rects_disjoint {node : LayoutNode R} {area : Rect} (fits : area.Fits) {x y : Nat} {e other : Nat × Rect}
    (member : e ∈ node.rects area) (cell : e.2.contains x y = true) (otherMember : other ∈ node.rects area)
    (otherCell : other.2.contains x y = true) : e = other :=
  rects_apart fits member cell otherMember (near_of_contains otherCell)

/-- The hit test finds the leaf in whose rectangle the cell lies. -/
theorem findAtNode_iff {node : LayoutNode R} {area : Rect} (fits : area.Fits) {x y id : Nat} :
    node.findAtNode x y area = some id ↔ ∃ r, (id, r) ∈ node.rects area ∧ r.contains x y = true := by
  induction node generalizing area id with
  | leaf leafId =>
      simp only [findAtNode, rects, List.mem_singleton, Prod.mk.injEq, Option.ite_none_right_eq_some, Option.some.injEq]
      constructor
      · rintro ⟨cell, rfl⟩
        exact ⟨area, ⟨rfl, rfl⟩, cell⟩
      · rintro ⟨r, ⟨rfl, rfl⟩, cell⟩
        exact ⟨cell, rfl⟩
  | split direction ratio first second ihFirst ihSecond =>
      have inside := splitArea_inside fits direction ratio
      have apart := splitArea_apart fits direction ratio (x := x) (y := y)
      simp only [findAtNode, rects, List.mem_append, Option.or_eq_some_iff, Option.eq_none_iff_forall_ne_some, ne_eq,
        ihSecond (inside.2.fits fits), ihFirst (inside.1.fits fits)]
      constructor
      · rintro (⟨r, member, cell⟩ | ⟨_, r, member, cell⟩)
        · exact ⟨r, .inl member, cell⟩
        · exact ⟨r, .inr member, cell⟩
      · rintro ⟨r, inFirst | inSecond, cell⟩
        · exact .inl ⟨r, inFirst, cell⟩
        · refine .inr ⟨?_, r, inSecond, cell⟩
          rintro other ⟨r', inFirst, cell'⟩
          exact apart.2 ((rects_inside (inside.2.fits fits) inSecond).contains cell)
            (near_of_contains ((rects_inside (inside.1.fits fits) inFirst).contains cell'))

end LayoutNode

/-! ## Separators -/

section Separators
variable {R : Type} [RatioOps R]

/-- The separator between the two parts of an area. -/
def splitLine (outer area a1 a2 : Rect) : Direction → List SepLine
  | .horizontal =>
      if a2.w > 0 && outer.contains (a1.x + a1.w) area.y then
        let y0 := max (area.y - 1) outer.y
        let y1 := min (area.y + area.h) (outer.y + outer.h - 1)
        [{ horizontal := false, x := a1.x + a1.w, y := y0, length := y1 - y0 + 1 }]
      else []
  | .vertical =>
      if a2.h > 0 && outer.contains area.x (a1.y + a1.h) then
        let x0 := max (area.x - 1) outer.x
        let x1 := min (area.x + area.w) (outer.x + outer.w - 1)
        [{ horizontal := true, x := x0, y := a1.y + a1.h, length := x1 - x0 + 1 }]
      else []

theorem LayoutNode.collectSeps_split (outer area : Rect) (direction : Direction) (ratio : R) (first second : LayoutNode R) :
    (split direction ratio first second).collectSeps outer area =
      if area.w = 0 || area.h = 0 || outer.w = 0 || outer.h = 0 then []
      else
        splitLine outer area (splitArea area direction ratio).1 (splitArea area direction ratio).2 direction ++
          first.collectSeps outer (splitArea area direction ratio).1 ++
          second.collectSeps outer (splitArea area direction ratio).2 := by
  cases direction with
  | horizontal => rfl
  | vertical => rfl

/-- Some separator of `seps` is drawn on the cell. -/
def Drawn (seps : List SepLine) (x y : Nat) : Prop :=
  ∃ sep ∈ seps, sep.Covers x y

theorem drawn_append {left right : List SepLine} {x y : Nat} :
    Drawn (left ++ right) x y ↔ Drawn left x y ∨ Drawn right x y := by
  simp only [Drawn, List.mem_append, or_and_right, exists_or]

theorem not_drawn_nil {x y : Nat} : ¬Drawn [] x y := by
  simp [Drawn]

/-- The cells of the area and beside it that no part owns, exactly when it is cut in two. -/
theorem drawn_splitLine {outer area : Rect} (fits : area.Fits) (inside : area.Inside outer) (width : 0 < area.w)
    (height : 0 < area.h) (direction : Direction) (ratio : R) {x y : Nat} :
    (Drawn (splitLine outer area (splitArea area direction ratio).1 (splitArea area direction ratio).2 direction) x y →
      area.Near x y ∧ (splitArea area direction ratio).1.contains x y = false ∧
        (splitArea area direction ratio).2.contains x y = false) ∧
    (area.contains x y = true → (splitArea area direction ratio).1.contains x y = false →
      (splitArea area direction ratio).2.contains x y = false →
      Drawn (splitLine outer area (splitArea area direction ratio).1 (splitArea area direction ratio).2 direction) x y) := by
  obtain ⟨left, right, above, below⟩ := inside
  rcases splitArea_cases fits direction ratio with
    ⟨second, whole, _, empty⟩ | ⟨fw, horizontal, positive, room, cut⟩ | ⟨fh, vertical, positive, room, cut⟩
  · rw [whole]
    refine ⟨fun drawn => ?_, fun cell outside => absurd cell (by simp [outside])⟩
    obtain ⟨rfl, none⟩ | ⟨rfl, none⟩ := empty
    · simp [splitLine, none, Drawn] at drawn
    · simp [splitLine, none, Drawn] at drawn
  · subst horizontal
    rw [cut]
    have drawnHere : outer.contains (area.x + fw) area.y = true := by
      rw [Rect.contains_iff]
      omega
    have positiveWidth : area.w - 1 - fw > 0 := by omega
    simp only [splitLine, drawnHere, positiveWidth, decide_true, Bool.and_self, if_true, Drawn, List.mem_singleton,
      exists_eq_left, SepLine.Covers, Bool.false_eq_true, if_false, Rect.Near, ← Bool.not_eq_true, Rect.contains_iff]
    omega
  · subst vertical
    rw [cut]
    have drawnHere : outer.contains area.x (area.y + fh) = true := by
      rw [Rect.contains_iff]
      omega
    have positiveHeight : area.h - 1 - fh > 0 := by omega
    simp only [splitLine, drawnHere, positiveHeight, decide_true, Bool.and_self, if_true, Drawn, List.mem_singleton,
      exists_eq_left, SepLine.Covers, Rect.Near, ← Bool.not_eq_true, Rect.contains_iff]
    omega

namespace LayoutNode

theorem collectSeps_empty {node : LayoutNode R} {outer area : Rect} (empty : area.w = 0 ∨ area.h = 0) :
    node.collectSeps outer area = [] := by
  cases node with
  | leaf id => rfl
  | split direction ratio first second =>
      rw [collectSeps_split, if_pos]
      rcases empty with empty | empty
      · simp [empty]
      · simp [empty]

/-- Separators reach at most one cell beyond the area they divide. -/
theorem drawn_near (node : LayoutNode R) {outer area : Rect} (fits : area.Fits) (inside : area.Inside outer) {x y : Nat}
    (drawn : Drawn (node.collectSeps outer area) x y) : area.Near x y := by
  induction node generalizing area with
  | leaf id => exact absurd drawn not_drawn_nil
  | split direction ratio first second ihFirst ihSecond =>
      have parts := splitArea_inside fits direction ratio
      rw [collectSeps_split] at drawn
      split at drawn
      · exact absurd drawn not_drawn_nil
      · rename_i extents
        simp only [Bool.or_eq_true, decide_eq_true_eq, not_or] at extents
        obtain ⟨⟨⟨width, height⟩, _⟩, _⟩ := extents
        rcases drawn_append.mp drawn with here | inSecond
        · rcases drawn_append.mp here with here | inFirst
          · exact ((drawn_splitLine fits inside (Nat.pos_of_ne_zero width) (Nat.pos_of_ne_zero height) direction ratio).1
              here).1
          · exact parts.1.near (ihFirst (parts.1.fits fits) (parts.1.trans inside) inFirst)
        · exact parts.2.near (ihSecond (parts.2.fits fits) (parts.2.trans inside) inSecond)

/-- A cell belongs to a pane exactly when no separator is drawn on it. -/
theorem cell_owned_iff (node : LayoutNode R) {outer area : Rect} (fits : area.Fits) (inside : area.Inside outer) {x y : Nat}
    (cell : area.contains x y = true) :
    (∃ e ∈ node.rects area, e.2.contains x y = true) ↔ ¬Drawn (node.collectSeps outer area) x y := by
  induction node generalizing area with
  | leaf id => exact iff_of_true ⟨(id, area), List.mem_singleton_self _, cell⟩ not_drawn_nil
  | split direction ratio first second ihFirst ihSecond =>
      have parts := splitArea_inside fits direction ratio
      have apart := splitArea_apart fits direction ratio (x := x) (y := y)
      have extents := Rect.contains_iff.mp cell
      have line := drawn_splitLine fits inside (by omega) (by omega) direction ratio (x := x) (y := y)
      have outerExtents := Rect.contains_iff.mp (inside.contains cell)
      have seps := collectSeps_split outer area direction ratio first second
      rw [if_neg (by simp only [Bool.or_eq_true, decide_eq_true_eq]; omega)] at seps
      rw [seps, drawn_append, drawn_append]
      -- a cell of one part is next to neither the other part nor the line
      cases inFirst : (splitArea area direction ratio).1.contains x y with
      | true =>
          have owned := ihFirst (parts.1.fits fits) (parts.1.trans inside) inFirst
          have noLine := fun drawn => Bool.false_ne_true ((line.1 drawn).2.1.symm.trans inFirst)
          have notSecond := fun drawn => apart.1 inFirst (drawn_near second (parts.2.fits fits) (parts.2.trans inside) drawn)
          rw [iff_false_intro noLine, iff_false_intro notSecond, false_or, or_false, ← owned]
          constructor
          · rintro ⟨e, member, own⟩
            rcases List.mem_append.mp member with member | member
            · exact ⟨e, member, own⟩
            · exact absurd (near_of_contains ((rects_inside (parts.2.fits fits) member).contains own)) (apart.1 inFirst)
          · rintro ⟨e, member, own⟩
            exact ⟨e, List.mem_append_left _ member, own⟩
      | false =>
          have notInFirst : ∀ e ∈ first.rects (splitArea area direction ratio).1, ¬e.2.contains x y = true := by
            intro e member own
            rw [(rects_inside (parts.1.fits fits) member).contains own] at inFirst
            cases inFirst
          cases inSecond : (splitArea area direction ratio).2.contains x y with
          | true =>
              have owned := ihSecond (parts.2.fits fits) (parts.2.trans inside) inSecond
              have noLine := fun drawn => Bool.false_ne_true ((line.1 drawn).2.2.symm.trans inSecond)
              have notFirst := fun drawn => apart.2 inSecond (drawn_near first (parts.1.fits fits) (parts.1.trans inside) drawn)
              rw [iff_false_intro noLine, iff_false_intro notFirst, false_or, false_or, ← owned]
              constructor
              · rintro ⟨e, member, own⟩
                rcases List.mem_append.mp member with member | member
                · exact absurd own (notInFirst e member)
                · exact ⟨e, member, own⟩
              · rintro ⟨e, member, own⟩
                exact ⟨e, List.mem_append_right _ member, own⟩
          | false =>
              refine iff_of_false ?_ (not_not_intro (.inl (.inl (line.2 cell inFirst inSecond))))
              rintro ⟨e, member, own⟩
              rcases List.mem_append.mp member with member | member
              · exact notInFirst e member own
              · rw [(rects_inside (parts.2.fits fits) member).contains own] at inSecond
                cases inSecond

end LayoutNode

end Separators

/-! ## Layouts -/

namespace Layout
variable {R : Type} [RatioOps R]

/-- Every leaf has a rectangle, and nothing else has. -/
@[simp] theorem mem_paneRects {layout : Layout R} {inner : Rect} {id : Nat} :
    id ∈ layout.paneRects inner ↔ id ∈ layout.paneIds := by
  simp [paneRects, paneIds, LayoutNode.mem_collectRects]

theorem swapPanes_paneRects (layout : Layout R) (a b : Nat) (area : Rect) (id : Nat) :
    ((layout.swapPanes a b).paneRects area)[Equiv.swap a b id]? = (layout.paneRects area)[id]? :=
  LayoutNode.swapLeafIds_collectRects fun _ => by simp

theorem paneRects_keys {layout : Layout R} {inner : Rect} {id : Nat} :
    id ∈ (layout.paneRects inner).toList.map (·.1) ↔ id ∈ layout.paneIds := by
  rw [← mem_paneRects, ← Std.ExtTreeMap.mem_keys, ← Std.ExtTreeMap.map_fst_toList_eq_keys]

theorem paneRects_getElem {layout : Layout R} (distinct : layout.paneIds.Nodup) {inner : Rect} {id : Nat} {r : Rect} :
    (layout.paneRects inner)[id]? = some r ↔ (id, r) ∈ layout.root.rects inner.clipped := by
  rw [paneRects, LayoutNode.collectRects_getElem distinct]
  simp

theorem paneRects_size {layout : Layout R} (distinct : layout.paneIds.Nodup) (inner : Rect) :
    (layout.paneRects inner).size = layout.paneIds.length := by
  have keysDistinct : (layout.paneRects inner).keys.Nodup := Std.ExtTreeMap.nodup_keys
  have same : (layout.paneRects inner).keys.Perm layout.paneIds :=
    (List.perm_ext_iff_of_nodup keysDistinct distinct).mpr fun id => by rw [Std.ExtTreeMap.mem_keys, mem_paneRects]
  rw [← Std.ExtTreeMap.length_keys, same.length_eq]

end Layout

end Ezpn
