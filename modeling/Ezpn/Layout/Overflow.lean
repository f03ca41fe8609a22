import Ezpn.Layout.Partition

/-!
# Layout arithmetic in `u16`

The geometry of `layout.rs` with every addition and subtraction checked: `none`
stands for the panic of an arithmetic overflow. It computes what the unchecked
definitions compute, for every rectangle with `u16` coordinates.
-/

set_option autoImplicit false

namespace Ezpn

def addU16 (a b : Nat) : Option Nat :=
  if a + b ≤ u16Max then some (a + b) else none

def subU16 (a b : Nat) : Option Nat :=
  if b ≤ a then some (a - b) else none

theorem addU16_eq {a b : Nat} (representable : a + b ≤ u16Max) : addU16 a b = some (a + b) :=
  if_pos representable

theorem subU16_eq {a b : Nat} (le : b ≤ a) : subU16 a b = some (a - b) :=
  if_pos le

namespace Rect

def clippedU16 (r : Rect) : Option Rect := do
  let right ← subU16 u16Max r.x
  let below ← subU16 u16Max r.y
  return { r with w := min r.w right, h := min r.h below }

/-- `&&` evaluates its second operand only where the first holds. -/
def containsU16 (r : Rect) (x y : Nat) : Option Bool :=
  if x ≥ r.x then do
    let dx ← subU16 x r.x
    if dx < r.w && y ≥ r.y then
      let dy ← subU16 y r.y
      return dy < r.h
    else return false
  else return false

theorem clippedU16_eq {r : Rect} (x : r.x ≤ u16Max) (y : r.y ≤ u16Max) : r.clippedU16 = some r.clipped := by
  simp only [clippedU16, subU16_eq x, subU16_eq y]
  rfl

theorem containsU16_eq (r : Rect) (x y : Nat) : r.containsU16 x y = some (r.contains x y) := by
  unfold containsU16 contains
  split
  · rename_i right
    simp only [subU16_eq right, Option.bind_eq_bind, Option.bind_some]
    split
    · rename_i inside
      simp only [Bool.and_eq_true, decide_eq_true_eq] at inside
      obtain ⟨width, below⟩ := inside
      simp [subU16_eq below, right, width, below]
    · rename_i outside
      simp only [Bool.and_eq_true, decide_eq_true_eq, not_and] at outside
      simp only [right, decide_true, Bool.true_and, pure, Option.some.injEq]
      symm
      simp only [Bool.and_eq_false_iff, decide_eq_false_iff_not]
      by_cases width : x - r.x < r.w
      · exact .inl (.inr (outside width))
      · exact .inl (.inl width)
  · rename_i left
    simp [left]

end Rect

section Split
variable {R : Type} [RatioOps R]

/-- `saturating_sub` is the subtraction of natural numbers; `clamp` panics when its bounds cross. -/
def splitAreaU16 (area : Rect) (dir : Direction) (ratio : R) : Option (Rect × Rect) := do
  let area ← area.clippedU16
  let ratio := if RatioOps.isFinite ratio then ratio else RatioOps.half
  match dir with
  | .horizontal =>
      let usable := area.w - 1
      if usable < 2 then return (area, { area with w := 0 })
      else
        let most ← subU16 usable 1
        if most < 1 then none
        else
          let fw := min (max (RatioOps.slots area.w ratio - 1) 1) most
          let sw ← subU16 usable fw
          let x ← addU16 area.x fw
          let x ← addU16 x 1
          return ({ area with w := fw }, { area with x := x, w := sw })
  | .vertical =>
      let usable := area.h - 1
      if usable < 2 then return (area, { area with h := 0 })
      else
        let most ← subU16 usable 1
        if most < 1 then none
        else
          let fh := min (max (RatioOps.slots area.h ratio - 1) 1) most
          let sh ← subU16 usable fh
          let y ← addU16 area.y fh
          let y ← addU16 y 1
          return ({ area with h := fh }, { area with y := y, h := sh })

theorem splitAreaU16_eq {area : Rect} (fits : area.Fits) (dir : Direction) (ratio : R) :
    splitAreaU16 area dir ratio = some (splitArea area dir ratio) := by
  obtain ⟨right, below⟩ := fits
  have clipped := Rect.clippedU16_eq (r := area) (by omega) (by omega)
  unfold splitAreaU16 splitArea splitExtent
  rw [clipped, Rect.Fits.clipped ⟨right, below⟩]
  simp only [Option.bind_eq_bind, Option.bind_some]
  generalize (if RatioOps.isFinite ratio then ratio else RatioOps.half) = finite
  cases dir with
  | horizontal =>
      simp only
      split
      · rfl
      · rename_i large
        generalize slots : RatioOps.slots area.w finite - 1 = wanted
        rw [subU16_eq (by omega), Option.bind_some, if_neg (by omega), subU16_eq (by omega), Option.bind_some,
          addU16_eq (by omega), Option.bind_some, addU16_eq (by omega)]
        rfl
  | vertical =>
      simp only
      split
      · rfl
      · rename_i large
        generalize slots : RatioOps.slots area.h finite - 1 = wanted
        rw [subU16_eq (by omega), Option.bind_some, if_neg (by omega), subU16_eq (by omega), Option.bind_some,
          addU16_eq (by omega), Option.bind_some, addU16_eq (by omega)]
        rfl

/-- The separator of one split, as `collect_seps` pushes it. -/
def splitLineU16 (outer area a1 a2 : Rect) : Direction → Option (List SepLine)
  | .horizontal =>
      if a2.w > 0 then do
        let sx ← addU16 a1.x a1.w
        if ← outer.containsU16 sx area.y then
          let y0 := max (area.y - 1) outer.y
          let below ← addU16 area.y area.h
          let bottom ← addU16 outer.y outer.h
          let bottom ← subU16 bottom 1
          let length ← addU16 (min below bottom - y0) 1
          return [{ horizontal := false, x := sx, y := y0, length }]
        else return []
      else return []
  | .vertical =>
      if a2.h > 0 then do
        let sy ← addU16 a1.y a1.h
        if ← outer.containsU16 area.x sy then
          let x0 := max (area.x - 1) outer.x
          let right ← addU16 area.x area.w
          let edge ← addU16 outer.x outer.w
          let edge ← subU16 edge 1
          let length ← addU16 (min right edge - x0) 1
          return [{ horizontal := true, x := x0, y := sy, length }]
        else return []
      else return []

theorem splitLineU16_eq {outer area a1 a2 : Rect} (outerFits : outer.Fits) (width : 0 < outer.w) (height : 0 < outer.h)
    (fits : area.Fits) (a1Fits : a1.Fits) (dir : Direction) :
    splitLineU16 outer area a1 a2 dir = some (splitLine outer area a1 a2 dir) := by
  obtain ⟨outerRight, outerBelow⟩ := outerFits
  obtain ⟨right, below⟩ := fits
  cases dir with
  | horizontal =>
      simp only [splitLineU16, splitLine, addU16_eq a1Fits.right, Option.bind_eq_bind, Option.bind_some, Rect.containsU16_eq]
      split
      · rename_i positive
        split
        · rename_i within
          rw [addU16_eq below, Option.bind_some, addU16_eq outerBelow, Option.bind_some, subU16_eq (by omega), Option.bind_some,
            addU16_eq (by omega)]
          simp [positive, within]
        · rename_i without
          simp [without]
      · rename_i empty
        simp [empty]
  | vertical =>
      simp only [splitLineU16, splitLine, addU16_eq a1Fits.below, Option.bind_eq_bind, Option.bind_some, Rect.containsU16_eq]
      split
      · rename_i positive
        split
        · rename_i within
          rw [addU16_eq right, Option.bind_some, addU16_eq outerRight, Option.bind_some, subU16_eq (by omega), Option.bind_some,
            addU16_eq (by omega)]
          simp [positive, within]
        · rename_i without
          simp [without]
      · rename_i empty
        simp [empty]

end Split

namespace LayoutNode
variable {R : Type} [RatioOps R]

def collectRectsU16 : LayoutNode R → Rect → IdMap Rect → Option (IdMap Rect)
  | leaf id, area, out => some (out.insert id area)
  | split direction ratio first second, area, out => do
      let (a1, a2) ← splitAreaU16 area direction ratio
      let out ← first.collectRectsU16 a1 out
      second.collectRectsU16 a2 out

def collectSepsU16 (outer : Rect) : LayoutNode R → Rect → Option (List SepLine)
  | leaf _, _ => some []
  | split direction ratio first second, area =>
      if area.w = 0 || area.h = 0 || outer.w = 0 || outer.h = 0 then some []
      else do
        let (a1, a2) ← splitAreaU16 area direction ratio
        let here ← splitLineU16 outer area a1 a2 direction
        let inFirst ← first.collectSepsU16 outer a1
        let inSecond ← second.collectSepsU16 outer a2
        return here ++ inFirst ++ inSecond

def findAtNodeU16 (x y : Nat) : LayoutNode R → Rect → Option (Option Nat)
  | leaf id, area => do
      let cell ← area.containsU16 x y
      return if cell then some id else none
  | split direction ratio first second, area => do
      let (a1, a2) ← splitAreaU16 area direction ratio
      match ← first.findAtNodeU16 x y a1 with
      | some id => return some id
      | none => second.findAtNodeU16 x y a2

theorem collectRectsU16_eq (node : LayoutNode R) {area : Rect} (fits : area.Fits) (out : IdMap Rect) :
    node.collectRectsU16 area out = some (node.collectRects area out) := by
  induction node generalizing area out with
  | leaf id => rfl
  | split direction ratio first second ihFirst ihSecond =>
      have inside := splitArea_inside fits direction ratio
      simp only [collectRectsU16, collectRects, splitAreaU16_eq fits, Option.bind_eq_bind, Option.bind_some,
        ihFirst (inside.1.fits fits), ihSecond (inside.2.fits fits)]

theorem collectSepsU16_eq (node : LayoutNode R) {outer area : Rect} (outerFits : outer.Fits) (fits : area.Fits) :
    node.collectSepsU16 outer area = some (node.collectSeps outer area) := by
  induction node generalizing area with
  | leaf id => rfl
  | split direction ratio first second ihFirst ihSecond =>
      have inside := splitArea_inside fits direction ratio
      rw [collectSepsU16, collectSeps_split]
      split
      · rfl
      · rename_i extents
        simp only [Bool.or_eq_true, decide_eq_true_eq, not_or] at extents
        simp only [splitAreaU16_eq fits, Option.bind_eq_bind, Option.bind_some,
          splitLineU16_eq outerFits (Nat.pos_of_ne_zero extents.1.2) (Nat.pos_of_ne_zero extents.2) fits (inside.1.fits fits),
          ihFirst (inside.1.fits fits), ihSecond (inside.2.fits fits)]
        rfl

theorem findAtNodeU16_eq (node : LayoutNode R) {area : Rect} (fits : area.Fits) (x y : Nat) :
    node.findAtNodeU16 x y area = some (node.findAtNode x y area) := by
  induction node generalizing area with
  | leaf id =>
      simp only [findAtNodeU16, findAtNode, Rect.containsU16_eq, Option.bind_eq_bind, Option.bind_some]
      rfl
  | split direction ratio first second ihFirst ihSecond =>
      have inside := splitArea_inside fits direction ratio
      simp only [findAtNodeU16, findAtNode, splitAreaU16_eq fits, Option.bind_eq_bind, Option.bind_some,
        ihFirst (inside.1.fits fits), ihSecond (inside.2.fits fits)]
      cases first.findAtNode x y (splitArea area direction ratio).1 with
      | none => rfl
      | some id => rfl

end LayoutNode

namespace Layout
variable {R : Type} [RatioOps R]

def paneRectsU16 (layout : Layout R) (inner : Rect) : Option (IdMap Rect) := do
  let area ← inner.clippedU16
  layout.root.collectRectsU16 area ∅

def separatorsU16 (layout : Layout R) (inner outer : Rect) : Option (List SepLine) := do
  let area ← inner.clippedU16
  let outer ← outer.clippedU16
  layout.root.collectSepsU16 outer area

def findAtU16 (layout : Layout R) (x y : Nat) (inner : Rect) : Option (Option Nat) := do
  let area ← inner.clippedU16
  layout.root.findAtNodeU16 x y area

theorem paneRectsU16_eq (layout : Layout R) {inner : Rect} (x : inner.x ≤ u16Max) (y : inner.y ≤ u16Max) :
    layout.paneRectsU16 inner = some (layout.paneRects inner) := by
  rw [paneRectsU16, Rect.clippedU16_eq x y]
  exact layout.root.collectRectsU16_eq (Rect.clipped_fits x y) ∅

theorem separatorsU16_eq (layout : Layout R) {inner outer : Rect} (x : inner.x ≤ u16Max) (y : inner.y ≤ u16Max)
    (outerX : outer.x ≤ u16Max) (outerY : outer.y ≤ u16Max) :
    layout.separatorsU16 inner outer = some (layout.separators inner outer) := by
  rw [separatorsU16, Rect.clippedU16_eq x y, Rect.clippedU16_eq outerX outerY]
  exact layout.root.collectSepsU16_eq (Rect.clipped_fits outerX outerY) (Rect.clipped_fits x y)

theorem findAtU16_eq (layout : Layout R) {inner : Rect} (x : inner.x ≤ u16Max) (y : inner.y ≤ u16Max) (column row : Nat) :
    layout.findAtU16 column row inner = some (layout.findAt column row inner) := by
  rw [findAtU16, Rect.clippedU16_eq x y]
  exact layout.root.findAtNodeU16_eq (Rect.clipped_fits x y) column row

/-- Panes and separators divide the inner rectangle, the hit test agrees, and no `u16` operation overflows. -/
theorem panes_partition (layout : Layout R) (distinct : layout.paneIds.Nodup) {inner outer : Rect}
    (innerRepresentable : inner.Representable) (outerRepresentable : outer.Representable)
    (within : ∀ x y, inner.clipped.contains x y = true → outer.clipped.contains x y = true) :
    (∀ id, id ∈ layout.paneRects inner ↔ id ∈ layout.paneIds) ∧
    (layout.paneRects inner).size = layout.paneIds.length ∧
    (∀ (id : Nat) (r : Rect), (layout.paneRects inner)[id]? = some r → r.Inside inner.clipped) ∧
    (∀ x y, inner.clipped.contains x y = true →
      (∃! id : Nat, ∃ r : Rect, (layout.paneRects inner)[id]? = some r ∧ r.contains x y = true) ∧
          (∀ sep ∈ layout.separators inner outer, ¬sep.Covers x y) ∨
        (∀ (id : Nat) (r : Rect), (layout.paneRects inner)[id]? = some r → r.contains x y = false) ∧
          ∃ sep ∈ layout.separators inner outer, sep.Covers x y) ∧
    (∀ x y (id : Nat), layout.findAt x y inner = some id ↔
      ∃ r : Rect, (layout.paneRects inner)[id]? = some r ∧ r.contains x y = true) ∧
    layout.paneRectsU16 inner = some (layout.paneRects inner) ∧
    layout.separatorsU16 inner outer = some (layout.separators inner outer) ∧
    ∀ x y, layout.findAtU16 x y inner = some (layout.findAt x y inner) := by
  obtain ⟨innerX, innerY, _, _⟩ := innerRepresentable
  obtain ⟨outerX, outerY, _, _⟩ := outerRepresentable
  have fits := Rect.clipped_fits innerX innerY
  refine ⟨fun _ => mem_paneRects, paneRects_size distinct inner, fun id r owned => ?_, fun x y cell => ?_,
    fun x y id => ?_, layout.paneRectsU16_eq innerX innerY, layout.separatorsU16_eq innerX innerY outerX outerY,
    layout.findAtU16_eq innerX innerY⟩
  · exact LayoutNode.rects_inside fits ((paneRects_getElem distinct).mp owned)
  · have owned := LayoutNode.cell_owned_iff layout.root fits (Rect.inside_of_contains cell within) cell
    simp only [paneRects_getElem distinct]
    by_cases drawn : Drawn (layout.root.collectSeps outer.clipped inner.clipped) x y
    · refine .inr ⟨fun id r member => ?_, drawn⟩
      exact Bool.eq_false_iff.mpr fun own => owned.mp ⟨(id, r), member, own⟩ drawn
    · obtain ⟨⟨id, r⟩, member, own⟩ := owned.mpr drawn
      refine .inl ⟨⟨id, ⟨r, member, own⟩, ?_⟩, fun sep listed covers => drawn ⟨sep, listed, covers⟩⟩
      rintro other ⟨r', otherMember, otherOwn⟩
      exact congrArg Prod.fst (LayoutNode.rects_disjoint fits otherMember otherOwn member own)
  · rw [findAt, LayoutNode.findAtNode_iff fits]
    simp only [paneRects_getElem distinct]

/-- Two columns inside a border. -/
theorem twoColumns_partition :
    let layout : Layout ℚ := ⟨.split .horizontal (1 / 2) (.leaf 0) (.leaf 1), 2⟩
    layout.paneIds.Nodup ∧ (layout.paneRects ⟨1, 1, 8, 3⟩).size = layout.paneIds.length := by
  have innerRepresentable : (⟨1, 1, 8, 3⟩ : Rect).Representable := by constructor <;> decide
  have outerRepresentable : (⟨0, 0, 10, 5⟩ : Rect).Representable := by constructor <;> decide
  refine ⟨by decide, (panes_partition ⟨.split .horizontal (1 / 2) (.leaf 0) (.leaf 1), 2⟩ (by decide)
    innerRepresentable outerRepresentable fun x y => ?_).2.1⟩
  simp only [Rect.contains_iff, Rect.clipped, u16Max]
  omega

end Layout

end Ezpn
