import Ezpn.Layout.Resize
import Mathlib.Data.List.Induction

/-!
# Moving the focus

From a pane that does not touch an edge of the content there is a pane to go to,
but for a pane of a single row or column, whose row or column may be all
separators on that side.
-/

set_option autoImplicit false

namespace Ezpn

/-! ## Rectangles along an axis -/

def Direction.other : Direction → Direction
  | .horizontal => .vertical
  | .vertical => .horizontal

@[simp] theorem Direction.other_ne (axis : Direction) : axis.other ≠ axis := by
  cases axis <;> simp [other]

namespace Rect

/-- The first coordinate along an axis. -/
def start (r : Rect) : Direction → Nat
  | .horizontal => r.x
  | .vertical => r.y

/-- The part of a rectangle with this range of coordinates along an axis. -/
def slice (r : Rect) (axis : Direction) (start extent : Nat) : Rect :=
  match axis with
  | .horizontal => { r with x := start, w := extent }
  | .vertical => { r with y := start, h := extent }

@[simp] theorem slice_start (r : Rect) (axis : Direction) (start extent : Nat) : (r.slice axis start extent).start axis = start := by
  cases axis <;> rfl

@[simp] theorem slice_extent (r : Rect) (axis : Direction) (start extent : Nat) : (r.slice axis start extent).span axis = extent := by
  cases axis <;> rfl

theorem slice_across {axis across : Direction} (apart : axis ≠ across) (r : Rect) (start extent : Nat) :
    (r.slice axis start extent).start across = r.start across ∧ (r.slice axis start extent).span across = r.span across := by
  cases axis <;> cases across <;> first | exact absurd rfl apart | exact ⟨rfl, rfl⟩

/-- The rectangle has the cell with these coordinates along and across an axis. -/
def Has (r : Rect) (axis : Direction) (along across : Nat) : Prop :=
  (r.start axis ≤ along ∧ along < r.start axis + r.span axis) ∧
    r.start axis.other ≤ across ∧ across < r.start axis.other + r.span axis.other

theorem has_iff (r : Rect) (axis : Direction) (along across : Nat) :
    r.Has axis along across ↔
      match axis with
      | .horizontal => r.contains along across = true
      | .vertical => r.contains across along = true := by
  cases axis with
  | horizontal => simp only [Has, Rect.contains_iff, start, span, Direction.other]
  | vertical =>
      simp only [Has, Rect.contains_iff, start, span, Direction.other]
      exact and_comm

def Visible (r : Rect) : Prop := 0 < r.w ∧ 0 < r.h

theorem visible_iff (r : Rect) (axis : Direction) : r.Visible ↔ 0 < r.span axis ∧ 0 < r.span axis.other := by
  cases axis with
  | horizontal => rfl
  | vertical => exact and_comm

theorem Inside.has {r outer : Rect} (inside : r.Inside outer) {axis : Direction} {along across : Nat}
    (cell : r.Has axis along across) : outer.Has axis along across := by
  rw [has_iff] at cell ⊢
  cases axis with
  | horizontal => exact inside.contains cell
  | vertical => exact inside.contains cell

end Rect

section Splits
variable {R : Type} [RatioOps R]

/-- An area is kept whole, its second part empty, or cut in two along its axis. -/
theorem splitArea_slices {area : Rect} (fits : area.Fits) (direction : Direction) (ratio : R) :
    ((splitArea area direction ratio).1 = area ∧ ¬(splitArea area direction ratio).2.Visible) ∨
      ∃ cut, 1 ≤ cut ∧ cut + 2 ≤ area.span direction ∧ splitArea area direction ratio =
        (area.slice direction (area.start direction) cut,
          area.slice direction (area.start direction + cut + 1) (area.span direction - 1 - cut)) := by
  rcases splitArea_cases fits direction ratio with
    ⟨second, whole, _, empty⟩ | ⟨fw, rfl, positive, room, cut⟩ | ⟨fh, rfl, positive, room, cut⟩
  · rw [whole]
    refine .inl ⟨rfl, ?_⟩
    simp only [Rect.Visible]
    omega
  · exact .inr ⟨fw, positive, room, cut⟩
  · exact .inr ⟨fh, positive, room, cut⟩

namespace LayoutNode

/-- A cell of some pane. -/
def Owned (node : LayoutNode R) (area : Rect) (axis : Direction) (along across : Nat) : Prop :=
  ∃ e ∈ node.rects area, e.2.Has axis along across

theorem Owned.first {direction : Direction} {ratio : R} {first second : LayoutNode R} {area : Rect} {axis : Direction}
    {along across : Nat} (owned : first.Owned (splitArea area direction ratio).1 axis along across) :
    (split direction ratio first second).Owned area axis along across := by
  obtain ⟨e, member, cell⟩ := owned
  exact ⟨e, List.mem_append_left _ member, cell⟩

theorem Owned.second {direction : Direction} {ratio : R} {first second : LayoutNode R} {area : Rect} {axis : Direction}
    {along across : Nat} (owned : second.Owned (splitArea area direction ratio).2 axis along across) :
    (split direction ratio first second).Owned area axis along across := by
  obtain ⟨e, member, cell⟩ := owned
  exact ⟨e, List.mem_append_right _ member, cell⟩

end LayoutNode

end Splits

/-! ## Edges of an area -/

namespace Rect

/-- The coordinate of an edge: the last one, or the first. -/
def edge (r : Rect) (axis : Direction) (far : Bool) : Nat :=
  if far then r.start axis + r.span axis - 1 else r.start axis

theorem edge_slice (r : Rect) (axis : Direction) (start extent : Nat) (far : Bool) :
    (r.slice axis start extent).edge axis far = if far then start + extent - 1 else start := by
  simp only [edge, slice_start, slice_extent]

theorem edge_across {axis across : Direction} (apart : axis ≠ across) (r : Rect) (start extent : Nat) (far : Bool) :
    (r.slice axis start extent).edge across far = r.edge across far := by
  obtain ⟨sameStart, sameExtent⟩ := slice_across apart r start extent
  simp only [edge, sameStart, sameExtent]

theorem visible_slice {r : Rect} (visible : r.Visible) (axis : Direction) (start : Nat) {extent : Nat} (positive : 0 < extent) :
    (r.slice axis start extent).Visible := by
  rw [visible_iff _ axis, slice_extent, (slice_across axis.other_ne.symm r start extent).2]
  exact ⟨positive, ((visible_iff r axis).mp visible).2⟩

end Rect

section Edges
variable {R : Type} [RatioOps R]

section Parts
variable {area : Rect} {direction : Direction} {ratio : R} {cut : Nat}
  (parts : splitArea area direction ratio =
    (area.slice direction (area.start direction) cut,
      area.slice direction (area.start direction + cut + 1) (area.span direction - 1 - cut)))
include parts

theorem parts_across {axis : Direction} (apart : direction ≠ axis) :
    ((splitArea area direction ratio).1.start axis = area.start axis ∧
        (splitArea area direction ratio).1.span axis = area.span axis) ∧
      (splitArea area direction ratio).2.start axis = area.start axis ∧
        (splitArea area direction ratio).2.span axis = area.span axis := by
  rw [parts]
  exact ⟨Rect.slice_across apart _ _ _, Rect.slice_across apart _ _ _⟩

theorem parts_edge_across {axis : Direction} (apart : direction ≠ axis) (far : Bool) :
    (splitArea area direction ratio).1.edge axis far = area.edge axis far ∧
      (splitArea area direction ratio).2.edge axis far = area.edge axis far := by
  rw [parts]
  exact ⟨Rect.edge_across apart _ _ _ _, Rect.edge_across apart _ _ _ _⟩

/-- The outer edges of the parts are the area's. -/
theorem parts_edge_outer (room : cut + 2 ≤ area.span direction) :
    (splitArea area direction ratio).1.edge direction false = area.edge direction false ∧
      (splitArea area direction ratio).2.edge direction true = area.edge direction true := by
  rw [parts]
  constructor
  · rw [Rect.edge_slice]
    rfl
  · rw [Rect.edge_slice, Rect.edge]
    simp only [if_true]
    omega

/-- Their inner edges are next to the separator. -/
theorem parts_edge_inner :
    (splitArea area direction ratio).1.edge direction true = area.start direction + cut - 1 ∧
      (splitArea area direction ratio).2.edge direction false = area.start direction + cut + 1 := by
  rw [parts, Rect.edge_slice, Rect.edge_slice]
  exact ⟨rfl, rfl⟩

theorem parts_visible (visible : area.Visible) (positive : 1 ≤ cut) (room : cut + 2 ≤ area.span direction) :
    (splitArea area direction ratio).1.Visible ∧ (splitArea area direction ratio).2.Visible := by
  rw [parts]
  exact ⟨Rect.visible_slice visible _ _ positive, Rect.visible_slice visible _ _ (by omega)⟩

end Parts

namespace LayoutNode

/-- A corner of an area belongs to a pane. -/
theorem corner_owned (node : LayoutNode R) {area : Rect} (fits : area.Fits) (visible : area.Visible) (axis : Direction)
    (far farAcross : Bool) : node.Owned area axis (area.edge axis far) (area.edge axis.other farAcross) := by
  induction node generalizing area with
  | leaf id =>
      obtain ⟨along, across⟩ := (Rect.visible_iff area axis).mp visible
      refine ⟨(id, area), List.mem_singleton_self _, ?_⟩
      simp only [Rect.Has, Rect.edge]
      split <;> split <;> omega
  | split direction ratio first second ihFirst ihSecond =>
      have inside := splitArea_inside fits direction ratio
      rcases splitArea_slices fits direction ratio with ⟨whole, _⟩ | ⟨cut, positive, room, parts⟩
      · refine .first ?_
        rw [whole]
        exact ihFirst fits visible
      have firstFits := inside.1.fits fits
      have secondFits := inside.2.fits fits
      obtain ⟨firstVisible, secondVisible⟩ := parts_visible parts visible positive room
      have atFirst := ihFirst firstFits firstVisible
      have atSecond := ihSecond secondFits secondVisible
      obtain ⟨outerFirst, outerSecond⟩ := parts_edge_outer parts room
      by_cases same : direction = axis
      · subst same
        have acrossParts := parts_edge_across parts direction.other_ne.symm farAcross
        cases far with
        | true =>
            rw [outerSecond, acrossParts.2] at atSecond
            exact .second atSecond
        | false =>
            rw [outerFirst, acrossParts.1] at atFirst
            exact .first atFirst
      · have alongParts := parts_edge_across parts same far
        have turned : direction = axis.other := by
          cases direction <;> cases axis <;> first | exact absurd rfl same | rfl
        subst turned
        cases farAcross with
        | true =>
            rw [alongParts.2, outerSecond] at atSecond
            exact .second atSecond
        | false =>
            rw [alongParts.1, outerFirst] at atFirst
            exact .first atFirst

/-- Of two cells next to each other at an edge, one belongs to a pane. -/
theorem edge_owned (node : LayoutNode R) {area : Rect} (fits : area.Fits) (visible : area.Visible) (axis : Direction)
    (far : Bool) (across : Nat) (lower : area.start axis.other ≤ across)
    (upper : across + 1 < area.start axis.other + area.span axis.other) :
    node.Owned area axis (area.edge axis far) across ∨ node.Owned area axis (area.edge axis far) (across + 1) := by
  induction node generalizing area with
  | leaf id =>
      have extents := (Rect.visible_iff area axis).mp visible
      refine .inl ⟨(id, area), List.mem_singleton_self _, ?_⟩
      simp only [Rect.Has, Rect.edge]
      split <;> omega
  | split direction ratio first second ihFirst ihSecond =>
      have inside := splitArea_inside fits direction ratio
      rcases splitArea_slices fits direction ratio with ⟨whole, _⟩ | ⟨cut, positive, room, parts⟩
      · refine (ihFirst (inside.1.fits fits) (by rwa [whole]) (by rwa [whole]) (by rwa [whole])).imp ?_ ?_
        · exact fun owned => .first (by rwa [whole] at owned ⊢)
        · exact fun owned => .first (by rwa [whole] at owned ⊢)
      obtain ⟨firstVisible, secondVisible⟩ := parts_visible parts visible positive room
      obtain ⟨outerFirst, outerSecond⟩ := parts_edge_outer parts room
      by_cases same : direction = axis
      · subst same
        have range := parts_across parts direction.other_ne.symm
        cases far with
        | true =>
            have owned := ihSecond (inside.2.fits fits) secondVisible (by rwa [range.2.1]) (by rwa [range.2.1, range.2.2])
            rw [outerSecond] at owned
            exact owned.imp .second .second
        | false =>
            have owned := ihFirst (inside.1.fits fits) firstVisible (by rwa [range.1.1]) (by rwa [range.1.1, range.1.2])
            rw [outerFirst] at owned
            exact owned.imp .first .first
      · have turned : direction = axis.other := by
          cases direction <;> cases axis <;> first | exact absurd rfl same | rfl
        subst turned
        obtain ⟨alongFirst, alongSecond⟩ := parts_edge_across parts same far
        obtain ⟨endFirst, startSecond⟩ := parts_edge_inner parts
        rcases Nat.lt_trichotomy (across + 1) (area.start axis.other + cut) with before | atLine | after
        · have owned := ihFirst (inside.1.fits fits) firstVisible (by rw [parts, Rect.slice_start]; exact lower)
            (by rw [parts, Rect.slice_start, Rect.slice_extent]; exact before)
          rw [alongFirst] at owned
          exact owned.imp .first .first
        · -- the second cell is on the line, the first one at the end of the first part
          have owned := first.corner_owned (inside.1.fits fits) firstVisible axis far true
          rw [alongFirst, endFirst, ← atLine] at owned
          exact .inl (.first owned)
        · by_cases line : across = area.start axis.other + cut
          · have owned := second.corner_owned (inside.2.fits fits) secondVisible axis far false
            rw [alongSecond, startSecond, ← line] at owned
            exact .inr (.second owned)
          · have owned := ihSecond (inside.2.fits fits) secondVisible (by rw [parts, Rect.slice_start]; omega)
              (by rw [parts, Rect.slice_start, Rect.slice_extent]; omega)
            rw [alongSecond] at owned
            exact owned.imp .second .second

end LayoutNode

end Edges

/-! ## Beyond a pane -/

namespace Rect

/-- The rectangle lies wholly past another one along an axis. -/
def Past (r dst : Rect) (axis : Direction) (far : Bool) : Prop :=
  if far then r.start axis + r.span axis ≤ dst.start axis else dst.start axis + dst.span axis ≤ r.start axis

/-- They share coordinates along an axis. -/
def Overlaps (r dst : Rect) (axis : Direction) : Prop :=
  r.start axis < dst.start axis + dst.span axis ∧ dst.start axis < r.start axis + r.span axis

/-- The rectangle reaches an edge of the area. -/
def Touches (r area : Rect) (axis : Direction) (far : Bool) : Prop :=
  if far then r.start axis + r.span axis = area.start axis + area.span axis else r.start axis = area.start axis

/-- A cell past the rectangle, in one of its own rows or columns. -/
def Faces (r : Rect) (axis : Direction) (far : Bool) (along across : Nat) : Prop :=
  (if far then r.start axis + r.span axis ≤ along else along < r.start axis) ∧
    r.start axis.other ≤ across ∧ across < r.start axis.other + r.span axis.other

/-- Cells between a rectangle and one past it. -/
def gap (r dst : Rect) (axis : Direction) (far : Bool) : Nat :=
  if far then dst.start axis - (r.start axis + r.span axis) else r.start axis - (dst.start axis + dst.span axis)

theorem Inside.along {r outer : Rect} (inside : r.Inside outer) (axis : Direction) :
    outer.start axis ≤ r.start axis ∧ r.start axis + r.span axis ≤ outer.start axis + outer.span axis := by
  obtain ⟨left, right, above, below⟩ := inside
  cases axis with
  | horizontal => exact ⟨left, right⟩
  | vertical => exact ⟨above, below⟩

theorem Inside.visible {r outer : Rect} (inside : r.Inside outer) (visible : r.Visible) : outer.Visible := by
  obtain ⟨left, right, above, below⟩ := inside
  unfold Visible at visible ⊢
  omega

end Rect

section Beyond
variable {R : Type} [RatioOps R]

namespace LayoutNode

/-- An area past a rectangle of two cells or more has a pane that the rectangle faces. -/
theorem faces_owned {node : LayoutNode R} {area : Rect} (fits : area.Fits) (visible : area.Visible) {axis : Direction}
    {far : Bool} {r : Rect} (thick : 2 ≤ r.span axis.other)
    (past : if far then r.start axis + r.span axis ≤ area.edge axis false else area.edge axis true < r.start axis)
    (lower : area.start axis.other ≤ r.start axis.other)
    (upper : r.start axis.other + r.span axis.other ≤ area.start axis.other + area.span axis.other) :
    ∃ along across, r.Faces axis far along across ∧ node.Owned area axis along across := by
  have reached : if far then r.start axis + r.span axis ≤ area.edge axis (!far) else area.edge axis (!far) < r.start axis := by
    cases far <;> exact past
  rcases node.edge_owned fits visible axis (!far) (r.start axis.other) lower (by omega) with owned | owned
  · exact ⟨_, _, ⟨reached, Nat.le_refl _, by omega⟩, owned⟩
  · exact ⟨_, _, ⟨reached, by omega, by omega⟩, owned⟩

/-- Past a pane of two cells or more that does not touch the edge there is a pane. -/
theorem facing_owned {node : LayoutNode R} {area : Rect} (fits : area.Fits) {axis : Direction} {far : Bool} {id : Nat}
    {r : Rect} (member : (id, r) ∈ node.rects area) (visible : r.Visible) (thick : 2 ≤ r.span axis.other)
    (apart : ¬r.Touches area axis far) : ∃ along across, r.Faces axis far along across ∧ node.Owned area axis along across := by
  induction node generalizing area with
  | leaf leafId =>
      obtain ⟨_, rfl⟩ := Prod.mk.inj (List.mem_singleton.mp member)
      refine absurd ?_ apart
      unfold Rect.Touches
      split <;> rfl
  | split direction ratio first second ihFirst ihSecond =>
      have inside := splitArea_inside fits direction ratio
      rcases splitArea_slices fits direction ratio with ⟨whole, empty⟩ | ⟨cut, positive, room, parts⟩
      · rcases List.mem_append.mp member with inFirst | inSecond
        · obtain ⟨along, across, faces, owned⟩ := ihFirst (inside.1.fits fits) inFirst (by rwa [whole])
          exact ⟨along, across, faces, .first owned⟩
        · exact absurd ((rects_inside (inside.2.fits fits) inSecond).visible visible) empty
      by_cases same : direction = axis
      · subst same
        obtain ⟨acrossFirst, acrossSecond⟩ := parts_across parts direction.other_ne.symm
        obtain ⟨innerFirst, innerSecond⟩ := parts_edge_inner parts
        rcases List.mem_append.mp member with inFirst | inSecond
        · have within := rects_inside (inside.1.fits fits) inFirst
          have across := within.along direction.other
          rw [acrossFirst.1, acrossFirst.2] at across
          by_cases reaches : r.Touches (splitArea area direction ratio).1 direction far
          · simp only [Rect.Touches, parts, Rect.slice_start, Rect.slice_extent] at reaches
            cases far with
            | false => exact absurd reaches apart
            | true =>
                -- the pane is at the separator, and the second part begins behind it
                have visibleParts := parts_visible parts ((within.trans inside.1).visible visible) positive room
                obtain ⟨along, position, faces, owned⟩ := second.faces_owned (inside.2.fits fits) visibleParts.2 thick
                  (show if true then r.start direction + r.span direction ≤ _ else _ by
                    simp only [if_true, innerSecond] at reaches ⊢
                    omega)
                  (by rw [acrossSecond.1]; exact across.1) (by rw [acrossSecond.1, acrossSecond.2]; exact across.2)
                exact ⟨along, position, faces, .second owned⟩
          · obtain ⟨along, position, faces, owned⟩ := ihFirst (inside.1.fits fits) inFirst reaches
            exact ⟨along, position, faces, .first owned⟩
        · have within := rects_inside (inside.2.fits fits) inSecond
          have across := within.along direction.other
          rw [acrossSecond.1, acrossSecond.2] at across
          by_cases reaches : r.Touches (splitArea area direction ratio).2 direction far
          · simp only [Rect.Touches, parts, Rect.slice_start, Rect.slice_extent] at reaches
            cases far with
            | true =>
                refine absurd ?_ apart
                simp only [Rect.Touches, if_true] at reaches ⊢
                omega
            | false =>
                have visibleParts := parts_visible parts ((within.trans inside.2).visible visible) positive room
                obtain ⟨along, position, faces, owned⟩ := first.faces_owned (inside.1.fits fits) visibleParts.1 thick
                  (show if false then _ else _ < r.start direction by
                    simp only [Bool.false_eq_true, if_false, innerFirst] at reaches ⊢
                    omega)
                  (by rw [acrossFirst.1]; exact across.1) (by rw [acrossFirst.1, acrossFirst.2]; exact across.2)
                exact ⟨along, position, faces, .first owned⟩
          · obtain ⟨along, position, faces, owned⟩ := ihSecond (inside.2.fits fits) inSecond reaches
            exact ⟨along, position, faces, .second owned⟩
      · obtain ⟨range, range'⟩ := parts_across parts same
        rcases List.mem_append.mp member with inFirst | inSecond
        · obtain ⟨along, position, faces, owned⟩ := ihFirst (inside.1.fits fits) inFirst
            (by rwa [Rect.Touches, range.1, range.2])
          exact ⟨along, position, faces, .first owned⟩
        · obtain ⟨along, position, faces, owned⟩ := ihSecond (inside.2.fits fits) inSecond
            (by rwa [Rect.Touches, range'.1, range'.2])
          exact ⟨along, position, faces, .second owned⟩

end LayoutNode

end Beyond

/-! ## The nearest pane -/

/-- Whether the direction is towards larger coordinates. -/
def NavDir.far : NavDir → Bool
  | .left | .up => false
  | .right | .down => true

/-- A visible pane wholly on that side, with rows or columns in common. -/
structure Reachable (src dst : Rect) (dir : NavDir) : Prop where
  visible : dst.Visible
  past : src.Past dst dir.axis dir.far
  overlaps : src.Overlaps dst dir.axis.other

theorem isAdjacent_iff {src dst : Rect} {dir : NavDir} (visible : src.Visible) :
    isAdjacent src dst dir = true ↔ Reachable src dst dir := by
  obtain ⟨width, height⟩ := visible
  have whole : isAdjacent src dst dir = true ↔
      dst.Visible ∧ src.Past dst dir.axis dir.far ∧ src.Overlaps dst dir.axis.other := by
    unfold isAdjacent Rect.Visible
    split
    · rename_i empty
      simp only [Bool.or_eq_true, decide_eq_true_eq] at empty
      refine iff_of_false Bool.false_ne_true ?_
      omega
    · rename_i extents
      simp only [Bool.or_eq_true, decide_eq_true_eq, not_or] at extents
      have shown : 0 < dst.w ∧ 0 < dst.h := by omega
      cases dir <;>
        simp [shown, Rect.Past, Rect.Overlaps, NavDir.axis, NavDir.far, Direction.other, Rect.start, Rect.span, vOverlap,
          hOverlap]
  rw [whole]
  constructor
  · rintro ⟨shown, past, overlaps⟩
    exact ⟨shown, past, overlaps⟩
  · rintro ⟨shown, past, overlaps⟩
    exact ⟨shown, past, overlaps⟩

theorem navDistance_eq (src dst : Rect) (dir : NavDir) : navDistance src dst dir = src.gap dst dir.axis dir.far := by
  cases dir <;> rfl

/-- The fold of `navigate`: the candidate at the least distance, the smaller id among those. -/
def closer (distance : Rect → Nat) (best : Option (Nat × Nat)) (candidate : Nat × Rect) : Option (Nat × Nat) :=
  match best with
  | none => some (distance candidate.2, candidate.1)
  | some (nearest, id) =>
      if distance candidate.2 < nearest || (distance candidate.2 = nearest && candidate.1 < id) then
        some (distance candidate.2, candidate.1)
      else some (nearest, id)

/-- The best of some candidates is one of them, and none is closer. -/
theorem closer_best (distance : Rect → Nat) (candidates : List (Nat × Rect)) :
    (candidates.foldl (closer distance) none = none ↔ candidates = []) ∧
      ∀ nearest id, candidates.foldl (closer distance) none = some (nearest, id) →
        (∃ r, (id, r) ∈ candidates ∧ distance r = nearest) ∧ ∀ other ∈ candidates, nearest ≤ distance other.2 := by
  induction candidates using List.reverseRecOn with
  | nil => exact ⟨iff_of_true rfl rfl, nofun⟩
  | append_singleton candidates last ih =>
      rw [List.foldl_append, List.foldl_cons, List.foldl_nil]
      cases best : candidates.foldl (closer distance) none with
      | none =>
          have none := ih.1.mp best
          subst none
          refine ⟨by simp [closer], fun nearest id found => ?_⟩
          cases found
          exact ⟨⟨last.2, by simp, rfl⟩, by simp⟩
      | some entry =>
          obtain ⟨nearest, id⟩ := entry
          obtain ⟨⟨r, member, exact⟩, least⟩ := ih.2 nearest id best
          refine ⟨iff_of_false ?_ (by simp), fun now chosen found => ?_⟩
          · simp only [closer]
            split <;> simp
          simp only [closer] at found
          split at found
          · rename_i better
            simp only [Bool.or_eq_true, decide_eq_true_eq, Bool.and_eq_true] at better
            cases found
            refine ⟨⟨last.2, by simp, rfl⟩, fun other listed => ?_⟩
            rcases List.mem_append.mp listed with earlier | here
            · have := least other earlier
              omega
            · rw [List.mem_singleton.mp here]
          · rename_i worse
            simp only [Bool.or_eq_true, decide_eq_true_eq, Bool.and_eq_true, not_or, not_and] at worse
            cases found
            refine ⟨⟨r, List.mem_append_left _ member, exact⟩, fun other listed => ?_⟩
            rcases List.mem_append.mp listed with earlier | here
            · exact least other earlier
            · rw [List.mem_singleton.mp here]
              omega

/-! ## Layouts -/

namespace Layout
variable {R : Type} [RatioOps R]

/-- The panes that a move of the focus has to choose from. -/
def candidates (layout : Layout R) (fromId : Nat) (src : Rect) (dir : NavDir) (inner : Rect) : List (Nat × Rect) :=
  (layout.paneRects inner).toList.filter fun (id, r) => id != fromId && isAdjacent src r dir

theorem navigate_eq {layout : Layout R} {fromId : Nat} {dir : NavDir} {inner src : Rect}
    (found : (layout.paneRects inner)[fromId]? = some src) :
    layout.navigate fromId dir inner =
      ((layout.candidates fromId src dir inner).foldl (closer fun dst => navDistance src dst dir) none).map (·.2) := by
  simp only [navigate, found]
  rfl

theorem mem_candidates {layout : Layout R} {fromId id : Nat} {dir : NavDir} {inner src dst : Rect}
    (found : (layout.paneRects inner)[fromId]? = some src) (visible : src.Visible) :
    (id, dst) ∈ layout.candidates fromId src dir inner ↔ (layout.paneRects inner)[id]? = some dst ∧ Reachable src dst dir := by
  rw [candidates, List.mem_filter, Std.ExtTreeMap.mem_toList_iff_getElem?_eq_some, Bool.and_eq_true, isAdjacent_iff visible]
  refine ⟨fun ⟨listed, _, reachable⟩ => ⟨listed, reachable⟩, fun ⟨listed, reachable⟩ => ⟨listed, ?_, reachable⟩⟩
  -- a pane is not on a side of itself
  rw [bne_iff_ne]
  rintro rfl
  rw [found] at listed
  cases listed
  have extents := (Rect.visible_iff src dir.axis).mp visible
  have past := reachable.past
  unfold Rect.Past at past
  split at past <;> omega

/-- There is a candidate exactly when a pane has a cell that faces this one. -/
theorem reachable_iff {layout : Layout R} (distinct : layout.paneIds.Nodup) {inner : Rect} (fits : inner.clipped.Fits)
    {fromId : Nat} {dir : NavDir} {src : Rect} (found : (layout.paneRects inner)[fromId]? = some src)
    (visible : src.Visible) :
    (∃ (id : Nat) (dst : Rect), (layout.paneRects inner)[id]? = some dst ∧ Reachable src dst dir) ↔
      ∃ along across, src.Faces dir.axis dir.far along across ∧
        layout.root.Owned inner.clipped dir.axis along across := by
  have extents := (Rect.visible_iff src dir.axis).mp visible
  constructor
  · rintro ⟨id, dst, listed, shown, past, overlaps⟩
    have dstExtents := (Rect.visible_iff dst dir.axis).mp shown
    unfold Rect.Past at past
    unfold Rect.Overlaps at overlaps
    have cell : dst.Has dir.axis (dst.start dir.axis) (max (src.start dir.axis.other) (dst.start dir.axis.other)) :=
      ⟨⟨by omega, by omega⟩, by omega, by omega⟩
    refine ⟨_, _, ⟨?_, by omega, by omega⟩, (id, dst), (paneRects_getElem distinct).mp listed, cell⟩
    split at past
    · rename_i far
      rw [if_pos far]
      exact past
    · rename_i near
      rw [if_neg near]
      omega
  · rintro ⟨along, across, faces, ⟨id, dst⟩, member, cell⟩
    refine ⟨id, dst, (paneRects_getElem distinct).mpr member, ?_⟩
    obtain ⟨beyond, lower, upper⟩ := faces
    have inDst : dst.Has dir.axis along across := cell
    obtain ⟨alongBounds, acrossBounds⟩ := inDst
    refine ⟨(Rect.visible_iff dst dir.axis).mpr ⟨by omega, by omega⟩, ?_, by omega, by omega⟩
    -- if it reached back to this pane, they would share a cell in that row or column
    have fromMember := (paneRects_getElem distinct).mp found
    have apart (position : Nat) (inSrc : src.Has dir.axis position across) (inDst : dst.Has dir.axis position across) : False := by
      have same : (fromId, src) = (id, dst) := by
        cases axis : dir.axis with
        | horizontal =>
            rw [axis, Rect.has_iff] at inSrc inDst
            exact LayoutNode.rects_disjoint fits fromMember inSrc member inDst
        | vertical =>
            rw [axis, Rect.has_iff] at inSrc inDst
            exact LayoutNode.rects_disjoint fits fromMember inSrc member inDst
      cases same
      split at beyond <;> omega
    unfold Rect.Past
    split
    · rename_i far
      rw [if_pos far] at beyond
      by_contra back
      refine apart (src.start dir.axis + src.span dir.axis - 1) ⟨⟨?_, ?_⟩, lower, upper⟩ ⟨⟨?_, ?_⟩, acrossBounds⟩ <;> omega
    · rename_i near
      rw [if_neg near] at beyond
      by_contra back
      refine apart (src.start dir.axis) ⟨⟨?_, ?_⟩, lower, upper⟩ ⟨⟨?_, ?_⟩, acrossBounds⟩ <;> omega

theorem navigate_none {layout : Layout R} {inner : Rect} {fromId : Nat} {dir : NavDir} {src : Rect}
    (found : (layout.paneRects inner)[fromId]? = some src) (visible : src.Visible) :
    layout.navigate fromId dir inner = none ↔
      ¬∃ (id : Nat) (dst : Rect), (layout.paneRects inner)[id]? = some dst ∧ Reachable src dst dir := by
  rw [navigate_eq found, Option.map_eq_none_iff, (closer_best _ _).1, List.eq_nil_iff_forall_not_mem]
  constructor
  · rintro none ⟨id, dst, candidate⟩
    exact none (id, dst) ((mem_candidates found visible).mpr candidate)
  · rintro none ⟨id, dst⟩ member
    exact none ⟨id, dst, (mem_candidates found visible).mp member⟩

/-- The focus goes to a nearest pane on that side. -/
def Nearest (layout : Layout R) (inner src : Rect) (dir : NavDir) (id : Nat) : Prop :=
  ∃ dst, (layout.paneRects inner)[id]? = some dst ∧ Reachable src dst dir ∧
    ∀ (other : Nat) (r : Rect), (layout.paneRects inner)[other]? = some r → Reachable src r dir →
      src.gap dst dir.axis dir.far ≤ src.gap r dir.axis dir.far

theorem navigate_nearest {layout : Layout R} {inner : Rect} {fromId id : Nat} {dir : NavDir} {src : Rect}
    (found : (layout.paneRects inner)[fromId]? = some src) (visible : src.Visible)
    (chosen : layout.navigate fromId dir inner = some id) : layout.Nearest inner src dir id := by
  rw [navigate_eq found, Option.map_eq_some_iff] at chosen
  obtain ⟨⟨nearest, best⟩, folded, rfl⟩ := chosen
  obtain ⟨⟨dst, member, rfl⟩, least⟩ := (closer_best _ _).2 nearest best folded
  obtain ⟨listed, reachable⟩ := (mem_candidates found visible).mp member
  refine ⟨dst, listed, reachable, fun other r present onSide => ?_⟩
  have bound := least (other, r) ((mem_candidates found visible).mpr ⟨present, onSide⟩)
  rwa [navDistance_eq, navDistance_eq] at bound

/-- The focus stays where the pane touches the edge, or has a single row or column that goes on in separators only;
otherwise it goes to a nearest pane on that side. -/
theorem navigate_exact (layout : Layout R) (distinct : layout.paneIds.Nodup) (inner : Rect)
    (representable : inner.Representable) (fromId : Nat) (src : Rect)
    (found : (layout.paneRects inner)[fromId]? = some src) (visible : src.Visible) (dir : NavDir) :
    (layout.navigate fromId dir inner = none ↔ src.Touches inner.clipped dir.axis dir.far ∨
      src.span dir.axis.other = 1 ∧ ∀ along across, src.Faces dir.axis dir.far along across →
        ¬layout.root.Owned inner.clipped dir.axis along across) ∧
      ∀ id, layout.navigate fromId dir inner = some id → layout.Nearest inner src dir id := by
  have fits := Rect.clipped_fits representable.x representable.y
  have member := (paneRects_getElem distinct).mp found
  have extents := (Rect.visible_iff src dir.axis).mp visible
  refine ⟨?_, fun id chosen => navigate_nearest found visible chosen⟩
  rw [navigate_none found visible, reachable_iff distinct fits found visible]
  constructor
  · intro none
    by_cases touches : src.Touches inner.clipped dir.axis dir.far
    · exact .inl touches
    · refine .inr ⟨?_, fun along across faces owned => none ⟨along, across, faces, owned⟩⟩
      by_contra thick
      exact none (LayoutNode.facing_owned fits member visible (by omega) touches)
  · rintro (touches | ⟨_, none⟩) ⟨along, across, faces, owned⟩
    · -- no cell of the content is past its edge
      obtain ⟨e, listed, cell⟩ := owned
      obtain ⟨bounds, _⟩ := (LayoutNode.rects_inside fits listed).has cell
      unfold Rect.Touches at touches
      obtain ⟨beyond, _⟩ := faces
      split at touches
      · rename_i far
        rw [if_pos far] at beyond
        omega
      · rename_i near
        rw [if_neg near] at beyond
        omega
    · exact none along across faces owned

/-- Three rows on the left, two on the right. -/
def threeBesideTwo : Layout ℚ :=
  { root := .split .horizontal (1 / 2)
      (.split .vertical (1 / 3) (.leaf 0) (.split .vertical (1 / 2) (.leaf 1) (.leaf 2)))
      (.split .vertical (1 / 2) (.leaf 3) (.leaf 4))
    nextId := 5 }

/-- From the top row on the left the focus goes to the top row on the right. -/
theorem threeBesideTwo_top :
    ∃ id, threeBesideTwo.navigate 0 .right { x := 0, y := 0, w := 5, h := 5 } = some id ∧
      threeBesideTwo.Nearest { x := 0, y := 0, w := 5, h := 5 } { x := 0, y := 0, w := 2, h := 1 } .right id :=
  ⟨3, by decide +kernel, (navigate_exact threeBesideTwo (by decide) { x := 0, y := 0, w := 5, h := 5 }
    ⟨by decide, by decide, by decide, by decide⟩ 0 { x := 0, y := 0, w := 2, h := 1 } (by decide +kernel)
    ⟨by decide, by decide⟩ .right).2 3 (by decide +kernel)⟩

/-- The middle one of three rows of one cell faces the separator between two rows, and has nowhere to go. -/
theorem threeBesideTwo_stuck :
    threeBesideTwo.paneIds.Nodup ∧
    (threeBesideTwo.paneRects { x := 0, y := 0, w := 5, h := 5 })[1]? = some { x := 0, y := 2, w := 2, h := 1 } ∧
    ¬({ x := 0, y := 2, w := 2, h := 1 } : Rect).Touches { x := 0, y := 0, w := 5, h := 5 } .horizontal true ∧
    threeBesideTwo.navigate 1 .right { x := 0, y := 0, w := 5, h := 5 } = none := by
  refine ⟨by decide, by decide +kernel, ?_, by decide +kernel⟩
  simp [Rect.Touches, Rect.start, Rect.span]

end Layout

end Ezpn
