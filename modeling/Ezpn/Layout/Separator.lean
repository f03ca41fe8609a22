import Ezpn.Layout.Geometry

/-!
# Addresses of separators

A path addresses a split of the tree. Its area is cut out of the content rectangle
by the splits above it, and moving its separator changes no other.
-/

set_option autoImplicit false

namespace Ezpn

namespace LayoutNode
variable {R : Type}

/-- The directions and ratios of the splits above the addressed one, and its own direction. -/
def spine : List Bool → LayoutNode R → Option (List (Direction × R) × Direction)
  | [], split direction _ _ _ => some ([], direction)
  | false :: path, split direction ratio first _ =>
      (first.spine path).map fun (above, own) => ((direction, ratio) :: above, own)
  | true :: path, split direction ratio _ second =>
      (second.spine path).map fun (above, own) => ((direction, ratio) :: above, own)
  | _, leaf _ => none

def ratioAt : List Bool → LayoutNode R → Option R
  | [], split _ ratio _ _ => some ratio
  | false :: path, split _ _ first _ => first.ratioAt path
  | true :: path, split _ _ _ second => second.ratioAt path
  | _, leaf _ => none

variable [RatioOps R]

/-- The direction and the area of the addressed split. -/
def splitAt : List Bool → LayoutNode R → Rect → Option (Direction × Rect)
  | [], split direction _ _ _, area => some (direction, area)
  | false :: path, split direction ratio first _, area => first.splitAt path (splitArea area direction ratio).1
  | true :: path, split direction ratio _ second, area => second.splitAt path (splitArea area direction ratio).2
  | _, leaf _, _ => none

/-- The area that a list of splits leaves at the end of a path. -/
def cutOut (area : Rect) : List Bool → List (Direction × R) → Rect
  | false :: path, (direction, ratio) :: above => cutOut (splitArea area direction ratio).1 path above
  | true :: path, (direction, ratio) :: above => cutOut (splitArea area direction ratio).2 path above
  | _, _ => area

attribute [grind =] spine ratioAt splitAt cutOut swapLeafIds findSepAt setRatioAt

/-- Where a split lies depends on its spine only. -/
theorem splitAt_spine (node : LayoutNode R) (path : List Bool) (area : Rect) :
    node.splitAt path area = (node.spine path).map fun (above, own) => (own, cutOut area path above) := by
  induction path generalizing node area with
  | nil => cases node <;> rfl
  | cons turn path ih =>
      cases node with
      | leaf id => cases turn <;> rfl
      | split direction ratio first second =>
          cases turn with
          | false =>
              simp only [splitAt, spine, ih, Option.map_map]
              rfl
          | true =>
              simp only [splitAt, spine, ih, Option.map_map]
              rfl

/-- An addressed split has a ratio. -/
theorem ratioAt_splitAt {node : LayoutNode R} {path : List Bool} {area : Rect} {place : Direction × Rect}
    (addressed : node.splitAt path area = some place) : ∃ ratio, node.ratioAt path = some ratio := by
  induction path generalizing node area with
  | nil =>
      cases node with
      | leaf id => cases addressed
      | split direction ratio first second => exact ⟨ratio, rfl⟩
  | cons turn path ih =>
      cases node with
      | leaf id => cases turn <;> cases addressed
      | split direction ratio first second =>
          cases turn with
          | false => exact ih addressed
          | true => exact ih addressed

omit [RatioOps R] in
theorem spine_swapLeafIds (a b : Nat) (node : LayoutNode R) (path : List Bool) :
    (node.swapLeafIds a b).spine path = node.spine path := by
  induction path generalizing node with
  | nil => cases node <;> rfl
  | cons turn path ih =>
      cases node with
      | leaf id => cases turn <;> rfl
      | split direction ratio first second => cases turn <;> simp only [swapLeafIds, spine, ih]

/-- A hit addresses the split that it reports. -/
theorem findSepAt_splitAt {x y : Nat} {node : LayoutNode R} {area : Rect} {path : List Bool} {hit : SepHit}
    (found : node.findSepAt x y area path = some hit) :
    ∃ turns, hit.path = path ++ turns ∧ node.splitAt turns area = some (hit.direction, hit.area) := by
  induction node generalizing area path with
  | leaf id => cases found
  | split direction ratio first second ihFirst ihSecond =>
      unfold findSepAt at found
      split at found
      · cases found
      have here_or_below : hit = { path, direction, area } ∨
          (first.findSepAt x y (splitArea area direction ratio).1 (path ++ [false])).or
            (second.findSepAt x y (splitArea area direction ratio).2 (path ++ [true])) = some hit := by
        cases direction with
        | horizontal =>
            dsimp only at found
            split at found
            · exact .inl (Option.some.inj found).symm
            · exact .inr found
        | vertical =>
            dsimp only at found
            split at found
            · exact .inl (Option.some.inj found).symm
            · exact .inr found
      rcases here_or_below with rfl | below
      · exact ⟨[], (List.append_nil path).symm, rfl⟩
      · rcases Option.or_eq_some_iff.mp below with below | ⟨_, below⟩
        · obtain ⟨turns, extended, there⟩ := ihFirst below
          exact ⟨false :: turns, by simp [extended], there⟩
        · obtain ⟨turns, extended, there⟩ := ihSecond below
          exact ⟨true :: turns, by simp [extended], there⟩

theorem setRatioAt_split_nil (direction : Direction) (old ratio : R) (first second : LayoutNode R)
    (finite : RatioOps.isFinite ratio = true) :
    (split direction old first second).setRatioAt ratio [] = split direction (RatioOps.clamp ratio) first second := by
  unfold setRatioAt
  simp only [finite, Bool.not_true, Bool.false_eq_true, if_false]

theorem setRatioAt_split_cons (direction : Direction) (old ratio : R) (first second : LayoutNode R) (turn : Bool)
    (path : List Bool) (finite : RatioOps.isFinite ratio = true) :
    (split direction old first second).setRatioAt ratio (turn :: path) =
      if turn then split direction old first (second.setRatioAt ratio path)
      else split direction old (first.setRatioAt ratio path) second := by
  rw [setRatioAt.eq_def]
  simp only [finite, Bool.not_true, Bool.false_eq_true, if_false]
  cases turn <;> rfl

theorem setRatioAt_leaf (id : Nat) (ratio : R) (path : List Bool) : (leaf id).setRatioAt ratio path = leaf id := by
  unfold setRatioAt
  split
  · rfl
  · split <;> simp_all

theorem setRatioAt_infinite (node : LayoutNode R) {ratio : R} (path : List Bool)
    (infinite : RatioOps.isFinite ratio = false) : node.setRatioAt ratio path = node := by
  rw [setRatioAt.eq_def]
  simp only [infinite, Bool.not_false, if_true]

/-- Moving a separator keeps its spine. -/
theorem spine_setRatioAt (node : LayoutNode R) (ratio : R) (path : List Bool) :
    (node.setRatioAt ratio path).spine path = node.spine path := by
  cases finite : RatioOps.isFinite ratio with
  | false => rw [setRatioAt_infinite node path finite]
  | true =>
      induction path generalizing node with
      | nil =>
          cases node with
          | leaf id => rw [setRatioAt_leaf]
          | split direction old first second => rw [setRatioAt_split_nil _ _ _ _ _ finite]; rfl
      | cons turn path ih =>
          cases node with
          | leaf id => rw [setRatioAt_leaf]
          | split direction old first second =>
              rw [setRatioAt_split_cons _ _ _ _ _ _ _ finite]
              cases turn <;> simp [spine, ih]

/-- Moving a separator moves no other. -/
theorem ratioAt_setRatioAt (node : LayoutNode R) {ratio : R} (finite : RatioOps.isFinite ratio = true)
    (path other : List Bool) :
    (node.setRatioAt ratio path).ratioAt other =
      if other = path then (node.ratioAt other).map fun _ => RatioOps.clamp ratio else node.ratioAt other := by
  induction path generalizing node other with
  | nil =>
      cases node with
      | leaf id =>
          rw [setRatioAt_leaf]
          cases other with
          | nil => rfl
          | cons turn other => simp
      | split direction old first second =>
          rw [setRatioAt_split_nil _ _ _ _ _ finite]
          cases other with
          | nil => rfl
          | cons turn other => cases turn <;> rfl
  | cons turn path ih =>
      cases node with
      | leaf id =>
          rw [setRatioAt_leaf]
          cases other with
          | nil => rfl
          | cons other rest => cases other <;> simp [ratioAt]
      | split direction old first second =>
          rw [setRatioAt_split_cons _ _ _ _ _ _ _ finite]
          cases other with
          | nil => cases turn <;> rfl
          | cons other rest => cases turn <;> cases other <;> simp [ratioAt, ih]

/-- Two trees that differ in the ratio of the addressed split only. -/
inductive Reratioed (old new : R) : List Bool → LayoutNode R → LayoutNode R → Prop where
  | here (direction : Direction) (first second : LayoutNode R) :
      Reratioed old new [] (split direction old first second) (split direction new first second)
  | first {path : List Bool} {first after : LayoutNode R} (direction : Direction) (ratio : R) (second : LayoutNode R)
      (inFirst : Reratioed old new path first after) :
      Reratioed old new (false :: path) (split direction ratio first second) (split direction ratio after second)
  | second {path : List Bool} {second after : LayoutNode R} (direction : Direction) (ratio : R) (first : LayoutNode R)
      (inSecond : Reratioed old new path second after) :
      Reratioed old new (true :: path) (split direction ratio first second) (split direction ratio first after)

omit [RatioOps R] in
theorem Reratioed.collectIds {old new : R} {path : List Bool} {node after : LayoutNode R}
    (reratioed : Reratioed old new path node after) : after.collectIds = node.collectIds := by
  induction reratioed with
  | here direction first second => rfl
  | first direction ratio second _ ih => simp only [LayoutNode.collectIds, ih]
  | second direction ratio first _ ih => simp only [LayoutNode.collectIds, ih]

theorem setRatioAt_reratioed {ratio old : R} (finite : RatioOps.isFinite ratio = true) {path : List Bool}
    {node : LayoutNode R} (addressed : node.ratioAt path = some old) :
    Reratioed old (RatioOps.clamp ratio) path node (node.setRatioAt ratio path) := by
  induction path generalizing node with
  | nil =>
      cases node with
      | leaf id => cases addressed
      | split direction r first second =>
          cases addressed
          rw [setRatioAt_split_nil _ _ _ _ _ finite]
          exact .here direction first second
  | cons turn path ih =>
      cases node with
      | leaf id => cases turn <;> cases addressed
      | split direction r first second =>
          rw [setRatioAt_split_cons _ _ _ _ _ _ _ finite]
          cases turn with
          | false => exact .first direction r second (ih addressed)
          | true => exact .second direction r first (ih addressed)

end LayoutNode

end Ezpn
