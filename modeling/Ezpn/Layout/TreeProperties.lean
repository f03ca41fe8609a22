import Ezpn.Layout.Tree
import Mathlib.Data.List.Nodup

/-!
# Leaf ids of rewritten trees

Every rewrite of a layout tree is summarised by what it does to the list of leaf
ids. The invariants of layouts are derived from these summaries alone.
-/

set_option autoImplicit false

namespace Ezpn

namespace LayoutNode
variable {R : Type}

@[simp] theorem collectIds_leaf {id : Nat} : (leaf id : LayoutNode R).collectIds = [id] := rfl

@[simp] theorem collectIds_split {direction : Direction} {ratio : R} {first second : LayoutNode R} :
    (split direction ratio first second).collectIds = first.collectIds ++ second.collectIds := rfl

theorem collectIds_ne_nil (node : LayoutNode R) : node.collectIds ≠ [] := by
  induction node with
  | leaf id => simp
  | split direction ratio first second firstIH secondIH => simp [firstIH]

theorem countLeaves_eq_length (node : LayoutNode R) : node.countLeaves = node.collectIds.length := by
  induction node with
  | leaf id => rfl
  | split direction ratio first second firstIH secondIH => simp [countLeaves, firstIH, secondIH]

theorem countLeaves_pos (node : LayoutNode R) : 0 < node.countLeaves := by
  rw [countLeaves_eq_length]
  exact List.length_pos_of_ne_nil node.collectIds_ne_nil

theorem contains_iff {target : Nat} {node : LayoutNode R} :
    node.contains target = true ↔ target ∈ node.collectIds := by
  induction node with
  | leaf id =>
      simp only [contains, beq_iff_eq, collectIds_leaf, List.mem_singleton]
      exact eq_comm
  | split direction ratio first second firstIH secondIH => simp [contains, firstIH, secondIH]

/-! ## Rewrites -/

theorem splitNode_collectIds [RatioOps R] {target newId : Nat} {dir : Direction} (node : LayoutNode R) :
    (node.splitNode target newId dir).collectIds =
      node.collectIds.flatMap fun id => if id = target then [id, newId] else [id] := by
  induction node with
  | leaf id =>
      by_cases selected : id = target <;> simp [splitNode, selected]
  | split direction ratio first second firstIH secondIH => simp [splitNode, firstIH, secondIH]

theorem mem_splitNode_collectIds [RatioOps R] {target newId id : Nat} {dir : Direction} {node : LayoutNode R} :
    id ∈ (node.splitNode target newId dir).collectIds ↔
      id ∈ node.collectIds ∨ (id = newId ∧ target ∈ node.collectIds) := by
  rw [splitNode_collectIds, List.mem_flatMap]
  constructor
  · rintro ⟨old, member, produced⟩
    by_cases selected : old = target
    · subst selected
      have cases : id = old ∨ id = newId := by simpa using produced
      rcases cases with rfl | rfl
      · exact .inl member
      · exact .inr ⟨rfl, member⟩
    · have same : id = old := by simpa [selected] using produced
      exact .inl (same ▸ member)
  · rintro (member | ⟨rfl, member⟩)
    · refine ⟨id, member, ?_⟩
      by_cases selected : id = target <;> simp [selected]
    · exact ⟨target, member, by simp⟩

theorem splitNode_nodup [RatioOps R] {target newId : Nat} {dir : Direction} {node : LayoutNode R}
    (distinct : node.collectIds.Nodup) (fresh : newId ∉ node.collectIds) :
    (node.splitNode target newId dir).collectIds.Nodup := by
  rw [splitNode_collectIds, List.nodup_flatMap]
  constructor
  · intro id member
    by_cases selected : id = target
    · have different : target ≠ newId := by
        rintro rfl
        exact fresh (selected ▸ member)
      simp [selected, different]
    · simp [selected]
  · refine (List.nodup_iff_pairwise_ne.mp distinct).imp_of_mem ?_
    intro a b memberA memberB different
    have differsA : a ≠ newId := fun same => fresh (same ▸ memberA)
    have differsB : b ≠ newId := fun same => fresh (same ▸ memberB)
    intro id inA inB
    by_cases selectedA : a = target <;> by_cases selectedB : b = target <;>
      simp [selectedA, selectedB] at inA inB <;> omega

theorem removeNode_eq_none_iff {target : Nat} {node : LayoutNode R} :
    node.removeNode target = none ↔ node = leaf target := by
  cases node with
  | leaf id => by_cases selected : id = target <;> simp [removeNode, selected]
  | split direction ratio first second =>
      simp only [removeNode]
      split
      · split <;> simp
      · split
        · split <;> simp
        · simp

theorem removeNode_collectIds {target : Nat} {node rest : LayoutNode R}
    (removed : node.removeNode target = some rest) :
    rest.collectIds = node.collectIds.erase target := by
  induction node generalizing rest with
  | leaf id =>
      by_cases selected : id = target
      · simp [removeNode, selected] at removed
      · simp [removeNode, selected] at removed
        subst rest
        simp [selected]
  | split direction ratio first second firstIH secondIH =>
      by_cases inFirst : first.contains target = true
      · have member : target ∈ first.collectIds := contains_iff.mp inFirst
        cases result : first.removeNode target with
        | none =>
            have only : first = leaf target := removeNode_eq_none_iff.mp result
            simp only [removeNode, inFirst, result, ↓reduceIte, Option.some.injEq] at removed
            subst rest only
            simp
        | some f =>
            simp only [removeNode, inFirst, result, ↓reduceIte, Option.some.injEq] at removed
            subst rest
            simp [List.erase_append_left _ member, firstIH result]
      · have absent : target ∉ first.collectIds := fun member => inFirst (contains_iff.mpr member)
        by_cases inSecond : second.contains target = true
        · cases result : second.removeNode target with
          | none =>
              have only : second = leaf target := removeNode_eq_none_iff.mp result
              simp only [removeNode, inFirst, inSecond, result, Bool.false_eq_true, ↓reduceIte,
                Option.some.injEq] at removed
              subst rest only
              simp [List.erase_append_right _ absent]
          | some s =>
              simp only [removeNode, inFirst, inSecond, result, Bool.false_eq_true, ↓reduceIte,
                Option.some.injEq] at removed
              subst rest
              simp [List.erase_append_right _ absent, secondIH result]
        · have absentBoth : target ∉ second.collectIds := fun member => inSecond (contains_iff.mpr member)
          simp only [removeNode, inFirst, inSecond, Bool.false_eq_true, ↓reduceIte,
            Option.some.injEq] at removed
          subst rest
          rw [collectIds_split, List.erase_of_not_mem (by simp [absent, absentBoth])]

theorem swapLeafIds_collectIds {a b : Nat} (node : LayoutNode R) :
    (node.swapLeafIds a b).collectIds = node.collectIds.map (Equiv.swap a b) := by
  induction node with
  | leaf id => simp [swapLeafIds, Equiv.swap_apply_def]
  | split direction ratio first second firstIH secondIH => simp [swapLeafIds, firstIH, secondIH]

theorem mem_swapLeafIds_collectIds {a b id : Nat} {node : LayoutNode R}
    (leafA : a ∈ node.collectIds) (leafB : b ∈ node.collectIds) :
    id ∈ (node.swapLeafIds a b).collectIds ↔ id ∈ node.collectIds := by
  rw [swapLeafIds_collectIds, List.mem_map]
  constructor
  · rintro ⟨old, member, rfl⟩
    rw [Equiv.swap_apply_def]
    split
    · exact leafB
    · split
      · exact leafA
      · exact member
  · intro member
    refine ⟨Equiv.swap a b id, ?_, Equiv.swap_apply_self a b id⟩
    rw [Equiv.swap_apply_def]
    split
    · exact leafB
    · split
      · exact leafA
      · exact member

theorem swapLeafIds_nodup {a b : Nat} {node : LayoutNode R} (distinct : node.collectIds.Nodup) :
    (node.swapLeafIds a b).collectIds.Nodup := by
  rw [swapLeafIds_collectIds]
  exact List.Nodup.map (Equiv.swap a b).injective distinct

@[simp] theorem equalizeNode_collectIds [RatioOps R] (node : LayoutNode R) :
    node.equalizeNode.collectIds = node.collectIds := by
  induction node with
  | leaf id => rfl
  | split direction ratio first second firstIH secondIH => simp [equalizeNode, firstIH, secondIH]

@[simp] theorem setRatioAt_collectIds [RatioOps R] (ratio : R) (path : List Bool) (node : LayoutNode R) :
    (node.setRatioAt ratio path).collectIds = node.collectIds := by
  induction node generalizing path with
  | leaf id => cases path <;> simp [setRatioAt]
  | split direction r first second firstIH secondIH =>
      rcases path with _ | ⟨step, path⟩
      · by_cases finite : RatioOps.isFinite ratio = true <;> simp [setRatioAt, finite]
      · by_cases finite : RatioOps.isFinite ratio = true <;> cases step <;>
          simp [setRatioAt, finite, firstIH, secondIH]

@[simp] theorem adjustRatioAt_collectIds [RatioOps R] (delta : R) (path : List Bool) (node : LayoutNode R) :
    (node.adjustRatioAt delta path).collectIds = node.collectIds := by
  induction node generalizing path with
  | leaf id => cases path <;> simp [adjustRatioAt]
  | split direction r first second firstIH secondIH =>
      rcases path with _ | ⟨step, path⟩
      · simp [adjustRatioAt]
      · cases step <;> simp [adjustRatioAt, firstIH, secondIH]

end LayoutNode

/-! ## Construction -/

section Construction
variable {R : Type}
open LayoutNode

/-- A tree built from id counter `next` holds exactly the ids handed out. -/
def BuiltFrom (next : Nat) (built : LayoutNode R × Nat) : Prop :=
  next < built.2 ∧ built.1.collectIds = List.range' next (built.2 - next)

theorem BuiltFrom.leaf (next : Nat) : BuiltFrom next ((.leaf next : LayoutNode R), next + 1) := by
  simp [BuiltFrom]

theorem BuiltFrom.split {next : Nat} {direction : Direction} {ratio : R} {first second : LayoutNode R × Nat}
    (left : BuiltFrom next first) (right : BuiltFrom first.2 second) :
    BuiltFrom next (.split direction ratio first.1 second.1, second.2) := by
  obtain ⟨leftGrows, leftIds⟩ := left
  obtain ⟨rightGrows, rightIds⟩ := right
  refine ⟨by simp only; omega, ?_⟩
  have joined : next + (first.2 - next) = first.2 := by omega
  have total : second.2 - next = (first.2 - next) + (second.2 - first.2) := by omega
  rw [collectIds_split, leftIds, rightIds, total, ← List.range'_append_1, joined]

variable [RatioOps R]

theorem buildRow_builtFrom (cols next : Nat) : BuiltFrom next (buildRow (R := R) cols next) := by
  fun_induction buildRow (R := R) cols next with
  | case1 next => exact .leaf next
  | case2 next => exact .leaf next
  | case3 cols next second after built ih =>
      rw [built] at ih
      exact (BuiltFrom.leaf next).split ih

theorem buildGrid_builtFrom (rows cols next : Nat) : BuiltFrom next (buildGrid (R := R) rows cols next) := by
  fun_induction buildGrid (R := R) rows cols next with
  | case1 next => exact buildRow_builtFrom _ _
  | case2 next => exact buildRow_builtFrom _ _
  | case3 rows cols next first middle row second after built ih =>
      have left := buildRow_builtFrom (R := R) cols next
      rw [row] at left
      rw [built] at ih
      exact left.split ih

theorem buildWeightedRow_builtFrom (weights : List Nat) (total next : Nat) :
    BuiltFrom next (buildWeightedRow (R := R) weights total next) := by
  fun_induction buildWeightedRow (R := R) weights total next with
  | case1 => exact .leaf _
  | case2 => exact .leaf _
  | case3 _ _ _ _ _ second after built ih =>
      rw [built] at ih
      exact (BuiltFrom.leaf _).split ih

theorem buildWeightedRow_countLeaves (weights : List Nat) (total next : Nat) :
    (buildWeightedRow (R := R) weights total next).1.countLeaves = max 1 weights.length := by
  fun_induction buildWeightedRow (R := R) weights total next with
  | case1 => rfl
  | case2 => rfl
  | case3 _ _ _ _ _ second after built ih =>
      rw [built] at ih
      simp only [countLeaves, List.length_cons] at ih ⊢
      omega

theorem buildWeightedColumn_collectIds {rows : List (LayoutNode R)} (count : Nat) (nonempty : rows ≠ []) :
    (buildWeightedColumn rows count).collectIds = rows.flatMap collectIds := by
  fun_induction buildWeightedColumn rows count with
  | case1 => contradiction
  | case2 => simp
  | case3 count row next rows ih => simp [ih]

end Construction

end Ezpn
