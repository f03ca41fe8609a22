import Ezpn.Layout.Spec
import Ezpn.Layout.TreeProperties
import Mathlib.Data.List.GetD

/-!
# Well-formed layouts

Leaf ids are pairwise distinct and below the id counter. Every constructor
establishes this and every layout operation preserves it.
-/

set_option autoImplicit false

namespace Ezpn

namespace Layout
variable {R : Type}

structure WellFormed (layout : Layout R) : Prop where
  distinct : layout.paneIds.Nodup
  bounded : ∀ id ∈ layout.paneIds, id < layout.nextId

theorem WellFormed.fresh {layout : Layout R} (formed : layout.WellFormed) :
    layout.nextId ∉ layout.paneIds :=
  fun member => Nat.lt_irrefl _ (formed.bounded _ member)

theorem WellFormed.of_same_ids {layout other : Layout R} (formed : layout.WellFormed)
    (sameIds : other.paneIds = layout.paneIds) (sameNext : other.nextId = layout.nextId) : other.WellFormed :=
  ⟨sameIds ▸ formed.distinct, fun id member => sameNext ▸ formed.bounded id (sameIds ▸ member)⟩

theorem WellFormed.of_builtFrom {built : LayoutNode R × Nat} (valid : BuiltFrom 0 built) :
    WellFormed { root := built.1, nextId := built.2 } := by
  obtain ⟨_, ids⟩ := valid
  constructor
  · simp only [paneIds, ids]
    exact List.nodup_range'
  · intro id member
    simp only [paneIds, ids, List.mem_range'_1] at member
    simpa using member.2

theorem paneCount_eq_length (layout : Layout R) : layout.paneCount = layout.paneIds.length :=
  layout.root.countLeaves_eq_length

theorem paneIds_ne_nil (layout : Layout R) : layout.paneIds ≠ [] := layout.root.collectIds_ne_nil

/-- The first leaf, the fallback focus after a close. -/
theorem head_mem_paneIds (layout : Layout R) : layout.paneIds.head?.getD 0 ∈ layout.paneIds := by
  cases ids : layout.paneIds with
  | nil => exact absurd ids layout.paneIds_ne_nil
  | cons id rest => simp

/-! ## Operations -/

section Operations
variable [RatioOps R]

@[simp] theorem equalize_paneIds (layout : Layout R) : layout.equalize.paneIds = layout.paneIds := by
  simp [equalize, paneIds]

@[simp] theorem equalize_nextId (layout : Layout R) : layout.equalize.nextId = layout.nextId := rfl

theorem equalize_wellFormed {layout : Layout R} (formed : layout.WellFormed) : layout.equalize.WellFormed :=
  formed.of_same_ids layout.equalize_paneIds rfl

@[simp] theorem setRatioAtPath_paneIds (layout : Layout R) (path : List Bool) (ratio : R) :
    (layout.setRatioAtPath path ratio).paneIds = layout.paneIds := by
  simp [setRatioAtPath, paneIds]

@[simp] theorem setRatioAtPath_nextId (layout : Layout R) (path : List Bool) (ratio : R) :
    (layout.setRatioAtPath path ratio).nextId = layout.nextId := rfl

theorem setRatioAtPath_wellFormed {layout : Layout R} {path : List Bool} {ratio : R}
    (formed : layout.WellFormed) : (layout.setRatioAtPath path ratio).WellFormed :=
  formed.of_same_ids (layout.setRatioAtPath_paneIds path ratio) rfl

theorem resizePane_cases (layout : Layout R) (paneId : Nat) (dir : NavDir) (delta : R) :
    layout.resizePane paneId dir delta = (layout, false) ∨
      ∃ path signed, layout.resizePane paneId dir delta =
        ({ layout with root := layout.root.adjustRatioAt signed path }, true) := by
  simp only [resizePane]
  split
  · exact .inl rfl
  · split
    · exact .inr ⟨_, _, rfl⟩
    · exact .inl rfl

@[simp] theorem resizePane_paneIds (layout : Layout R) (paneId : Nat) (dir : NavDir) (delta : R) :
    (layout.resizePane paneId dir delta).1.paneIds = layout.paneIds := by
  rcases layout.resizePane_cases paneId dir delta with same | ⟨path, signed, adjusted⟩
  · rw [same]
  · rw [adjusted]
    simp [paneIds]

@[simp] theorem resizePane_nextId (layout : Layout R) (paneId : Nat) (dir : NavDir) (delta : R) :
    (layout.resizePane paneId dir delta).1.nextId = layout.nextId := by
  rcases layout.resizePane_cases paneId dir delta with same | ⟨path, signed, adjusted⟩
  · rw [same]
  · rw [adjusted]

theorem resizePane_failed {layout : Layout R} {paneId : Nat} {dir : NavDir} {delta : R}
    (failed : (layout.resizePane paneId dir delta).2 = false) :
    (layout.resizePane paneId dir delta).1 = layout := by
  rcases layout.resizePane_cases paneId dir delta with same | ⟨path, signed, adjusted⟩
  · rw [same]
  · rw [adjusted] at failed
    cases failed

theorem resizePane_wellFormed {layout : Layout R} {paneId : Nat} {dir : NavDir} {delta : R}
    (formed : layout.WellFormed) : (layout.resizePane paneId dir delta).1.WellFormed :=
  formed.of_same_ids (layout.resizePane_paneIds paneId dir delta) (layout.resizePane_nextId paneId dir delta)

@[simp] theorem split_newId (layout : Layout R) (target : Nat) (dir : Direction) :
    (layout.split target dir).2 = layout.nextId := rfl

@[simp] theorem split_nextId (layout : Layout R) (target : Nat) (dir : Direction) :
    (layout.split target dir).1.nextId = layout.nextId + 1 := rfl

theorem mem_split_paneIds {layout : Layout R} {target id : Nat} {dir : Direction} :
    id ∈ (layout.split target dir).1.paneIds ↔
      id ∈ layout.paneIds ∨ (id = layout.nextId ∧ target ∈ layout.paneIds) := by
  simp only [split, equalize_paneIds]
  exact LayoutNode.mem_splitNode_collectIds

theorem split_wellFormed {layout : Layout R} {target : Nat} {dir : Direction}
    (formed : layout.WellFormed) : (layout.split target dir).1.WellFormed := by
  constructor
  · simp only [split, equalize_paneIds]
    exact LayoutNode.splitNode_nodup formed.distinct formed.fresh
  · intro id member
    rw [split_nextId]
    rcases mem_split_paneIds.mp member with old | ⟨rfl, _⟩
    · exact Nat.lt_succ_of_lt (formed.bounded id old)
    · exact Nat.lt_succ_self _

omit [RatioOps R] in
/-- `remove` either refuses and keeps the tree, or erases exactly the target. -/
theorem remove_cases (layout : Layout R) (target : Nat) :
    (layout.remove target = (layout, false) ∧ (layout.paneCount ≤ 1 ∨ target ∉ layout.paneIds)) ∨
      ∃ root, layout.remove target = ({ layout with root }, true) ∧ 1 < layout.paneCount ∧
        target ∈ layout.paneIds ∧ root.collectIds = layout.paneIds.erase target := by
  by_cases refused : (layout.paneCount ≤ 1 || !layout.root.contains target) = true
  · refine .inl ⟨by simp [remove, refused], ?_⟩
    simp only [Bool.or_eq_true, decide_eq_true_eq, Bool.not_eq_true'] at refused
    rcases refused with single | absent
    · exact .inl single
    · right
      intro member
      rw [LayoutNode.contains_iff.mpr member] at absent
      cases absent
  · have accepted : 1 < layout.paneCount ∧ layout.root.contains target = true := by
      simpa [Nat.not_le] using refused
    obtain ⟨several, present⟩ := accepted
    cases result : layout.root.removeNode target with
    | none =>
        have only := LayoutNode.removeNode_eq_none_iff.mp result
        rw [paneCount, only] at several
        simp [LayoutNode.countLeaves] at several
    | some root =>
        refine .inr ⟨root, ?_, several, LayoutNode.contains_iff.mp present, LayoutNode.removeNode_collectIds result⟩
        simp [remove, refused, result]

omit [RatioOps R] in
theorem remove_wellFormed {layout : Layout R} {target : Nat} (formed : layout.WellFormed) :
    (layout.remove target).1.WellFormed := by
  rcases layout.remove_cases target with ⟨same, _⟩ | ⟨root, removed, _, _, ids⟩
  · rw [same]
    exact formed
  · rw [removed]
    constructor
    · simp only [paneIds, ids]
      exact formed.distinct.erase target
    · intro id member
      simp only [paneIds, ids] at member
      exact formed.bounded id (List.mem_of_mem_erase member)

omit [RatioOps R] in
@[simp] theorem remove_nextId (layout : Layout R) (target : Nat) :
    (layout.remove target).1.nextId = layout.nextId := by
  rcases layout.remove_cases target with ⟨same, _⟩ | ⟨root, removed, _⟩
  · rw [same]
  · rw [removed]

omit [RatioOps R] in
theorem mem_swapPanes_paneIds {layout : Layout R} {a b id : Nat}
    (leafA : a ∈ layout.paneIds) (leafB : b ∈ layout.paneIds) :
    id ∈ (layout.swapPanes a b).paneIds ↔ id ∈ layout.paneIds :=
  LayoutNode.mem_swapLeafIds_collectIds leafA leafB

omit [RatioOps R] in
theorem swapPanes_wellFormed {layout : Layout R} {a b : Nat} (formed : layout.WellFormed)
    (leafA : a ∈ layout.paneIds) (leafB : b ∈ layout.paneIds) : (layout.swapPanes a b).WellFormed :=
  ⟨LayoutNode.swapLeafIds_nodup formed.distinct,
    fun id member => formed.bounded id ((mem_swapPanes_paneIds leafA leafB).mp member)⟩

omit [RatioOps R] in
theorem nextPane_mem (layout : Layout R) (current : Nat) : layout.nextPane current ∈ layout.paneIds := by
  have nonempty := List.length_pos_of_ne_nil layout.paneIds_ne_nil
  have inRange := Nat.mod_lt (((layout.paneIds.findIdx? (· == current)).getD 0) + 1) nonempty
  simp only [nextPane, List.isEmpty_iff, layout.paneIds_ne_nil, ↓reduceIte,
    List.getD_eq_getElem _ _ inRange]
  exact List.getElem_mem _

omit [RatioOps R] in
theorem prevPane_mem (layout : Layout R) (current : Nat) : layout.prevPane current ∈ layout.paneIds := by
  have nonempty := List.length_pos_of_ne_nil layout.paneIds_ne_nil
  have position : (layout.paneIds.findIdx? (· == current)).getD 0 < layout.paneIds.length := by
    cases found : layout.paneIds.findIdx? (· == current) with
    | none => simpa using nonempty
    | some index =>
        obtain ⟨inRange, _⟩ := List.findIdx?_eq_some_iff_getElem.mp found
        simpa using inRange
  simp only [prevPane, List.isEmpty_iff, layout.paneIds_ne_nil, ↓reduceIte]
  split
  · rw [List.getD_eq_getElem _ _ (by omega)]
    exact List.getElem_mem _
  · rw [List.getD_eq_getElem _ _ (by omega)]
    exact List.getElem_mem _

/-! ## Construction -/

theorem fromGrid_wellFormed (rows cols : Nat) : (fromGrid rows cols : Layout R).WellFormed :=
  WellFormed.of_builtFrom (buildGrid_builtFrom _ _ _)

omit [RatioOps R] in
theorem singleton_wellFormed (paneId nextIdHint : Nat) :
    (singleton paneId nextIdHint : Layout R).WellFormed := by
  constructor
  · simp [singleton, paneIds]
  · intro id member
    simp only [singleton, paneIds, LayoutNode.collectIds_leaf, List.mem_singleton] at member ⊢
    omega

/-- What one accepted row contributes. -/
theorem parseRows_cons {row : List Char} {rest : List (List Char)} {next final : Nat}
    {nodes : List (LayoutNode R × Nat)} (parsed : parseRows (row :: rest) next = .ok (nodes, final)) :
    ∃ w ws tail, parseWeights (row.splitOn ':') = .ok (w :: ws) ∧
      parseRows rest (buildWeightedRow (R := R) (w :: ws) (w :: ws).sum next).2 = .ok (tail, final) ∧
      nodes = ((buildWeightedRow (w :: ws) (w :: ws).sum next).1, ws.length + 1) :: tail := by
  simp only [parseRows] at parsed
  cases weights : parseWeights (row.splitOn ':') with
  | error message => simp only [weights] at parsed; cases parsed
  | ok cols =>
      cases cols with
      | nil => simp only [weights] at parsed; cases parsed
      | cons w ws =>
          simp only [weights] at parsed
          split at parsed
          · cases parsed
          · cases tail : parseRows (R := R) rest (buildWeightedRow (R := R) (w :: ws) (w :: ws).sum next).2 with
            | error message => simp only [tail] at parsed; cases parsed
            | ok result =>
                simp only [tail] at parsed
                cases parsed
                exact ⟨w, ws, result.1, rfl, tail, rfl⟩

theorem parseRows_ids {rows : List (List Char)} {next final : Nat} {nodes : List (LayoutNode R × Nat)}
    (parsed : parseRows rows next = .ok (nodes, final)) :
    next + rows.length ≤ final ∧
      (nodes.map (·.1)).flatMap LayoutNode.collectIds = List.range' next (final - next) := by
  induction rows generalizing next final nodes with
  | nil =>
      simp only [parseRows] at parsed
      cases parsed
      simp
  | cons row rest ih =>
      obtain ⟨w, ws, tail, _, parsedRest, rfl⟩ := parseRows_cons parsed
      obtain ⟨restGrows, restIds⟩ := ih parsedRest
      obtain ⟨rowGrows, rowIds⟩ := buildWeightedRow_builtFrom (R := R) (w :: ws) (w :: ws).sum next
      refine ⟨by simp only [List.length_cons]; omega, ?_⟩
      simp only [List.map_cons, List.flatMap_cons, restIds, rowIds]
      have joined : next + ((buildWeightedRow (R := R) (w :: ws) (w :: ws).sum next).2 - next) =
          (buildWeightedRow (R := R) (w :: ws) (w :: ws).sum next).2 := by omega
      conv => lhs; rhs; rw [← joined]
      rw [List.range'_append_1]
      congr 1
      omega

theorem parseRows_counts {rows : List (List Char)} {next final : Nat} {nodes : List (LayoutNode R × Nat)}
    (parsed : parseRows rows next = .ok (nodes, final)) :
    nodes.length = rows.length ∧ final = next + (nodes.map (·.2)).sum := by
  induction rows generalizing next final nodes with
  | nil =>
      simp only [parseRows] at parsed
      cases parsed
      simp
  | cons row rest ih =>
      obtain ⟨w, ws, tail, _, parsedRest, rfl⟩ := parseRows_cons parsed
      obtain ⟨lengths, total⟩ := ih parsedRest
      obtain ⟨rowGrows, rowIds⟩ := buildWeightedRow_builtFrom (R := R) (w :: ws) (w :: ws).sum next
      have width := buildWeightedRow_countLeaves (R := R) (w :: ws) (w :: ws).sum next
      rw [LayoutNode.countLeaves_eq_length, rowIds, List.length_range', List.length_cons] at width
      refine ⟨by simp [lengths], ?_⟩
      simp only [List.map_cons, List.sum_cons]
      omega

/-- An accepted spec numbers its leaves `0, 1, ..` and has at most 100 of them. -/
theorem fromSpec_cases {spec : List Char} {layout : Layout R} (accepted : fromSpec spec = .ok layout) :
    layout.nextId ≤ 100 ∧ layout.paneIds = List.range' 0 layout.nextId ∧ 0 < layout.nextId := by
  simp only [fromSpec] at accepted
  split at accepted
  · cases accepted
    have four : (fromGrid 2 2 : Layout R).nextId = 4 := rfl
    exact ⟨by omega, (buildGrid_builtFrom (R := R) 2 2 0).2, by omega⟩
  · split at accepted
    · cases accepted
    · rename_i resolved _ _
      cases rows : parseRows (R := R) (resolved.splitOn '/') 0 with
      | error message => simp only [rows] at accepted; cases accepted
      | ok result =>
          obtain ⟨nodes, final⟩ := result
          simp only [rows] at accepted
          split at accepted
          · cases accepted
          · rename_i small
            cases accepted
            obtain ⟨_, ids⟩ := parseRows_ids rows
            obtain ⟨lengths, total⟩ := parseRows_counts rows
            have nonempty : nodes.map (·.1) ≠ [] := by
              intro empty
              have none := congrArg List.length empty
              rw [List.length_map, lengths] at none
              exact List.splitOn_ne_nil _ _ (List.length_eq_zero_iff.mp none)
            have leaves := buildWeightedColumn_collectIds nodes.length nonempty
            rw [ids, Nat.sub_zero] at leaves
            refine ⟨by simp only; omega, leaves, ?_⟩
            have some := List.length_pos_of_ne_nil (LayoutNode.collectIds_ne_nil (buildWeightedColumn (nodes.map (·.1)) nodes.length))
            simpa [leaves] using some

theorem fromSpec_wellFormed {spec : List Char} {layout : Layout R} (accepted : fromSpec spec = .ok layout) :
    layout.WellFormed := by
  obtain ⟨_, ids, _⟩ := fromSpec_cases accepted
  constructor
  · rw [ids]
    exact List.nodup_range'
  · intro id member
    rw [ids, List.mem_range'_1] at member
    omega

/-- Layouts that the program builds itself. -/
def Built (layout : Layout R) : Prop :=
  (∃ rows cols, layout = fromGrid rows cols) ∨ ∃ spec, fromSpec spec = .ok layout

theorem Built.wellFormed {layout : Layout R} (built : layout.Built) : layout.WellFormed := by
  rcases built with ⟨rows, cols, rfl⟩ | ⟨spec, accepted⟩
  · exact fromGrid_wellFormed rows cols
  · exact fromSpec_wellFormed accepted

end Operations

end Layout

end Ezpn
