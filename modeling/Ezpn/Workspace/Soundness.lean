import Ezpn.Arrangement

/-!
# What an accepted snapshot guarantees

The validator's loop over a layout runs on an explicit stack. It ends on every tree
and finds what the walk finds, and a snapshot that passes describes tabs that
satisfy the invariant of live ones.
-/

set_option autoImplicit false

namespace Ezpn

namespace LayoutNode
variable {R : Type} [RatioOps R]

omit [RatioOps R] in
/-- Nodes of a tree, leaves and splits. -/
def countNodes : LayoutNode R → Nat
  | leaf _ => 1
  | split _ _ first second => 1 + first.countNodes + second.countNodes

/-- One iteration of the validator's loop, for the node popped from the stack. -/
def visit (index nextId : Nat) (node : LayoutNode R) (depth : Nat) (pending : List (LayoutNode R × Nat))
    (ids : List Nat) : Except String (List (LayoutNode R × Nat) × List Nat) :=
  if depth > 100 then .error s!"snapshot layout too deep in tab {index}"
  else match node with
    | leaf id =>
        let ids := ids ++ [id]
        if ids.length > 100 then .error s!"too many panes in snapshot tab {index}"
        else if !(id < nextId && nextId < usizeMax) then .error s!"invalid next pane ID in snapshot tab {index}"
        else .ok (pending, ids)
    | split _ ratio first second =>
        if !RatioOps.isProper ratio then .error s!"invalid layout ratio in snapshot tab {index}"
        else .ok ((first, depth + 1) :: (second, depth + 1) :: pending, ids)

/-- The loop, for at most that many iterations; `none` when it has not ended by then. -/
def visitPending (index nextId : Nat) :
    (iterations : Nat) → List (LayoutNode R × Nat) → List Nat → Option (Except String (List Nat))
  | _, [], ids => some (.ok ids)
  | 0, _ :: _, _ => none
  | iterations + 1, (node, depth) :: pending, ids =>
      match node.visit index nextId depth pending ids with
      | .error message => some (.error message)
      | .ok (pending, ids) => visitPending index nextId iterations pending ids

/-- Visiting a tree on top of the stack takes one iteration a node, or ends with the walk's error. -/
theorem visitPending_walk (index nextId : Nat) (node : LayoutNode R) (depth : Nat)
    (pending : List (LayoutNode R × Nat)) (ids : List Nat) (iterations : Nat) :
    visitPending index nextId (node.countNodes + iterations) ((node, depth) :: pending) ids =
      match node.walk index nextId depth ids with
      | .error message => some (.error message)
      | .ok ids => visitPending index nextId iterations pending ids := by
  induction node generalizing depth pending ids iterations with
  | leaf id =>
      rw [countNodes, Nat.add_comm]
      simp only [visitPending, visit, walk, List.length_append, List.length_singleton]
      by_cases deep : depth > 100
      · simp only [deep, if_true]
      by_cases many : ids.length + 1 > 100
      · simp only [deep, many, if_true, if_false]
      by_cases unbounded : (!(decide (id < nextId) && decide (nextId < usizeMax))) = true
      · simp only [deep, many, unbounded, if_true, if_false]
      · simp only [deep, many, unbounded, Bool.false_eq_true, if_false]
  | split direction ratio first second ihFirst ihSecond =>
      have visits : (split direction ratio first second).countNodes + iterations =
          (first.countNodes + (second.countNodes + iterations)) + 1 := by
        simp only [countNodes]
        omega
      rw [visits]
      simp only [visitPending, visit, walk]
      by_cases deep : depth > 100
      · simp only [deep, if_true]
      by_cases improper : (!RatioOps.isProper ratio) = true
      · simp only [deep, improper, if_true, if_false]
      simp only [deep, improper, Bool.false_eq_true, if_false, ihFirst]
      cases walked : first.walk index nextId (depth + 1) ids with
      | error message => rfl
      | ok middle => simp only [ihSecond]

/-- The loop ends on every tree. -/
theorem visitPending_ends (index nextId : Nat) (root : LayoutNode R) :
    visitPending index nextId root.countNodes [(root, 0)] [] = some (root.walk index nextId 0 []) := by
  have visited := visitPending_walk index nextId root 0 [] [] 0
  rw [Nat.add_zero] at visited
  rw [visited]
  cases root.walk index nextId 0 [] <;> simp [visitPending]

end LayoutNode

section Sound
variable {R G : Type} [RatioOps R] [Vt100 G]

omit [Vt100 G] in
theorem TabSnapshot.Valid.panes_iff {tab : TabSnapshot R} (valid : tab.Valid) (id : Nat) :
    id ∈ tab.layout.paneIds ↔ id ∈ tab.panes.map (·.id) := valid.leaves.mem_iff.symm

/-- A snapshot that passes has tabs, panes, ratios and history within the limits, each
tab as it is spawned is coherent, and the loop over each layout has ended. -/
theorem WorkspaceSnapshot.validate_sound {snapshot : WorkspaceSnapshot R} (accepted : snapshot.validate = .ok ()) :
    (1 ≤ snapshot.tabs.length ∧ snapshot.tabs.length ≤ 100 ∧ snapshot.activeTab < snapshot.tabs.length) ∧
      (∀ tab ∈ snapshot.tabs,
        tab.layout.paneIds.Nodup ∧ (∀ id, id ∈ tab.layout.paneIds ↔ id ∈ tab.panes.map (·.id)) ∧
        (tab.panes.map (·.id)).Nodup ∧ (∀ id ∈ tab.layout.paneIds, id < tab.layout.nextId) ∧
        tab.layout.nextId < usizeMax ∧ tab.activePane ∈ tab.layout.paneIds ∧
        (∀ id, tab.zoomedPane = some id → id ∈ tab.layout.paneIds) ∧ tab.layout.root.Proper ∧
        tab.layout.paneCount ≤ 100 ∧ tab.layout.root.depth ≤ 100) ∧
      (∀ tab ∈ snapshot.tabs, ∀ (format : SnapshotFormat R) (world : World) (spawns after : Nat) (shell : String)
        (tw th : Nat) (settings : Settings) (scrollback : Nat) (panes : PaneMap G),
        spawnSnapshotPanes format world spawns tab.layout tab shell tw th settings scrollback = (.ok panes, after) →
        Arrangement.Coherent { layout := tab.layout, panes, active := tab.activePane }) ∧
      snapshot.totalDecoded ≤ 128 * 1024 * 1024 ∧
      ∀ (index nextId : Nat) (root : LayoutNode R),
        LayoutNode.visitPending index nextId root.countNodes [(root, 0)] [] = some (root.walk index nextId 0 []) := by
  have valid := validate_ok_iff.mp accepted
  have tabs := List.length_pos_of_ne_nil valid.nonempty
  refine ⟨⟨tabs, valid.fewTabs, valid.active⟩, fun tab member => ?_, fun tab member format => ?_, valid.decoded,
    LayoutNode.visitPending_ends⟩
  · have good := valid.tabs tab member
    exact ⟨good.wellFormed.distinct, good.panes_iff, good.distinct, good.bounded, good.room, good.active, good.zoomed,
      good.proper, good.few, good.shallow⟩
  · intro world spawns after shell tw th settings scrollback panes spawned
    exact (Arrangement.Initial.snapshot accepted member spawned).coherent

/-- Two shells side by side, the second one zoomed. -/
def zoomedPair : WorkspaceSnapshot ℚ :=
  let pane (id : Nat) : PaneSnapshot :=
    { id, launch := .shell, name := none, cwd := none, env := ∅, restart := .never, shell := none, scrollback := none
      cursorPos := none }
  { version := 3
    shell := "/bin/sh"
    borderStyle := .rounded
    showStatusBar := true
    showTabBar := true
    scrollback := 10000
    activeTab := 0
    tabs :=
      [{ name := "1", layout := .fromGrid 1 2, activePane := 1, zoomedPane := some 1, broadcast := false
         panes := [pane 1, pane 0] }] }

theorem zoomedPair_valid : zoomedPair.validate = .ok () := by
  have tabs (tab : TabSnapshot ℚ) (member : tab ∈ zoomedPair.tabs) : tab.Valid := by
    obtain rfl := List.mem_singleton.mp member
    refine ⟨by decide, by decide, by decide, by decide, by decide, by decide, ?_, by decide, by decide, ?_⟩
    · exact ⟨by decide +kernel, trivial, trivial⟩
    · intro pane member blob saved
      rcases List.mem_pair.mp member with rfl | rfl
      · cases saved
      · cases saved
  exact WorkspaceSnapshot.validate_ok_iff.mpr
    ⟨by decide, by decide, by decide, by decide, by decide, by decide, tabs, by decide⟩

theorem zoomedPair_sound : zoomedPair.validate = .ok () ∧ zoomedPair.activeTab < zoomedPair.tabs.length :=
  ⟨zoomedPair_valid, (WorkspaceSnapshot.validate_sound (G := RawDisplay) zoomedPair_valid).1.2.2⟩

end Sound

end Ezpn
