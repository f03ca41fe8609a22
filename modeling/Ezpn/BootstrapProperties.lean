import Ezpn.Bootstrap
import Ezpn.Layout.Partition
import Ezpn.Workspace.Validation

/-!
# What the pane and layout operations do

One statement for each operation of `Bootstrap`: which panes and leaves it leaves
behind, and what holds where it fails. Later modules reason from these.
-/

set_option autoImplicit false

namespace Ezpn

section Operations
variable {R G : Type} [RatioOps R] [Vt100 G]

@[simp] theorem mem_resizeAll {world : World} {panes : PaneMap G} {layout : Layout R} {tw th id : Nat}
    {settings : Settings} : id ∈ resizeAll world panes layout tw th settings ↔ id ∈ panes := by
  simp [resizeAll]

@[simp] theorem mem_resizeZoomedPane {world : World} {panes : PaneMap G} {paneId tw th id : Nat}
    {settings : Settings} : id ∈ resizeZoomedPane world panes paneId tw th settings ↔ id ∈ panes := by
  simp only [resizeZoomedPane]
  split
  · rename_i found
    have present : paneId ∈ panes := Std.ExtTreeMap.mem_iff_isSome_getElem?.mpr (by simp [found])
    simp only [IdMap.mem_insert_iff]
    constructor
    · rintro (rfl | member)
      · exact present
      · exact member
    · exact .inr
  · rfl

/-! ## Fitting -/

omit [RatioOps R] in
/-- The pane has exactly the grid of its rectangle. -/
def Pane.FitsRect (pane : Pane G) (rect : Rect) : Prop := Vt100.size pane.parser = (max rect.h 1, max rect.w 1)

theorem getElem?_resizeAll {world : World} {panes : PaneMap G} {layout : Layout R} {tw th id : Nat}
    {settings : Settings} :
    (resizeAll world panes layout tw th settings)[id]? = panes[id]?.map fun pane =>
      match (layout.paneRects (terminalContentArea tw th settings))[id]? with
      | some rect => pane.resize world (max rect.w 1) (max rect.h 1)
      | none => pane :=
  Std.ExtTreeMap.getElem?_map

/-- Every pane with a rectangle fits it. -/
def Fitted (panes : PaneMap G) (layout : Layout R) (area : Rect) : Prop :=
  ∀ (id : Nat) (pane : Pane G) (rect : Rect),
    panes[id]? = some pane → (layout.paneRects area)[id]? = some rect → pane.FitsRect rect

omit [RatioOps R] in
theorem Pane.spawnInner_ok {world : World} {attempt : Nat} {shell : String} {launch : PaneLaunch}
    {cols rows scrollback : Nat} {cwd : Option String} {env : EnvMap} {pane : Pane G}
    (started : Pane.spawnInner world attempt shell launch cols rows scrollback cwd env = .ok pane) :
    pane =
      { process := attempt
        parser := Vt100.new rows cols (budgetedScrollbackLines scrollback cols defaultScrollbackBytes)
        launch
        scrollbackLines := scrollback
        initialCwd := cwd
        initialEnv := env
        scrollbackByteBudget := defaultScrollbackBytes } := by
  unfold Pane.spawnInner at started
  split at started
  · cases started
  split at started
  · cases started
  · cases started
    rfl

omit [Vt100 G] in
theorem spawnEach_ok {entries : List (Nat × (Nat → Except String (Pane G)))} {spawns after : Nat}
    {panes out : PaneMap G} (accepted : spawnEach entries spawns panes = (.ok out, after)) {id : Nat} :
    id ∈ out ↔ id ∈ entries.map (·.1) ∨ id ∈ panes := by
  induction entries generalizing spawns panes with
  | nil =>
      simp only [spawnEach, Prod.mk.injEq, Except.ok.injEq] at accepted
      simp [accepted.1]
  | cons entry entries ih =>
      obtain ⟨pid, spawn⟩ := entry
      simp only [spawnEach] at accepted
      cases result : spawn spawns with
      | error message => simp [result] at accepted
      | ok pane =>
          simp only [result] at accepted
          simp only [ih accepted, IdMap.mem_insert_iff, List.map_cons, List.mem_cons]
          tauto

omit [Vt100 G] in
/-- Later entries leave the panes of other ids alone. -/
theorem spawnEach_getElem_of_notMem {entries : List (Nat × (Nat → Except String (Pane G)))} {spawns after : Nat}
    {panes out : PaneMap G} (accepted : spawnEach entries spawns panes = (.ok out, after)) {id : Nat}
    (absent : id ∉ entries.map (·.1)) : out[id]? = panes[id]? := by
  induction entries generalizing spawns panes with
  | nil =>
      simp only [spawnEach, Prod.mk.injEq, Except.ok.injEq] at accepted
      rw [accepted.1]
  | cons entry entries ih =>
      obtain ⟨pid, spawn⟩ := entry
      simp only [List.map_cons, List.mem_cons, not_or] at absent
      simp only [spawnEach] at accepted
      cases result : spawn spawns with
      | error message => simp [result] at accepted
      | ok pane =>
          simp only [result] at accepted
          rw [ih accepted absent.2, IdMap.getElem?_insert, if_neg absent.1]

omit [Vt100 G] in
/-- With distinct ids, each id holds the pane of its own spawn. -/
theorem spawnEach_getElem {entries : List (Nat × (Nat → Except String (Pane G)))} {spawns after : Nat}
    {panes out : PaneMap G} (accepted : spawnEach entries spawns panes = (.ok out, after))
    (distinct : (entries.map (·.1)).Nodup) {id : Nat} {spawn : Nat → Except String (Pane G)}
    (member : (id, spawn) ∈ entries) : ∃ attempt pane, spawn attempt = .ok pane ∧ out[id]? = some pane := by
  induction entries generalizing spawns panes with
  | nil => cases member
  | cons entry entries ih =>
      obtain ⟨pid, first⟩ := entry
      have unique := List.nodup_cons.mp distinct
      simp only [spawnEach] at accepted
      cases result : first spawns with
      | error message => simp [result] at accepted
      | ok pane =>
          simp only [result] at accepted
          rcases List.mem_cons.mp member with here | later
          · cases here
            refine ⟨spawns, pane, result, ?_⟩
            rw [spawnEach_getElem_of_notMem accepted unique.1, IdMap.getElem?_insert, if_pos rfl]
          · exact ih accepted unique.2 later

theorem spawnLayoutPanes_ok {world : World} {spawns after : Nat} {layout : Layout R}
    {launches : IdMap PaneLaunch} {shell : String} {tw th : Nat} {settings : Settings} {scrollback : Nat}
    {panes : PaneMap G}
    (spawned : spawnLayoutPanes world spawns layout launches shell tw th settings scrollback = (.ok panes, after))
    {id : Nat} : id ∈ panes ↔ id ∈ layout.paneIds := by
  simp only [spawnLayoutPanes, Prod.mk.injEq] at spawned
  rw [spawnEach_ok (Prod.ext spawned.1 rfl)]
  simp only [List.map_map, Std.ExtTreeMap.not_mem_empty, or_false]
  exact Layout.paneRects_keys

theorem spawnSnapshotPanes_ok {format : SnapshotFormat R} {world : World} {spawns after : Nat}
    {layout : Layout R} {tab : TabSnapshot R} {shell : String} {tw th : Nat} {settings : Settings}
    {scrollback : Nat} {panes : PaneMap G}
    (spawned : spawnSnapshotPanes format world spawns layout tab shell tw th settings scrollback =
      (.ok panes, after)) {id : Nat} : id ∈ panes ↔ id ∈ tab.paneIds := by
  rw [spawnEach_ok spawned]
  simp [TabSnapshot.paneIds]

theorem spawnProjectPanes_ok {world : World} {spawns after : Nat} {proj : ResolvedProject R}
    {shell : String} {tw th : Nat} {settings : Settings} {scrollback : Nat} {panes : PaneMap G}
    (spawned : spawnProjectPanes world spawns proj shell tw th settings scrollback = (.ok panes, after))
    {id : Nat} : id ∈ panes ↔ id ∈ proj.layout.paneIds := by
  rw [spawnEach_ok spawned]
  simp only [List.map_map, Std.ExtTreeMap.not_mem_empty, or_false]
  exact Layout.paneRects_keys

/-! ## Splitting, closing, replacing -/

/-- A split fails and changes nothing, or a fresh leaf gets a fresh process. -/
theorem doSplit_cases (world : World) (spawns : Nat) (layout : Layout R) (panes : PaneMap G) (active : Nat)
    (dir : Direction) (shell : String) (tw th : Nat) (settings : Settings) (scrollback : Nat) :
    let outcome := doSplit world spawns layout panes active dir shell tw th settings scrollback
    (∃ message, outcome.result = .error message ∧ outcome.state = (layout, panes)) ∨
      ∃ rect cwd pane, outcome.result = .ok () ∧ active ∈ panes ∧ active ∈ layout.paneIds ∧
        panes.size < 100 ∧ layout.nextId < usizeMax ∧
        ((layout.split active dir).1.paneRects (terminalContentArea tw th settings))[layout.nextId]? = some rect ∧
        spawnPaneIn world spawns shell .shell (max rect.w 1) (max rect.h 1) scrollback cwd = .ok pane ∧
        outcome.spawns = spawns + 1 ∧
        outcome.state = ((layout.split active dir).1,
          resizeAll world (panes.insert layout.nextId pane) (layout.split active dir).1 tw th settings) := by
  simp only [doSplit]
  split
  · exact .inl ⟨_, rfl, rfl⟩
  rename_i known
  split
  · exact .inl ⟨_, rfl, rfl⟩
  rename_i few
  split
  · exact .inl ⟨_, rfl, rfl⟩
  rename_i room
  split
  · exact .inl ⟨_, rfl, rfl⟩
  split
  · exact .inl ⟨_, rfl, rfl⟩
  split
  · exact .inl ⟨_, rfl, rfl⟩
  rename_i rect placed
  split
  · exact .inl ⟨_, rfl, rfl⟩
  rename_i pane started
  simp only [Bool.not_eq_true, Bool.not_eq_false', Bool.and_eq_true, decide_eq_true_eq,
    Std.ExtTreeMap.contains_iff_mem, List.contains_iff_mem] at known few room
  exact .inr ⟨rect, _, pane, rfl, known.1, known.2, few, room, placed, started, rfl, rfl⟩

omit [RatioOps R] [Vt100 G] in
@[simp] theorem closePane_layout (layout : Layout R) (panes : PaneMap G) (active paneId : Nat) :
    (closePane layout panes active paneId).1 = (layout.remove paneId).1 := rfl

omit [RatioOps R] [Vt100 G] in
@[simp] theorem closePane_panes (layout : Layout R) (panes : PaneMap G) (active paneId : Nat) :
    (closePane layout panes active paneId).2.1 = panes.erase paneId := rfl

/-- A replacement fails and changes nothing, or the pane's place holds a fresh process. -/
theorem replacePane_cases (world : World) (spawns : Nat) (panes : PaneMap G) (layout : Layout R) (paneId : Nat)
    (launch : PaneLaunch) (shell : String) (tw th : Nat) (settings : Settings) (scrollback : Nat) :
    let outcome := replacePane world spawns panes layout paneId launch shell tw th settings scrollback
    (∃ message, outcome.result = .error message ∧ outcome.state = panes) ∨
      ∃ rect cwd env pane, outcome.result = .ok () ∧ outcome.spawns = spawns + 1 ∧
        (layout.paneRects (terminalContentArea tw th settings))[paneId]? = some rect ∧
        Pane.spawnInner world spawns shell launch (max rect.w 1) (max rect.h 1) scrollback cwd env = .ok pane ∧
        outcome.state = panes.insert paneId
          { pane with
            snapshotSensitive := panes[paneId]?.any (·.snapshotSensitive)
            persistScrollbackOverride := panes[paneId]?.bind (·.persistScrollbackOverride) } := by
  simp only [replacePane]
  split
  · exact .inl ⟨_, rfl, rfl⟩
  rename_i rect placed
  split
  · exact .inl ⟨_, rfl, rfl⟩
  rename_i pane started
  exact .inr ⟨rect, _, _, pane, rfl, rfl, placed, started, rfl⟩

theorem mem_replacePane {world : World} {spawns : Nat} {panes : PaneMap G} {layout : Layout R} {paneId : Nat}
    {launch : PaneLaunch} {shell : String} {tw th : Nat} {settings : Settings} {scrollback id : Nat}
    (present : paneId ∈ panes) :
    id ∈ (replacePane world spawns panes layout paneId launch shell tw th settings scrollback).state ↔
      id ∈ panes := by
  rcases replacePane_cases world spawns panes layout paneId launch shell tw th settings scrollback with
    ⟨message, _, same⟩ | ⟨rect, cwd, env, pane, _, _, _, _, replaced⟩
  · rw [same]
  · rw [replaced]
    simp only [IdMap.mem_insert_iff]
    constructor
    · rintro (rfl | member)
      · exact present
      · exact member
    · exact .inr

end Operations

/-! ## Reflowing -/

namespace LayoutNode
variable {R : Type}

theorem relabel_ok {node root : LayoutNode R} {ids rest : List Nat} (done : node.relabel ids = .ok (root, rest)) :
    root.collectIds ++ rest = ids := by
  induction node generalizing ids root rest with
  | leaf id =>
      cases ids with
      | nil => simp [relabel] at done
      | cons first ids =>
          simp only [relabel, Except.ok.injEq, Prod.mk.injEq] at done
          obtain ⟨rfl, rfl⟩ := done
          rfl
  | split direction ratio first second ihFirst ihSecond =>
      simp only [relabel] at done
      cases left : first.relabel ids with
      | error message => simp [left] at done
      | ok relabelled =>
          obtain ⟨newFirst, middle⟩ := relabelled
          simp only [left] at done
          cases right : second.relabel middle with
          | error message => simp [right] at done
          | ok relabelled =>
              obtain ⟨newSecond, last⟩ := relabelled
              simp only [right, Except.ok.injEq, Prod.mk.injEq] at done
              obtain ⟨rfl, rfl⟩ := done
              rw [collectIds, List.append_assoc, ihSecond right, ihFirst left]

/-- Relabelling keeps the shape, so it uses one id a leaf. -/
theorem relabel_countLeaves {node root : LayoutNode R} {ids rest : List Nat}
    (done : node.relabel ids = .ok (root, rest)) : root.countLeaves = node.countLeaves := by
  induction node generalizing ids root rest with
  | leaf id =>
      cases ids with
      | nil => simp [relabel] at done
      | cons first ids =>
          simp only [relabel, Except.ok.injEq, Prod.mk.injEq] at done
          obtain ⟨rfl, rfl⟩ := done
          rfl
  | split direction ratio first second ihFirst ihSecond =>
      simp only [relabel] at done
      cases left : first.relabel ids with
      | error message => simp [left] at done
      | ok relabelled =>
          obtain ⟨newFirst, middle⟩ := relabelled
          simp only [left] at done
          cases right : second.relabel middle with
          | error message => simp [right] at done
          | ok relabelled =>
              obtain ⟨newSecond, last⟩ := relabelled
              simp only [right, Except.ok.injEq, Prod.mk.injEq] at done
              obtain ⟨rfl, rfl⟩ := done
              simp only [countLeaves, ihFirst left, ihSecond right]

end LayoutNode

section Reconfigure
variable {R : Type} [RatioOps R]

/-- A reflow fails and changes nothing, or keeps the leaf ids and the id counter. -/
theorem reconfigureLayout_cases (layout : Layout R) (spec : String) :
    (∃ message, reconfigureLayout layout spec = (layout, .error message)) ∨
      ∃ root, reconfigureLayout layout spec = ({ root, nextId := layout.nextId }, .ok ()) ∧
        root.collectIds = layout.paneIds := by
  simp only [reconfigureLayout]
  split
  · exact .inl ⟨_, rfl⟩
  rename_i candidate accepted
  split
  · exact .inl ⟨_, rfl⟩
  rename_i sameCount
  split
  · exact .inl ⟨_, rfl⟩
  rename_i root rest done
  refine .inr ⟨root, rfl, ?_⟩
  have used := LayoutNode.relabel_ok done
  have count := LayoutNode.relabel_countLeaves done
  have size := congrArg List.length used
  rw [List.length_append, ← root.countLeaves_eq_length, count] at size
  have leftover : rest = [] := by
    apply List.eq_nil_of_length_eq_zero
    simp only [Layout.paneCount] at sameCount
    omega
  simpa [leftover] using used

end Reconfigure

end Ezpn
