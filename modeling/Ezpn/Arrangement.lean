import Ezpn.BootstrapProperties
import Ezpn.Lib.Machine

/-!
# Layout, panes and focus

The three variables of one tab that the layout operations keep in step: the
layout tree, the pane map and the focused pane.
-/

set_option autoImplicit false

namespace Ezpn

structure Arrangement (R G : Type) where
  layout : Layout R
  panes : PaneMap G
  active : Nat

namespace Arrangement
variable {R G : Type} [RatioOps R] [Vt100 G]

/-! ## Operations -/

/-- What a split takes from the session around it. -/
structure SplitContext where
  world : World
  spawns : Nat
  shell : String
  tw : Nat
  th : Nat
  settings : Settings
  scrollback : Nat

inductive Op (R : Type) where
  | doSplit (context : SplitContext) (target : Nat) (dir : Direction)
  | closePane (paneId : Nat)
  | swapPanes (a b : Nat)
  | resizePane (paneId : Nat) (dir : NavDir) (delta : R)
  | setRatioAtPath (path : List Bool) (ratio : R)
  | equalize
  | reconfigureLayout (spec : String)

/-- The arrangement an operation leaves behind, and the result it returns. -/
def apply (s : Arrangement R G) : Op R → Arrangement R G × Except String Unit
  | .doSplit context target dir =>
      let outcome := Ezpn.doSplit context.world context.spawns s.layout s.panes target dir context.shell
        context.tw context.th context.settings context.scrollback
      ({ s with layout := outcome.state.1, panes := outcome.state.2 }, outcome.result)
  | .closePane paneId =>
      let (layout, panes, active) := Ezpn.closePane s.layout s.panes s.active paneId
      ({ layout, panes, active }, .ok ())
  | .swapPanes a b => ({ s with layout := s.layout.swapPanes a b }, .ok ())
  | .resizePane paneId dir delta =>
      let (layout, moved) := s.layout.resizePane paneId dir delta
      ({ s with layout }, if moved then .ok () else .error "no separator on that side")
  | .setRatioAtPath path ratio => ({ s with layout := s.layout.setRatioAtPath path ratio }, .ok ())
  | .equalize => ({ s with layout := s.layout.equalize }, .ok ())
  | .reconfigureLayout spec =>
      let (layout, result) := Ezpn.reconfigureLayout s.layout spec
      ({ s with layout }, result)

/-- Both callers of `swap_panes` pass the focused leaf and its neighbour in tree order. -/
def Allowed (s : Arrangement R G) : Op R → Prop
  | .swapPanes a b => a ∈ s.layout.paneIds ∧ b ∈ s.layout.paneIds
  | _ => True

abbrev Run : Arrangement R G → Arrangement R G → Prop := Machine.Run (fun s op => (s.apply op).1) Allowed

/-! ## Coherence -/

structure Coherent (s : Arrangement R G) : Prop where
  formed : s.layout.WellFormed
  panes : (∀ id, id ∈ s.panes ↔ id ∈ s.layout.paneIds) ∨ (s.panes = ∅ ∧ s.layout.paneCount = 1)
  active : s.active ∈ s.layout.paneIds

/-- No id comes back: the counter does not decrease, and a leaf that was not
there before is at or above the earlier counter. -/
structure Extends (s t : Arrangement R G) : Prop where
  counter : s.layout.nextId ≤ t.layout.nextId
  fresh : ∀ id ∈ t.layout.paneIds, id ∈ s.layout.paneIds ∨ s.layout.nextId ≤ id

omit [RatioOps R] [Vt100 G] in
theorem Extends.refl (s : Arrangement R G) : s.Extends s := ⟨Nat.le_refl _, fun _ => .inl⟩

omit [RatioOps R] [Vt100 G] in
theorem Extends.trans {s t u : Arrangement R G} (first : s.Extends t) (second : t.Extends u) : s.Extends u := by
  refine ⟨first.counter.trans second.counter, fun id member => ?_⟩
  rcases second.fresh id member with member | above
  · exact first.fresh id member
  · exact .inr (first.counter.trans above)

omit [RatioOps R] [Vt100 G] in
/-- An operation on the layout alone that keeps leaves and counter keeps coherence. -/
theorem Coherent.relayout {s : Arrangement R G} {layout : Layout R} (coherent : s.Coherent)
    (sameIds : ∀ id, id ∈ layout.paneIds ↔ id ∈ s.layout.paneIds) (formed : layout.WellFormed) :
    ({ s with layout } : Arrangement R G).Coherent := by
  refine ⟨formed, ?_, (sameIds _).mpr coherent.active⟩
  rcases coherent.panes with keys | ⟨empty, single⟩
  · exact .inl fun id => (keys id).trans (sameIds id).symm
  · refine .inr ⟨empty, ?_⟩
    have perm : layout.paneIds.Perm s.layout.paneIds :=
      (List.perm_ext_iff_of_nodup formed.distinct coherent.formed.distinct).mpr sameIds
    rw [Layout.paneCount_eq_length] at single ⊢
    rw [perm.length_eq, single]

theorem doSplit_coherent {s : Arrangement R G} (coherent : s.Coherent) (context : SplitContext)
    (target : Nat) (dir : Direction) : (s.apply (.doSplit context target dir)).1.Coherent := by
  rcases doSplit_cases context.world context.spawns s.layout s.panes target dir context.shell context.tw
      context.th context.settings context.scrollback with
    ⟨message, _, same⟩ | ⟨rect, cwd, pane, _, present, leaf, _, _, _, _, _, next⟩
  · simp only [apply, same]
    exact coherent
  · simp only [apply, next]
    refine ⟨Layout.split_wellFormed coherent.formed, .inl fun id => ?_, ?_⟩
    · rcases coherent.panes with keys | ⟨empty, _⟩
      · simp only [mem_resizeAll, IdMap.mem_insert_iff, keys id, Layout.mem_split_paneIds, leaf, and_true, or_comm]
      · simp [empty] at present
    · exact Layout.mem_split_paneIds.mpr (.inl coherent.active)

omit [RatioOps R] in
/-- What closing a pane leaves of the layout, without the focus. -/
theorem mem_remove_paneIds {layout : Layout R} {paneId id : Nat} (formed : layout.WellFormed)
    (several : 1 < layout.paneCount) : id ∈ (layout.remove paneId).1.paneIds ↔ id ∈ layout.paneIds ∧ id ≠ paneId := by
  rcases layout.remove_cases paneId with ⟨same, single | absent⟩ | ⟨root, removed, _, _, ids⟩
  · omega
  · rw [same]
    exact ⟨fun member => ⟨member, fun same => absent (same ▸ member)⟩, And.left⟩
  · rw [removed]
    rw [Layout.paneIds, ids, formed.distinct.mem_erase_iff, and_comm]

theorem closePane_coherent {s : Arrangement R G} (coherent : s.Coherent) (paneId : Nat) :
    (s.apply (.closePane paneId)).1.Coherent := by
  have head := Layout.head_mem_paneIds (s.layout.remove paneId).1
  by_cases several : 1 < s.layout.paneCount
  · have ids (id : Nat) : id ∈ (s.layout.remove paneId).1.paneIds ↔ id ∈ s.layout.paneIds ∧ id ≠ paneId :=
      mem_remove_paneIds coherent.formed several
    refine ⟨Layout.remove_wellFormed coherent.formed, .inl fun id => ?_, ?_⟩
    · rcases coherent.panes with keys | ⟨_, single⟩
      · simp only [apply, closePane, IdMap.mem_erase_iff, keys id, ids, and_comm]
      · omega
    · simp only [apply, closePane]
      split
      · exact head
      · rename_i other
        exact (ids _).mpr ⟨coherent.active, other⟩
  · have single : s.layout.paneIds = [s.active] := by
      have length : s.layout.paneIds.length = 1 := by
        have := List.length_pos_of_ne_nil s.layout.paneIds_ne_nil
        rw [Layout.paneCount_eq_length] at several
        omega
      obtain ⟨id, only⟩ := List.length_eq_one_iff.mp length
      have focused := coherent.active
      rw [only, List.mem_singleton] at focused
      rw [only, focused]
    have kept : (s.layout.remove paneId).1 = s.layout := by
      rcases s.layout.remove_cases paneId with ⟨same, _⟩ | ⟨root, removed, more, _⟩
      · rw [same]
      · omega
    simp only [apply, closePane, kept]
    refine ⟨coherent.formed, ?_, ?_⟩
    · rcases coherent.panes with keys | ⟨empty, one⟩
      · by_cases closed : paneId = s.active
        · refine .inr ⟨?_, by rw [Layout.paneCount_eq_length, single]; rfl⟩
          simp only [closed, Std.ExtTreeMap.eq_empty_iff_forall_not_mem, IdMap.mem_erase_iff, keys, single,
            List.mem_singleton]
          rintro id ⟨other, same⟩
          exact other same
        · refine .inl fun id => ?_
          simp only [IdMap.mem_erase_iff, keys id, single, List.mem_singleton, and_iff_right_iff_imp]
          rintro rfl
          exact Ne.symm closed
      · refine .inr ⟨?_, one⟩
        simp [empty]
    · split
      · simp [single]
      · exact coherent.active

theorem swapPanes_coherent {s : Arrangement R G} (coherent : s.Coherent) {a b : Nat}
    (leafA : a ∈ s.layout.paneIds) (leafB : b ∈ s.layout.paneIds) : (s.apply (.swapPanes a b)).1.Coherent :=
  coherent.relayout (fun _ => Layout.mem_swapPanes_paneIds leafA leafB)
    (Layout.swapPanes_wellFormed coherent.formed leafA leafB)

theorem reconfigureLayout_coherent {s : Arrangement R G} (coherent : s.Coherent) (spec : String) :
    (s.apply (.reconfigureLayout spec)).1.Coherent := by
  rcases reconfigureLayout_cases s.layout spec with ⟨message, same⟩ | ⟨root, applied, ids⟩
  · simp only [apply, same]
    exact coherent
  · simp only [apply, applied]
    have sameIds : ({ root, nextId := s.layout.nextId } : Layout R).paneIds = s.layout.paneIds := ids
    exact coherent.relayout (fun id => by rw [sameIds]) (coherent.formed.of_same_ids sameIds rfl)

theorem apply_coherent (s : Arrangement R G) (op : Op R) (coherent : s.Coherent) (allowed : s.Allowed op) :
    (s.apply op).1.Coherent := by
  cases op with
  | doSplit context target dir => exact doSplit_coherent coherent context target dir
  | closePane paneId => exact closePane_coherent coherent paneId
  | swapPanes a b => exact swapPanes_coherent coherent allowed.1 allowed.2
  | resizePane paneId dir delta =>
      have formed : (s.layout.resizePane paneId dir delta).1.WellFormed :=
        Layout.resizePane_wellFormed coherent.formed
      have sameIds (id : Nat) : id ∈ (s.layout.resizePane paneId dir delta).1.paneIds ↔ id ∈ s.layout.paneIds := by
        rw [Layout.resizePane_paneIds]
      exact coherent.relayout sameIds formed
  | setRatioAtPath path ratio =>
      exact coherent.relayout (fun _ => by simp) (Layout.setRatioAtPath_wellFormed coherent.formed)
  | equalize => exact coherent.relayout (fun _ => by simp) (Layout.equalize_wellFormed coherent.formed)
  | reconfigureLayout spec => exact reconfigureLayout_coherent coherent spec

/-! ## Ids -/

theorem apply_extends (s : Arrangement R G) (op : Op R) (allowed : s.Allowed op) :
    s.Extends (s.apply op).1 := by
  cases op with
  | doSplit context target dir =>
      rcases doSplit_cases context.world context.spawns s.layout s.panes target dir context.shell context.tw
          context.th context.settings context.scrollback with
        ⟨message, _, same⟩ | ⟨rect, cwd, pane, _, _, _, _, _, _, _, _, next⟩
      · simp only [apply, same]
        exact .refl s
      · simp only [apply, next]
        refine ⟨by simp, fun id member => ?_⟩
        rcases Layout.mem_split_paneIds.mp member with old | ⟨rfl, _⟩
        · exact .inl old
        · exact .inr (Nat.le_refl _)
  | closePane paneId =>
      refine ⟨by simp [apply, closePane], fun id member => .inl ?_⟩
      simp only [apply, closePane] at member
      rcases s.layout.remove_cases paneId with ⟨same, _⟩ | ⟨root, removed, _, _, ids⟩
      · rwa [same] at member
      · rw [removed] at member
        simp only [Layout.paneIds, ids] at member
        exact List.mem_of_mem_erase member
  | swapPanes a b =>
      exact ⟨Nat.le_refl _, fun id member => .inl ((Layout.mem_swapPanes_paneIds allowed.1 allowed.2).mp member)⟩
  | resizePane paneId dir delta =>
      exact ⟨by simp only [apply, Layout.resizePane_nextId, Nat.le_refl],
        fun id member => .inl (by rwa [apply, Layout.resizePane_paneIds] at member)⟩
  | setRatioAtPath path ratio => exact ⟨by simp [apply], fun id member => .inl (by simpa [apply] using member)⟩
  | equalize => exact ⟨by simp [apply], fun id member => .inl (by simpa [apply] using member)⟩
  | reconfigureLayout spec =>
      rcases reconfigureLayout_cases s.layout spec with ⟨message, same⟩ | ⟨root, applied, ids⟩
      · simp only [apply, same]
        exact .refl s
      · simp only [apply, applied]
        exact ⟨Nat.le_refl _, fun id member => .inl (ids ▸ member)⟩

/-- A failed operation changes nothing. -/
theorem apply_error {s : Arrangement R G} {op : Op R} {message : String}
    (failed : (s.apply op).2 = .error message) : (s.apply op).1 = s := by
  cases op with
  | doSplit context target dir =>
      rcases doSplit_cases context.world context.spawns s.layout s.panes target dir context.shell context.tw
          context.th context.settings context.scrollback with ⟨_, _, same⟩ | ⟨_, _, _, accepted, _⟩
      · simp only [apply, same]
      · simp [apply, accepted] at failed
  | resizePane paneId dir delta =>
      have unmoved : (s.layout.resizePane paneId dir delta).2 = false := by
        simp only [apply] at failed
        split at failed
        · cases failed
        · simpa using ‹¬(s.layout.resizePane paneId dir delta).2 = true›
      simp only [apply, Layout.resizePane_failed unmoved]
  | reconfigureLayout spec =>
      rcases reconfigureLayout_cases s.layout spec with ⟨_, same⟩ | ⟨_, applied, _⟩
      · simp only [apply, same]
      · simp [apply, applied] at failed
  | closePane paneId => simp [apply] at failed
  | swapPanes a b => simp [apply] at failed
  | setRatioAtPath path ratio => simp [apply] at failed
  | equalize => simp [apply] at failed

/-- Only closing the last pane empties the map. -/
theorem apply_empty {s : Arrangement R G} {op : Op R} (coherent : s.Coherent) (occupied : s.panes ≠ ∅)
    (emptied : (s.apply op).1.panes = ∅) : ∃ id, op = .closePane id ∧ s.layout.paneIds = [id] := by
  cases op with
  | doSplit context target dir =>
      rcases doSplit_cases context.world context.spawns s.layout s.panes target dir context.shell context.tw
          context.th context.settings context.scrollback with
        ⟨_, _, same⟩ | ⟨_, _, pane, _, _, _, _, _, _, _, _, next⟩
      · simp only [apply, same] at emptied
        exact absurd emptied occupied
      · simp only [apply, next] at emptied
        have member : s.layout.nextId ∈ (∅ : PaneMap G) := by
          rw [← emptied]
          simp
        simp at member
  | closePane paneId =>
      refine ⟨paneId, rfl, ?_⟩
      rcases coherent.panes with keys | ⟨empty, _⟩
      · have only (id : Nat) (member : id ∈ s.layout.paneIds) : id = paneId := by
          by_contra other
          have kept : id ∈ s.panes.erase paneId := by
            exact IdMap.mem_erase_iff.mpr ⟨other, (keys id).mpr member⟩
          simp only [apply, closePane] at emptied
          simp [emptied] at kept
        have repeated := List.eq_replicate_iff.mpr ⟨rfl, only⟩
        have single := List.nodup_replicate.mp (repeated ▸ coherent.formed.distinct)
        have nonempty := List.length_pos_of_ne_nil s.layout.paneIds_ne_nil
        rw [repeated, show s.layout.paneIds.length = 1 by omega]
        rfl
      · exact absurd empty occupied
  | swapPanes a b => exact absurd emptied occupied
  | resizePane paneId dir delta => exact absurd emptied occupied
  | setRatioAtPath path ratio => exact absurd emptied occupied
  | equalize => exact absurd emptied occupied
  | reconfigureLayout spec => exact absurd emptied occupied

/-! ## Runs -/

/-- Where an arrangement starts: a grid or spec with its planned or project panes,
or a tab of a validated snapshot. -/
inductive Initial (format : SnapshotFormat R) : Arrangement R G → Prop where
  | plan {world : World} {spawns after : Nat} {layout : Layout R} {launches : IdMap PaneLaunch}
      {shell : String} {tw th : Nat} {settings : Settings} {scrollback : Nat} {panes : PaneMap G}
      (built : layout.Built)
      (spawned : spawnLayoutPanes world spawns layout launches shell tw th settings scrollback = (.ok panes, after)) :
      Initial format { layout, panes, active := layout.paneIds.head?.getD 0 }
  | project {world : World} {spawns after : Nat} {proj : ResolvedProject R} {shell : String} {tw th : Nat}
      {settings : Settings} {scrollback : Nat} {panes : PaneMap G}
      (built : proj.layout.Built)
      (spawned : spawnProjectPanes world spawns proj shell tw th settings scrollback = (.ok panes, after)) :
      Initial format { layout := proj.layout, panes, active := proj.layout.paneIds.head?.getD 0 }
  | snapshot {world : World} {spawns after : Nat} {saved : WorkspaceSnapshot R} {tab : TabSnapshot R}
      {shell : String} {tw th : Nat} {settings : Settings} {scrollback : Nat} {panes : PaneMap G}
      (accepted : saved.validate = .ok ()) (member : tab ∈ saved.tabs)
      (spawned : spawnSnapshotPanes format world spawns tab.layout tab shell tw th settings scrollback =
        (.ok panes, after)) :
      Initial format { layout := tab.layout, panes, active := tab.activePane }

theorem Initial.coherent {format : SnapshotFormat R} {s : Arrangement R G} (initial : Initial format s) :
    s.Coherent := by
  cases initial with
  | plan built spawned =>
      exact ⟨built.wellFormed, .inl fun id => spawnLayoutPanes_ok spawned, Layout.head_mem_paneIds _⟩
  | project built spawned =>
      exact ⟨built.wellFormed, .inl fun id => spawnProjectPanes_ok spawned, Layout.head_mem_paneIds _⟩
  | snapshot accepted member spawned =>
      have valid := (WorkspaceSnapshot.validate_ok_iff.mp accepted).tabs _ member
      exact ⟨valid.wellFormed, .inl fun id => (spawnSnapshotPanes_ok spawned).trans valid.leaves.mem_iff,
        valid.active⟩

theorem Run.coherent {start s : Arrangement R G} (coherent : start.Coherent) (run : Run start s) : s.Coherent :=
  Machine.Run.invariant apply_coherent coherent run

theorem Run.extends {start s : Arrangement R G} (coherent : start.Coherent) (run : Run start s) :
    start.Extends s :=
  Machine.Run.related apply_coherent Extends.refl (fun _ _ _ => Extends.trans)
    (fun s op _ allowed => apply_extends s op allowed) coherent run

omit [RatioOps R] [Vt100 G] in
/-- The pane that `swap_panes` is called with is the focused leaf's neighbour. -/
theorem Coherent.swap_allowed {s : Arrangement R G} (coherent : s.Coherent) :
    s.Allowed (.swapPanes s.active (s.layout.nextPane s.active)) ∧
      s.Allowed (.swapPanes s.active (s.layout.prevPane s.active)) :=
  ⟨⟨coherent.active, Layout.nextPane_mem _ _⟩, coherent.active, Layout.prevPane_mem _ _⟩

/-- Layout, pane map and focus stay coherent in every reachable state, no leaf id
comes back, and a failed operation changes nothing. -/
theorem layout_panes_focus_coherent {format : SnapshotFormat R} {start s : Arrangement R G}
    (initial : Initial format start) (run : Run start s) :
    s.Coherent ∧ (∀ t, Run s t → s.Extends t) ∧
      (∀ op message, (s.apply op).2 = .error message → (s.apply op).1 = s) ∧
      ∀ op, s.panes ≠ ∅ → (s.apply op).1.panes = ∅ → ∃ id, op = .closePane id ∧ s.layout.paneIds = [id] := by
  have coherent := run.coherent initial.coherent
  exact ⟨coherent, fun t later => Run.extends coherent later, fun op message => apply_error,
    fun op => apply_empty coherent⟩

/-- The default two-pane grid on an 80x24 screen, with a shell in each pane. -/
def twoShells : Arrangement ℚ RawDisplay :=
  let layout : Layout ℚ := .fromGrid 1 2
  let spawned := spawnLayoutPanes {} 0 layout ∅ "/bin/sh" 80 24 (.new .rounded) 100
  { layout, panes := spawned.1.toOption.getD ∅, active := layout.paneIds.head?.getD 0 }

theorem twoShells_initial (format : SnapshotFormat ℚ) : Initial format twoShells := by
  let spawned : Except String (PaneMap RawDisplay) × Nat :=
    spawnLayoutPanes {} 0 (.fromGrid 1 2 : Layout ℚ) ∅ "/bin/sh" 80 24 (.new .rounded) 100
  have started : ∀ result : Except String (PaneMap RawDisplay), result.isOk = true →
      result = .ok (result.toOption.getD ∅) := by
    rintro (_ | _) ok
    · cases ok
    · rfl
  have accepted : spawned = (.ok twoShells.panes, spawned.2) :=
    Prod.ext (started spawned.1 (by decide +kernel)) rfl
  exact .plan (.inl ⟨1, 2, rfl⟩) accepted

def splitFirst : Op ℚ :=
  let context : SplitContext :=
    { world := {}, spawns := 2, shell := "/bin/sh", tw := 80, th := 24, settings := .new .rounded, scrollback := 100 }
  .doSplit context 0 .vertical

/-- Split the first pane, then close it. -/
def splitThenClose : Arrangement ℚ RawDisplay := ((twoShells.apply splitFirst).1.apply (.closePane 0)).1

theorem splitThenClose_coherent :
    splitThenClose.Coherent ∧ splitThenClose.layout.paneIds = [2, 1] ∧ splitThenClose.panes.keys = [1, 2] ∧
      splitThenClose.active = 2 := by
  have run : Run twoShells splitThenClose :=
    .step (.step .start splitFirst (by simp [Allowed, splitFirst])) (Op.closePane 0) trivial
  have coherent := (layout_panes_focus_coherent
    (twoShells_initial ⟨id, fun _ => .ok, fun _ => 0, fun _ => .error "no such file"⟩) run).1
  exact ⟨coherent, by decide +kernel, by decide +kernel, by decide +kernel⟩

end Arrangement

end Ezpn
