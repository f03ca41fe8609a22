import Ezpn.Workspace
import Ezpn.Layout.Invariant

/-!
# What a validated snapshot satisfies

The validator accepts a snapshot exactly when it is `Valid`: the checks as
properties of the document, without the order in which they run.
-/

set_option autoImplicit false

namespace Ezpn

namespace LayoutNode
variable {R : Type}

/-- Depth of the deepest leaf. -/
def depth : LayoutNode R → Nat
  | leaf _ => 0
  | split _ _ first second => max first.depth second.depth + 1

/-- Every split ratio is strictly between 0 and 1. -/
def Proper [RatioOps R] : LayoutNode R → Prop
  | leaf _ => True
  | split _ ratio first second => RatioOps.isProper ratio = true ∧ first.Proper ∧ second.Proper

instance decidableProper [RatioOps R] : (node : LayoutNode R) → Decidable node.Proper
  | leaf _ => .isTrue trivial
  | split _ ratio first second =>
      have := decidableProper first
      have := decidableProper second
      inferInstanceAs (Decidable (RatioOps.isProper ratio = true ∧ first.Proper ∧ second.Proper))

theorem depth_lt_countLeaves (node : LayoutNode R) : node.depth < node.countLeaves := by
  induction node with
  | leaf id => simp [depth, countLeaves]
  | split direction ratio first second ihFirst ihSecond =>
      simp only [depth, countLeaves]
      omega

theorem walk_ok_iff [RatioOps R] {node : LayoutNode R} {index nextId depth : Nat} {ids out : List Nat} :
    node.walk index nextId depth ids = .ok out ↔
      out = ids ++ node.collectIds ∧ depth + node.depth ≤ 100 ∧ ids.length + node.countLeaves ≤ 100 ∧
        (∀ id ∈ node.collectIds, id < nextId) ∧ nextId < usizeMax ∧ node.Proper := by
  induction node generalizing depth ids out with
  | leaf id =>
      simp only [walk, collectIds, countLeaves, LayoutNode.depth, Proper, Bool.not_eq_true',
        Bool.and_eq_false_iff, decide_eq_false_iff_not]
      split
      · simp; omega
      · split
        · simp; omega
        · split
          · simp; omega
          · simp only [Except.ok.injEq, List.mem_singleton, forall_eq, and_true]
            constructor
            · rintro rfl
              refine ⟨rfl, ?_, ?_, ?_, ?_⟩ <;> omega
            · rintro ⟨rfl, _⟩
              rfl
  | split direction ratio first second ihFirst ihSecond =>
      have leaves := first.countLeaves_eq_length
      simp only [walk, collectIds, countLeaves, LayoutNode.depth, Proper, Bool.not_eq_true']
      split
      · simp; omega
      · split
        · rename_i improper
          simp [improper]
        · rename_i proper
          cases walked : first.walk index nextId (depth + 1) ids with
          | error message =>
              simp only [reduceCtorEq, false_iff]
              rintro ⟨_, deep, many, bounded, next, _, properFirst, _⟩
              have accepted : first.walk index nextId (depth + 1) ids = .ok (ids ++ first.collectIds) :=
                ihFirst.mpr ⟨rfl, by omega, by omega,
                  fun id member => bounded id (List.mem_append_left _ member), next, properFirst⟩
              rw [walked] at accepted
              cases accepted
          | ok middle =>
              obtain ⟨rfl, deepFirst, manyFirst, boundedFirst, next, properFirst⟩ := ihFirst.mp walked
              simp only [ihSecond, List.append_assoc, List.length_append, ← leaves]
              constructor
              · rintro ⟨rfl, deep, many, bounded, _, properSecond⟩
                refine ⟨rfl, by omega, by omega, fun id member => ?_, next, by simpa using proper, properFirst,
                  properSecond⟩
                rcases List.mem_append.mp member with member | member
                · exact boundedFirst id member
                · exact bounded id member
              · rintro ⟨rfl, deep, many, bounded, _, _, _, properSecond⟩
                exact ⟨rfl, by omega, by omega, fun id member => bounded id (List.mem_append_right _ member),
                  next, properSecond⟩

end LayoutNode

/-! ## Sorting -/

@[simp] theorem sortIds_perm (ids : List Nat) : (sortIds ids).Perm ids := List.mergeSort_perm ids _

theorem sortIds_sorted (ids : List Nat) : (sortIds ids).Pairwise (· ≤ ·) := by
  have sorted : (sortIds ids).Pairwise (fun a b : Nat => decide (a ≤ b) = true) :=
    List.pairwise_mergeSort (fun a b c ab bc => by simp only [decide_eq_true_eq] at *; omega)
      (fun a b => by simp only [Bool.or_eq_true, decide_eq_true_eq]; omega) ids
  simpa using sorted

@[simp] theorem mem_sortIds {id : Nat} {ids : List Nat} : id ∈ sortIds ids ↔ id ∈ ids :=
  (sortIds_perm ids).mem_iff

theorem sortIds_eq_iff {xs ys : List Nat} : sortIds xs = sortIds ys ↔ xs.Perm ys := by
  constructor
  · intro same
    exact (sortIds_perm xs).symm.trans (same ▸ sortIds_perm ys)
  · intro perm
    exact ((sortIds_perm xs).trans (perm.trans (sortIds_perm ys).symm)).eq_of_pairwise
      (fun a b _ _ ab ba => Nat.le_antisymm ab ba) (sortIds_sorted xs) (sortIds_sorted ys)

theorem dedupIds_sortIds_of_nodup {ids : List Nat} (distinct : ids.Nodup) :
    dedupIds (sortIds ids) = sortIds ids :=
  List.destutter_of_isChain _ _ ((sortIds_perm ids).nodup_iff.mpr distinct).isChain

/-- A sorted list keeps its length under `dedup` only when nothing repeats. -/
theorem dedupIds_sortIds_length {ids : List Nat} :
    (dedupIds (sortIds ids)).length = ids.length ↔ ids.Nodup := by
  constructor
  · intro same
    have unchanged : dedupIds (sortIds ids) = sortIds ids :=
      (List.destutter_sublist _ _).eq_of_length (same.trans (sortIds_perm ids).length_eq.symm)
    have chain : (sortIds ids).IsChain (· ≠ ·) := (List.destutter_eq_self_iff _ _).mp unchanged
    have increasing : (sortIds ids).IsChain (· < ·) := by
      have ordered := (sortIds_sorted ids).isChain
      rw [List.isChain_iff_getElem] at chain ordered ⊢
      intro i bound
      exact Nat.lt_of_le_of_ne (ordered i bound) (chain i bound)
    have strict := List.isChain_iff_pairwise.mp increasing
    exact (sortIds_perm ids).nodup_iff.mp (strict.imp Nat.ne_of_lt)
  · intro distinct
    rw [dedupIds_sortIds_of_nodup distinct, (sortIds_perm ids).length_eq]

/-! ## History blobs -/

namespace ScrollbackBlob

structure Bounded (blob : ScrollbackBlob) : Prop where
  decoded : blob.bytesUncompressed ≤ scrollbackDecodeMaxBytes
  compressed : blob.payload.length ≤ snapshotMaxBytes
  rows : blob.rows ≤ scrollbackMaxRows

theorem validateBounds_ok_iff {blob : ScrollbackBlob} : blob.validateBounds = .ok () ↔ blob.Bounded := by
  constructor
  · intro accepted
    simp only [validateBounds] at accepted
    split at accepted
    · cases accepted
    · split at accepted
      · cases accepted
      · split at accepted
        · cases accepted
        · exact ⟨by omega, by omega, by omega⟩
  · rintro ⟨decoded, compressed, rows⟩
    simp only [validateBounds]
    rw [if_neg (by omega), if_neg (by omega), if_neg (by omega)]

end ScrollbackBlob

/-- Decoded size of a saved pane's history. -/
def PaneSnapshot.decodedBytes (pane : PaneSnapshot) : Nat :=
  (pane.scrollback.map (·.bytesUncompressed)).getD 0

def decodedBytes (panes : List PaneSnapshot) : Nat := (panes.map (·.decodedBytes)).sum

theorem validateBlobs_ok_iff {panes : List PaneSnapshot} {total out : Nat}
    (within : total ≤ scrollbackDecodeMaxBytes) :
    validateBlobs panes total = .ok out ↔
      out = total + decodedBytes panes ∧ out ≤ scrollbackDecodeMaxBytes ∧
        ∀ pane ∈ panes, ∀ blob, pane.scrollback = some blob → blob.Bounded := by
  induction panes generalizing total with
  | nil =>
      simp only [validateBlobs, decodedBytes, Except.ok.injEq]
      grind
  | cons pane panes ih =>
      simp only [validateBlobs]
      have sum : decodedBytes (pane :: panes) = pane.decodedBytes + decodedBytes panes := by
        simp [decodedBytes]
      cases saved : pane.scrollback with
      | none =>
          have empty : pane.decodedBytes = 0 := by simp [PaneSnapshot.decodedBytes, saved]
          simp [ih within, sum, empty, saved]
      | some blob =>
          have size : pane.decodedBytes = blob.bytesUncompressed := by
            simp [PaneSnapshot.decodedBytes, saved]
          simp only [sum, size]
          cases checked : blob.validateBounds with
          | error message =>
              have unbounded : ¬ blob.Bounded := fun bounded => by
                rw [ScrollbackBlob.validateBounds_ok_iff.mpr bounded] at checked
                cases checked
              simp [saved, unbounded]
          | ok _ =>
              have bounded := ScrollbackBlob.validateBounds_ok_iff.mp checked
              by_cases excess : total + blob.bytesUncompressed > scrollbackDecodeMaxBytes
              · simp only [if_pos excess, reduceCtorEq, false_iff]
                omega
              · simp [if_neg excess, ih (Nat.le_of_not_lt excess), saved, bounded, Nat.add_assoc]

/-! ## Tabs and sessions -/

section Valid
variable {R : Type} [RatioOps R]

namespace TabSnapshot

def paneIds (tab : TabSnapshot R) : List Nat := tab.panes.map (·.id)

structure Valid (tab : TabSnapshot R) : Prop where
  distinct : tab.paneIds.Nodup
  leaves : tab.paneIds.Perm tab.layout.paneIds
  shallow : tab.layout.root.depth ≤ 100
  few : tab.layout.paneCount ≤ 100
  bounded : ∀ id ∈ tab.layout.paneIds, id < tab.layout.nextId
  room : tab.layout.nextId < usizeMax
  proper : tab.layout.root.Proper
  active : tab.activePane ∈ tab.layout.paneIds
  zoomed : ∀ id, tab.zoomedPane = some id → id ∈ tab.layout.paneIds
  histories : ∀ pane ∈ tab.panes, ∀ blob, pane.scrollback = some blob → blob.Bounded

theorem Valid.wellFormed {tab : TabSnapshot R} (valid : tab.Valid) : tab.layout.WellFormed :=
  ⟨valid.leaves.nodup_iff.mp valid.distinct, valid.bounded⟩

theorem validate_ok_iff {tab : TabSnapshot R} {index panes decoded : Nat} {out : Nat × Nat}
    (within : decoded ≤ scrollbackDecodeMaxBytes) :
    tab.validate index panes decoded = .ok out ↔
      out = (panes + tab.panes.length, decoded + decodedBytes tab.panes) ∧ out.1 ≤ snapshotMaxPanes ∧
        out.2 ≤ scrollbackDecodeMaxBytes ∧ tab.Valid := by
  have ids : (tab.panes.map (·.id)).length = tab.panes.length := by simp
  constructor
  · intro accepted
    simp only [validate] at accepted
    split at accepted
    · cases accepted
    rename_i fits
    split at accepted
    · cases accepted
    rename_i sameLength
    have distinct : (tab.panes.map (·.id)).Nodup := dedupIds_sortIds_length.mp (by rw [ids]; omega)
    rw [dedupIds_sortIds_of_nodup distinct] at accepted
    cases walked : tab.layout.root.walk index tab.layout.nextId 0 [] with
    | error message => simp [walked] at accepted
    | ok layoutIds =>
        obtain ⟨rfl, shallow, few, bounded, room, proper⟩ := LayoutNode.walk_ok_iff.mp walked
        simp only [walked, List.nil_append] at accepted
        split at accepted
        · cases accepted
        rename_i sameIds
        split at accepted
        · cases accepted
        rename_i active
        split at accepted
        · cases accepted
        rename_i zoomed
        cases checked : validateBlobs tab.panes decoded with
        | error message => simp [checked] at accepted
        | ok total =>
            obtain ⟨rfl, below, histories⟩ := (validateBlobs_ok_iff within).mp checked
            simp only [checked, Except.ok.injEq] at accepted
            subst accepted
            refine ⟨rfl, by omega, below, distinct, sortIds_eq_iff.mp (by simpa [paneIds, Layout.paneIds] using sameIds),
              by omega, by simpa [Layout.paneCount] using few, bounded, room, proper,
              by simpa [Layout.paneIds] using active, ?_, histories⟩
            intro id focused
            simpa [focused, Layout.paneIds] using zoomed
  · rintro ⟨rfl, fits, below, valid⟩
    have walked : tab.layout.root.walk index tab.layout.nextId 0 [] = .ok tab.layout.paneIds :=
      LayoutNode.walk_ok_iff.mpr ⟨by simp [Layout.paneIds], by simpa using valid.shallow,
        by simpa [Layout.paneCount] using valid.few, valid.bounded, valid.room, valid.proper⟩
    have checked := (validateBlobs_ok_iff within).mpr ⟨rfl, below, valid.histories⟩
    have sameLength := dedupIds_sortIds_length.mpr valid.distinct
    have sameIds : sortIds (tab.panes.map (·.id)) = sortIds tab.layout.paneIds :=
      sortIds_eq_iff.mpr valid.leaves
    have zoomed : (tab.zoomedPane.any fun zoomed => !decide (zoomed ∈ tab.layout.paneIds)) = false := by
      cases focused : tab.zoomedPane with
      | none => rfl
      | some id => simpa using valid.zoomed id focused
    have distinct : (tab.panes.map (·.id)).Nodup := valid.distinct
    simp only [validate, dedupIds_sortIds_of_nodup distinct]
    rw [if_neg (by omega), if_neg (by rw [(sortIds_perm _).length_eq]; simp), walked]
    simp [sameIds, valid.active, zoomed, checked]

end TabSnapshot

theorem validateTabs_ok_iff {tabs : List (TabSnapshot R)} {index panes decoded : Nat}
    (fits : panes ≤ snapshotMaxPanes) (within : decoded ≤ scrollbackDecodeMaxBytes) :
    validateTabs index panes decoded tabs = .ok () ↔
      panes + (tabs.map (·.panes.length)).sum ≤ snapshotMaxPanes ∧
        decoded + (tabs.map fun tab => decodedBytes tab.panes).sum ≤ scrollbackDecodeMaxBytes ∧
        ∀ tab ∈ tabs, tab.Valid := by
  induction tabs generalizing index panes decoded with
  | nil => simp [validateTabs, fits, within]
  | cons tab tabs ih =>
      simp only [validateTabs, List.map_cons, List.sum_cons, List.forall_mem_cons]
      cases checked : tab.validate index panes decoded with
      | error message =>
          simp only [reduceCtorEq, false_iff]
          rintro ⟨few, below, valid, _⟩
          rw [(TabSnapshot.validate_ok_iff within).mpr ⟨rfl, by simp only; omega, by simp only; omega, valid⟩]
            at checked
          cases checked
      | ok totals =>
          obtain ⟨rfl, few, below, valid⟩ := (TabSnapshot.validate_ok_iff within).mp checked
          simp only [ih few below, valid, true_and, Nat.add_assoc]

namespace WorkspaceSnapshot

/-- Panes of all tabs together. -/
def totalPanes (snapshot : WorkspaceSnapshot R) : Nat := (snapshot.tabs.map (·.panes.length)).sum

def totalDecoded (snapshot : WorkspaceSnapshot R) : Nat :=
  (snapshot.tabs.map fun tab => decodedBytes tab.panes).sum

structure Valid (snapshot : WorkspaceSnapshot R) : Prop where
  supported : isSupportedVersion snapshot.version = true
  nonempty : snapshot.tabs ≠ []
  fewTabs : snapshot.tabs.length ≤ snapshotMaxTabs
  scrollback : snapshot.scrollback ≤ 100000
  fewPanes : snapshot.totalPanes ≤ snapshotMaxPanes
  decoded : snapshot.totalDecoded ≤ scrollbackDecodeMaxBytes
  tabs : ∀ tab ∈ snapshot.tabs, tab.Valid
  active : snapshot.activeTab < snapshot.tabs.length

theorem validate_ok_iff {snapshot : WorkspaceSnapshot R} : snapshot.validate = .ok () ↔ snapshot.Valid := by
  have checked : validateTabs 0 0 0 snapshot.tabs = .ok () ↔ snapshot.totalPanes ≤ snapshotMaxPanes ∧
      snapshot.totalDecoded ≤ scrollbackDecodeMaxBytes ∧ ∀ tab ∈ snapshot.tabs, tab.Valid := by
    simpa [totalPanes, totalDecoded] using validateTabs_ok_iff (Nat.zero_le _) (Nat.zero_le _)
  constructor
  · intro accepted
    simp only [validate] at accepted
    split at accepted
    · cases accepted
    rename_i supported
    split at accepted
    · cases accepted
    rename_i nonempty
    split at accepted
    · cases accepted
    rename_i fewTabs
    split at accepted
    · cases accepted
    rename_i scrollback
    cases result : validateTabs 0 0 0 snapshot.tabs with
    | error message => simp [result] at accepted
    | ok _ =>
        obtain ⟨fewPanes, decoded, tabs⟩ := checked.mp result
        simp only [result, ge_iff_le, ite_eq_right_iff, reduceCtorEq, imp_false] at accepted
        exact ⟨by simpa using supported, by simpa using nonempty, by omega, by omega, fewPanes, decoded, tabs,
          by omega⟩
  · rintro ⟨supported, nonempty, fewTabs, scrollback, fewPanes, decoded, tabs, active⟩
    simp only [validate]
    rw [if_neg (by simpa using supported), if_neg (by simpa using nonempty), if_neg (by omega),
      if_neg (by omega), checked.mpr ⟨fewPanes, decoded, tabs⟩, if_neg (by omega)]

end WorkspaceSnapshot

theorem loadSnapshot_valid {format : SnapshotFormat R} {path : String} {snapshot : WorkspaceSnapshot R}
    (loaded : loadSnapshot format path = .ok snapshot) : snapshot.Valid := by
  simp only [loadSnapshot] at loaded
  split at loaded
  · cases loaded
  · split at loaded
    · cases loaded
    · rename_i accepted
      split at loaded
      · cases loaded
      · cases loaded
        exact WorkspaceSnapshot.validate_ok_iff.mp accepted

end Valid

end Ezpn
