import Ezpn.Layout.Invariant

/-!
# Moving panes between layouts

A pane leaves one layout tree and joins another under the same id. Both halves
are summarised by what they do to the leaf ids, and a failed half does nothing.
-/

set_option autoImplicit false

namespace Ezpn

namespace LayoutNode
variable {R : Type} [RatioOps R]

/-- Without the new leaf the leaves are as before the split. -/
theorem splitNode_filter {target newId : Nat} {dir : Direction} {node : LayoutNode R} (fresh : newId ∉ node.collectIds) :
    ((node.splitNode target newId dir).collectIds.filter fun id => id ≠ newId) = node.collectIds := by
  induction node with
  | leaf id =>
      have differs : id ≠ newId := fun same => fresh (by simp [same])
      by_cases selected : id = target
      · simp [splitNode, selected, selected ▸ differs]
      · simp [splitNode, selected, differs]
  | split direction ratio first second firstIH secondIH =>
      simp only [collectIds_split, List.mem_append, not_or] at fresh
      simp only [splitNode, collectIds_split, List.filter_append, firstIH fresh.1, secondIH fresh.2]

/-- A single occurrence of the split leaf adds a single leaf. -/
theorem splitNode_perm {target newId : Nat} {dir : Direction} {node : LayoutNode R} (distinct : node.collectIds.Nodup)
    (member : target ∈ node.collectIds) :
    (node.splitNode target newId dir).collectIds.Perm (newId :: node.collectIds) := by
  have absentKeeps {part : LayoutNode R} (absent : target ∉ part.collectIds) :
      (part.splitNode target newId dir).collectIds = part.collectIds := by
    have single : ∀ id ∈ part.collectIds, (if id = target then [id, newId] else [id]) = [id] := by
      intro id listed
      have differs : id ≠ target := fun same => absent (same ▸ listed)
      rw [if_neg differs]
    rw [splitNode_collectIds, List.flatMap_congr single, List.flatMap_singleton']
  induction node with
  | leaf id =>
      have selected : id = target := (List.mem_singleton.mp member).symm
      simp only [splitNode, selected, if_true, collectIds_split, collectIds_leaf]
      exact List.Perm.swap newId target []
  | split direction ratio first second firstIH secondIH =>
      obtain ⟨firstDistinct, secondDistinct, apart⟩ := List.nodup_append.mp distinct
      rw [splitNode, collectIds_split, collectIds_split]
      rcases List.mem_append.mp member with inFirst | inSecond
      · have notSecond : target ∉ second.collectIds := fun both => apart target inFirst target both rfl
        rw [absentKeeps notSecond]
        exact (firstIH firstDistinct inFirst).append_right _
      · have notFirst : target ∉ first.collectIds := fun both => apart target both target inSecond rfl
        rw [absentKeeps notFirst]
        exact ((secondIH secondDistinct inSecond).append_left _).trans List.perm_middle

end LayoutNode

namespace Layout
variable {R : Type} [RatioOps R]

/-! ## The primitives -/

/-- Detach a leaf, collapsing its parent split; `none` for an unknown or the last
pane. As in `remove`, the source takes the root out before it rewrites it. -/
def detachLeaf (layout : Layout R) (targetId : Nat) : Layout R × Option Nat :=
  if layout.paneCount ≤ 1 then (layout, none)
  else if !layout.root.contains targetId then (layout, none)
  else match layout.root.removeNode targetId with
    | some root => ({ layout with root }, some targetId)
    | none => ({ layout with root := .leaf 0 }, none)

/-- Detach the only pane; the caller destroys the layout. -/
def detachSoleLeaf (layout : Layout R) (targetId : Nat) : Option Nat :=
  if layout.paneCount ≠ 1 then none
  else match layout.root with
    | .leaf id => if id = targetId then some targetId else none
    | .split .. => none

/-- Split `anchorId` and put the pane `incomingId` into the second slot. -/
def attachPane (layout : Layout R) (anchorId incomingId : Nat) (dir : Direction) : Layout R × Bool :=
  if !layout.root.contains anchorId then (layout, false)
  else if layout.root.contains incomingId then (layout, false)
  else
    let root := layout.root.splitNode anchorId incomingId dir
    let nextId := if incomingId ≥ layout.nextId then incomingId + 1 else layout.nextId
    (equalize { root, nextId }, true)

/-! ## What they do -/

omit [RatioOps R] in
theorem detachLeaf_cases (layout : Layout R) (target : Nat) :
    (layout.detachLeaf target = (layout, none) ∧ ¬(1 < layout.paneCount ∧ target ∈ layout.paneIds)) ∨
      ∃ root, layout.detachLeaf target = ({ layout with root }, some target) ∧ 1 < layout.paneCount ∧
        target ∈ layout.paneIds ∧ root.collectIds = layout.paneIds.erase target := by
  by_cases single : layout.paneCount ≤ 1
  · exact .inl ⟨by rw [detachLeaf, if_pos single], fun several => Nat.not_lt.mpr single several.1⟩
  by_cases present : layout.root.contains target = true
  · cases result : layout.root.removeNode target with
    | none =>
        have only := LayoutNode.removeNode_eq_none_iff.mp result
        rw [paneCount, only] at single
        exact absurd (Nat.le_refl 1) single
    | some root =>
        refine .inr ⟨root, ?_, Nat.not_le.mp single, LayoutNode.contains_iff.mp present,
          LayoutNode.removeNode_collectIds result⟩
        simp [detachLeaf, single, present, result]
  · refine .inl ⟨by simp [detachLeaf, present], fun found => ?_⟩
    exact present (LayoutNode.contains_iff.mpr found.2)

theorem attachPane_cases (layout : Layout R) (anchor incoming : Nat) (dir : Direction) :
    (layout.attachPane anchor incoming dir = (layout, false) ∧
        ¬(anchor ∈ layout.paneIds ∧ incoming ∉ layout.paneIds)) ∨
      ∃ after, layout.attachPane anchor incoming dir = (after, true) ∧ anchor ∈ layout.paneIds ∧
        incoming ∉ layout.paneIds ∧ after.paneIds = (layout.root.splitNode anchor incoming dir).collectIds ∧
        after.nextId = max layout.nextId (incoming + 1) := by
  by_cases anchored : layout.root.contains anchor = true
  · by_cases present : layout.root.contains incoming = true
    · refine .inl ⟨by simp [attachPane, anchored, present], fun fresh => ?_⟩
      exact fresh.2 (LayoutNode.contains_iff.mp present)
    · refine .inr ⟨_, by rw [attachPane, anchored, if_neg (by simp), if_neg present], LayoutNode.contains_iff.mp anchored,
        fun member => present (LayoutNode.contains_iff.mpr member), equalize_paneIds _, ?_⟩
      rw [equalize_nextId]
      simp only
      split
      · omega
      · omega
  · refine .inl ⟨by simp [attachPane, anchored], fun found => ?_⟩
    exact anchored (LayoutNode.contains_iff.mpr found.1)

omit [RatioOps R] in
theorem detachSoleLeaf_eq_some_iff {layout : Layout R} {target : Nat} :
    layout.detachSoleLeaf target = some target ↔ layout.paneIds = [target] := by
  obtain ⟨root, nextId⟩ := layout
  cases root with
  | leaf id => simp [detachSoleLeaf, paneCount, paneIds, LayoutNode.countLeaves]
  | split direction ratio first second =>
      have left := first.countLeaves_pos
      have right := second.countLeaves_pos
      have several : first.collectIds ++ second.collectIds ≠ [target] := by
        intro single
        have length := congrArg List.length single
        rw [List.length_append, ← LayoutNode.countLeaves_eq_length, ← LayoutNode.countLeaves_eq_length] at length
        simp only [List.length_singleton] at length
        omega
      simp [detachSoleLeaf, paneIds, several]

omit [RatioOps R] in
/-- Any leaf can be taken out, by exactly one of the two ways. -/
theorem detachLeaf_xor_sole {layout : Layout R} {target : Nat} (member : target ∈ layout.paneIds) :
    (layout.detachLeaf target).2 = some target ↔ layout.detachSoleLeaf target ≠ some target := by
  rw [ne_eq, detachSoleLeaf_eq_some_iff]
  rcases layout.detachLeaf_cases target with ⟨kept, refused⟩ | ⟨root, detached, several, _, _⟩
  · rw [kept]
    refine iff_of_false (by simp) (not_not_intro ?_)
    have single : layout.paneIds.length ≤ 1 := by
      rw [← paneCount_eq_length]
      exact Nat.not_lt.mp fun several => refused ⟨several, member⟩
    obtain ⟨id, only⟩ := List.length_eq_one_iff.mp (Nat.le_antisymm single (List.length_pos_of_mem member))
    rw [only, List.mem_singleton] at member
    rw [only, member]
  · rw [detached]
    refine iff_of_true rfl fun only => ?_
    rw [paneCount_eq_length, only] at several
    exact absurd several (Nat.lt_irrefl 1)

/-! ## A move -/

/-- A pane went from one layout to another, and nothing else changed. -/
structure Moved (id : Nat) (donor receiver left joined : Layout R) : Prop where
  union : ∀ pane, pane ∈ left.paneIds ∨ pane ∈ joined.paneIds ↔ pane ∈ donor.paneIds ∨ pane ∈ receiver.paneIds
  /-- the other leaves keep their tree order -/
  donorOrder : left.paneIds = donor.paneIds.filter fun pane => pane ≠ id
  receiverOrder : (joined.paneIds.filter fun pane => pane ≠ id) = receiver.paneIds
  donorDistinct : left.paneIds.Nodup
  receiverDistinct : joined.paneIds.Nodup
  donorBounded : (∀ pane ∈ donor.paneIds, pane < donor.nextId) → ∀ pane ∈ left.paneIds, pane < left.nextId
  receiverBounded : (∀ pane ∈ receiver.paneIds, pane < receiver.nextId) → ∀ pane ∈ joined.paneIds, pane < joined.nextId
  /-- the receiver's counter does not leave `usize` -/
  counter : (∀ pane ∈ donor.paneIds, pane < donor.nextId) → donor.nextId ≤ usizeMax → receiver.nextId ≤ usizeMax →
    joined.nextId ≤ usizeMax

theorem moved_of_detach_attach {donor receiver left joined : Layout R} {id anchor : Nat} {dir : Direction}
    (donorDistinct : donor.paneIds.Nodup) (receiverDistinct : receiver.paneIds.Nodup)
    (detached : donor.detachLeaf id = (left, some id)) (attached : receiver.attachPane anchor id dir = (joined, true)) :
    Moved id donor receiver left joined := by
  rcases donor.detachLeaf_cases id with ⟨kept, _⟩ | ⟨root, took, _, member, erased⟩
  · rw [kept] at detached
    cases detached
  rcases receiver.attachPane_cases anchor id dir with ⟨kept, _⟩ | ⟨after, joins, anchored, fresh, ids, counter⟩
  · rw [kept] at attached
    cases attached
  rw [took] at detached
  rw [joins] at attached
  cases detached
  cases attached
  have leftIds : Layout.paneIds { donor with root } = donor.paneIds.filter fun pane => pane ≠ id := by
    rw [paneIds, erased, donorDistinct.erase_eq_filter]
    simp [bne, beq_eq_decide]
  have joinedPerm : joined.paneIds.Perm (id :: receiver.paneIds) := by
    rw [ids]
    exact LayoutNode.splitNode_perm receiverDistinct anchored
  constructor
  · intro pane
    rw [leftIds, joinedPerm.mem_iff, List.mem_cons, List.mem_filter]
    by_cases same : pane = id
    · simp [same, member]
    · simp [same]
  · exact leftIds
  · rw [ids]
    exact LayoutNode.splitNode_filter fresh
  · rw [leftIds]
    exact donorDistinct.filter _
  · exact joinedPerm.nodup_iff.mpr (List.nodup_cons.mpr ⟨fresh, receiverDistinct⟩)
  · intro bounded pane remains
    rw [leftIds] at remains
    exact bounded pane (List.mem_of_mem_filter remains)
  · intro bounded pane listed
    rw [counter]
    rcases List.mem_cons.mp (joinedPerm.mem_iff.mp listed) with rfl | old
    · omega
    · have := bounded pane old
      omega
  · intro bounded donorFits receiverFits
    have := bounded id member
    omega

/-- A pane moves between layouts whenever the first gives it up and the second has
the anchor; whatever is refused changes nothing. -/
theorem move_conserves (donor receiver : Layout R) (target anchor : Nat) (dir : Direction)
    (donorDistinct : donor.paneIds.Nodup) (receiverDistinct : receiver.paneIds.Nodup) :
    ((donor.detachLeaf target).2 = some target → target ∉ receiver.paneIds → anchor ∈ receiver.paneIds →
      (receiver.attachPane anchor target dir).2 = true ∧
        Moved target donor receiver (donor.detachLeaf target).1 (receiver.attachPane anchor target dir).1) ∧
    ((donor.detachLeaf target).2 = none → (donor.detachLeaf target).1 = donor) ∧
    ((receiver.attachPane anchor target dir).2 = false → (receiver.attachPane anchor target dir).1 = receiver) ∧
    ((donor.remove target).2 = false → (donor.remove target).1 = donor) ∧
    ((donor.detachLeaf target).2 = some target ↔ 1 < donor.paneCount ∧ target ∈ donor.paneIds) ∧
    ((receiver.attachPane anchor target dir).2 = true ↔ anchor ∈ receiver.paneIds ∧ target ∉ receiver.paneIds) ∧
    ((donor.remove target).2 = true ↔ 1 < donor.paneCount ∧ target ∈ donor.paneIds) := by
  have detach := donor.detachLeaf_cases target
  have attach := receiver.attachPane_cases anchor target dir
  have remove := donor.remove_cases target
  refine ⟨?_, ?_, ?_, ?_, ?_, ?_, ?_⟩
  · intro detached absent anchored
    rcases attach with ⟨_, refused⟩ | ⟨joined, joins, _⟩
    · exact absurd ⟨anchored, absent⟩ refused
    · rw [joins]
      exact ⟨rfl, moved_of_detach_attach donorDistinct receiverDistinct (Prod.ext rfl detached) joins⟩
  · intro failed
    rcases detach with ⟨kept, _⟩ | ⟨root, took, _⟩
    · rw [kept]
    · rw [took] at failed
      cases failed
  · intro failed
    rcases attach with ⟨kept, _⟩ | ⟨joined, joins, _⟩
    · rw [kept]
    · rw [joins] at failed
      cases failed
  · intro failed
    rcases remove with ⟨kept, _⟩ | ⟨root, removed, _⟩
    · rw [kept]
    · rw [removed] at failed
      cases failed
  · rcases detach with ⟨kept, refused⟩ | ⟨root, took, several, member, _⟩
    · rw [kept]
      exact iff_of_false (by simp) refused
    · rw [took]
      exact iff_of_true rfl ⟨several, member⟩
  · rcases attach with ⟨kept, refused⟩ | ⟨joined, joins, anchored, fresh, _⟩
    · rw [kept]
      exact iff_of_false (by simp) refused
    · rw [joins]
      exact iff_of_true rfl ⟨anchored, fresh⟩
  · rcases remove with ⟨kept, refused⟩ | ⟨root, removed, several, member, _⟩
    · rw [kept]
      refine iff_of_false (by simp) fun accepted => ?_
      rcases refused with single | absent
      · exact Nat.not_lt.mpr single accepted.1
      · exact absent accepted.2
    · rw [removed]
      exact iff_of_true rfl ⟨several, member⟩

/-- The right pane of two goes below the pane of another layout. -/
theorem move_right_pane :
    Moved 1 (fromGrid 1 2 : Layout ℚ) (singleton 7 8) ((fromGrid 1 2 : Layout ℚ).detachLeaf 1).1
      ((singleton 7 8 : Layout ℚ).attachPane 7 1 .vertical).1 :=
  ((move_conserves (fromGrid 1 2 : Layout ℚ) (singleton 7 8) 1 7 .vertical (fromGrid_wellFormed 1 2).distinct
    (singleton_wellFormed 7 8).distinct).1 (by decide +kernel) (by decide) (by decide)).2

/-- The caller names the anchor: at one the receiver does not have, the detached pane is in neither layout. -/
theorem unanchored_pane_lost :
    ¬∀ (donor receiver : Layout ℚ) (target anchor : Nat) (dir : Direction), donor.paneIds.Nodup → receiver.paneIds.Nodup →
      (donor.detachLeaf target).2 = some target → target ∉ receiver.paneIds →
      ∀ pane, pane ∈ (donor.detachLeaf target).1.paneIds ∨ pane ∈ (receiver.attachPane anchor target dir).1.paneIds ↔
        pane ∈ donor.paneIds ∨ pane ∈ receiver.paneIds := by
  intro conserves
  have lost := conserves (fromGrid 1 2) (singleton 7 8) 1 9 .vertical (fromGrid_wellFormed 1 2).distinct
    (singleton_wellFormed 7 8).distinct (by decide +kernel) (by decide) 1
  exact absurd (lost.mpr (by decide +kernel)) (by decide +kernel)

end Layout

end Ezpn
