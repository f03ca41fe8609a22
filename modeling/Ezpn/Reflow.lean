import Ezpn.BootstrapProperties
import Ezpn.Layout.Arranged

/-!
# Reflowing a layout

The traversal with an explicit stack that gives a new tree the ids of the running
panes, and what a layout spec does to a layout of running panes.
-/

set_option autoImplicit false

namespace Ezpn
namespace LayoutNode
variable {R : Type}

/-! ## The traversal -/

/-- The node at the end of a path; `true` turns to the second child. -/
def node? (node : LayoutNode R) : (path : List Bool) → Option (LayoutNode R)
  | [] => some node
  | turn :: path =>
      match node with
      | leaf _ => none
      | split _ _ first second => if turn then second.node? path else first.node? path

def setNode (node : LayoutNode R) (path : List Bool) (new : LayoutNode R) : LayoutNode R :=
  match path with
  | [] => new
  | turn :: path =>
      match node with
      | leaf id => leaf id
      | split direction ratio first second =>
          if turn then split direction ratio first (second.setNode path new)
          else split direction ratio (first.setNode path new) second

/-- The loop of `reconfigure_layout`: a stack of nodes to visit, the last pushed first. -/
def reflowLoop : (fuel : Nat) → (pending : List (List Bool)) → (ids : List Nat) → LayoutNode R →
    Option (Except String (LayoutNode R))
  | 0, _, _, _ => none
  | _ + 1, [], _, root => some (.ok root)
  | fuel + 1, path :: pending, ids, root =>
      match root.node? path with
      | none => none
      | some (leaf _) =>
          match ids with
          | [] => some (.error "layout leaf count mismatch")
          | id :: ids => reflowLoop fuel pending ids (root.setNode path (leaf id))
      | some (split _ _ _ _) => reflowLoop fuel ((path ++ [false]) :: (path ++ [true]) :: pending) ids root

theorem reflowLoop_cons (fuel : Nat) (path : List Bool) (pending : List (List Bool)) (ids : List Nat) (root : LayoutNode R) :
    reflowLoop (fuel + 1) (path :: pending) ids root =
      match root.node? path with
      | none => none
      | some (leaf _) =>
          match ids with
          | [] => some (.error "layout leaf count mismatch")
          | id :: ids => reflowLoop fuel pending ids (root.setNode path (leaf id))
      | some (split _ _ _ _) => reflowLoop fuel ((path ++ [false]) :: (path ++ [true]) :: pending) ids root := by
  rw [reflowLoop.eq_def]

/-- The visits that a tree takes. -/
def visits : LayoutNode R → Nat
  | leaf _ => 1
  | split _ _ first second => 1 + first.visits + second.visits

theorem node?_append {root node : LayoutNode R} {path : List Bool} (here : root.node? path = some node) (more : List Bool) :
    root.node? (path ++ more) = node.node? more := by
  induction path generalizing root with
  | nil =>
      rw [node?, Option.some.injEq] at here
      rw [here, List.nil_append]
  | cons turn path ih =>
      cases root with
      | leaf id => cases here
      | split direction ratio first second =>
          cases turn
          · exact @ih first here
          · exact @ih second here

theorem setNode_append {root node : LayoutNode R} {path : List Bool} (here : root.node? path = some node)
    (more : List Bool) (new : LayoutNode R) :
    root.setNode (path ++ more) new = root.setNode path (node.setNode more new) := by
  induction path generalizing root with
  | nil =>
      rw [node?, Option.some.injEq] at here
      simp only [here, List.nil_append, setNode]
  | cons turn path ih =>
      cases root with
      | leaf id => cases here
      | split direction ratio first second =>
          cases turn
          · exact congrArg (split direction ratio · second) (@ih first here)
          · exact congrArg (split direction ratio first) (@ih second here)

theorem node?_setNode {root node : LayoutNode R} {path : List Bool} (here : root.node? path = some node) (new : LayoutNode R) :
    (root.setNode path new).node? path = some new := by
  induction path generalizing root with
  | nil => rw [setNode, node?]
  | cons turn path ih =>
      cases root with
      | leaf id => cases here
      | split direction ratio first second =>
          cases turn
          · exact @ih first here
          · exact @ih second here

theorem setNode_setNode {root node : LayoutNode R} {path : List Bool} (here : root.node? path = some node)
    (a b : LayoutNode R) : (root.setNode path a).setNode path b = root.setNode path b := by
  induction path generalizing root with
  | nil => rw [setNode, setNode]
  | cons turn path ih =>
      cases root with
      | leaf id => cases here
      | split direction ratio first second =>
          cases turn
          · exact congrArg (split direction ratio · second) (@ih first here)
          · exact congrArg (split direction ratio first) (@ih second here)

/-- The visits to one subtree relabel it in tree order. -/
theorem reflowLoop_node {node root : LayoutNode R} {path : List Bool} (here : root.node? path = some node) (fuel : Nat)
    (pending : List (List Bool)) (ids : List Nat) :
    reflowLoop (node.visits + fuel) (path :: pending) ids root =
      match node.relabel ids with
      | .error message => some (.error message)
      | .ok (relabelled, rest) => reflowLoop fuel pending rest (root.setNode path relabelled) := by
  induction node generalizing root path fuel pending ids with
  | leaf id =>
      rw [visits, Nat.add_comm, reflowLoop_cons, here]
      cases ids <;> rfl
  | split direction ratio first second ihFirst ihSecond =>
      have left : root.node? (path ++ [false]) = some first := by
        rw [node?_append here]
        simp [node?]
      have enough : (split direction ratio first second).visits + fuel = (first.visits + (second.visits + fuel)) + 1 := by
        rw [visits]
        omega
      rw [enough, reflowLoop_cons, here]
      dsimp only
      rw [ihFirst left, relabel]
      cases relabelled : first.relabel ids with
      | error message => rfl
      | ok result =>
          obtain ⟨newFirst, middle⟩ := result
          dsimp only
          have placed : root.setNode (path ++ [false]) newFirst = root.setNode path (split direction ratio newFirst second) := by
            rw [setNode_append here]
            simp [setNode]
          have there := node?_setNode here (split direction ratio newFirst second)
          have right : (root.setNode path (split direction ratio newFirst second)).node? (path ++ [true]) = some second := by
            rw [node?_append there]
            simp [node?]
          rw [placed, ihSecond right]
          cases second.relabel middle with
          | error message => rfl
          | ok result =>
              obtain ⟨newSecond, rest⟩ := result
              dsimp only
              rw [setNode_append there]
              rw [setNode_setNode here]
              simp [setNode]

/-- The traversal is the relabelling in tree order. -/
theorem reflowLoop_eq (root : LayoutNode R) (ids : List Nat) {fuel : Nat} (enough : root.visits < fuel) :
    reflowLoop fuel [[]] ids root = some ((root.relabel ids).map Prod.fst) := by
  obtain ⟨more, rfl⟩ : ∃ more, fuel = root.visits + (more + 1) := ⟨fuel - root.visits - 1, by omega⟩
  have here : root.node? [] = some root := by rw [node?]
  rw [reflowLoop_node here]
  cases root.relabel ids with
  | error message => rfl
  | ok result =>
      dsimp only
      rw [setNode, reflowLoop, Except.map]

theorem visits_lt (node : LayoutNode R) : node.visits < 2 * node.countLeaves := by
  induction node with
  | leaf id => exact Nat.lt_succ_self 1
  | split direction ratio first second ihFirst ihSecond =>
      rw [visits, countLeaves]
      omega

/-- Enough ids relabel a tree. -/
theorem relabel_enough {node : LayoutNode R} {ids : List Nat} (enough : node.countLeaves ≤ ids.length) :
    ∃ root rest, node.relabel ids = .ok (root, rest) := by
  induction node generalizing ids with
  | leaf id =>
      cases ids with
      | nil => simp [countLeaves] at enough
      | cons id ids => exact ⟨_, _, rfl⟩
  | split direction ratio first second ihFirst ihSecond =>
      rw [countLeaves] at enough
      obtain ⟨newFirst, middle, left⟩ := ihFirst (show first.countLeaves ≤ ids.length by omega)
      have used := congrArg List.length (relabel_ok left)
      rw [List.length_append, ← countLeaves_eq_length, relabel_countLeaves left] at used
      obtain ⟨newSecond, rest, right⟩ := ihSecond (show second.countLeaves ≤ middle.length by omega)
      refine ⟨split direction ratio newFirst newSecond, rest, ?_⟩
      simp only [relabel, left, right]

/-- Relabelling moves no separator. -/
theorem relabel_shares {node root : LayoutNode ℚ} {ids rest : List Nat} (done : node.relabel ids = .ok (root, rest))
    (axis : Direction) (share : ℚ) : root.shares axis share = node.shares axis share := by
  induction node generalizing ids root rest share with
  | leaf id =>
      cases ids with
      | nil => cases done
      | cons id ids =>
          cases done
          rfl
  | split direction ratio first second ihFirst ihSecond =>
      rw [relabel] at done
      split at done
      · cases done
      · rename_i left
        split at done
        · cases done
        · rename_i right
          cases done
          rw [shares, shares, ihFirst left, ihFirst left, ihSecond right, ihSecond right]

end LayoutNode

section Reconfigure
variable {R : Type} [RatioOps R]

/-- `reconfigure_layout` with its traversal, `none` when the fuel does not last. -/
def reflowLayout (fuel : Nat) (layout : Layout R) (spec : String) : Option (Layout R × Except String Unit) :=
  match Layout.fromSpec (R := R) spec.toList with
  | .error message => some (layout, .error message)
  | .ok candidate =>
      let ids := layout.paneIds
      if candidate.paneCount ≠ ids.length then
        some (layout, .error s!"layout requires {candidate.paneCount} panes, but {ids.length} are running; split or close panes explicitly first")
      else match candidate.root.reflowLoop fuel [[]] ids with
        | none => none
        | some (.error message) => some (layout, .error message)
        | some (.ok root) => some ({ root, nextId := layout.nextId }, .ok ())

theorem reflowLayout_eq {layout : Layout R} {spec : String} {fuel : Nat}
    (enough : ∀ candidate : Layout R, Layout.fromSpec spec.toList = .ok candidate → candidate.root.visits < fuel) :
    reflowLayout fuel layout spec = some (reconfigureLayout layout spec) := by
  unfold reflowLayout reconfigureLayout
  cases accepted : Layout.fromSpec (R := R) spec.toList with
  | error message => rfl
  | ok candidate =>
      dsimp only
      split
      · rfl
      · rw [LayoutNode.reflowLoop_eq candidate.root layout.paneIds (enough candidate accepted)]
        cases candidate.root.relabel layout.paneIds <;> rfl

/-- A spec has at most 100 leaves, so 200 visits are enough for its tree. -/
theorem fromSpec_visits {spec : List Char} {candidate : Layout R} (accepted : Layout.fromSpec spec = .ok candidate) :
    candidate.root.visits < 200 := by
  obtain ⟨few, ids, _⟩ := Layout.fromSpec_cases accepted
  have leaves := candidate.root.countLeaves_eq_length
  rw [← Layout.paneIds, ids, List.length_range'] at leaves
  have bound := candidate.root.visits_lt
  omega

end Reconfigure

/-- What a reflow leaves: the running panes in their order, laid out in the rows of the spec. -/
structure Reflowed (before after : Layout ℚ) (rows : List (List Nat)) : Prop where
  ids : after.paneIds = before.paneIds
  nextId : after.nextId = before.nextId
  count : before.paneIds.length = (rows.map List.length).sum
  heights : after.root.shares .vertical 1 = rows.flatMap fun row => row.map fun (_ : Nat) => 1 / (rows.length : ℚ)
  widths : after.root.shares .horizontal 1 = rows.flatMap fun row => row.map fun (w : Nat) => (w : ℚ) / (row.sum : ℕ)

/-- A reflow lays the panes out, when the spec describes rows for exactly as many. -/
theorem reconfigureLayout_ok (layout : Layout ℚ) {spec : String} {rows : List (List Nat)}
    (described : Layout.Describes (Text.trim spec.toList) rows) :
    ((reconfigureLayout layout spec).2 = .ok () ∧ Reflowed layout (reconfigureLayout layout spec).1 rows) ∨
      ((rows.map List.length).sum ≠ layout.paneIds.length ∧
        ∃ message, reconfigureLayout layout spec = (layout, .error message)) := by
  have accepted := Layout.fromSpec_iff.mpr ⟨rows, described, rfl⟩
  have arranged := Layout.fromSpec_arranged accepted described
  have count : (Layout.fromRows ℚ rows).paneCount = (rows.map List.length).sum := by
    rw [Layout.paneCount, LayoutNode.countLeaves_eq_length, ← Layout.paneIds, arranged.ids, List.length_range, arranged.count]
  by_cases same : (Layout.fromRows ℚ rows).paneCount = layout.paneIds.length
  · obtain ⟨root, rest, relabelled⟩ := LayoutNode.relabel_enough (show _ ≤ layout.paneIds.length from le_of_eq same)
    have reflowed : reconfigureLayout layout spec = ({ root, nextId := layout.nextId }, .ok ()) := by
      unfold reconfigureLayout
      rw [accepted]
      dsimp only
      rw [if_neg (not_not.mpr same), relabelled]
    left
    rcases reconfigureLayout_cases layout spec with ⟨message, failed⟩ | ⟨root', applied, ids⟩
    · rw [failed] at reflowed
      cases congrArg Prod.snd reflowed
    · rw [applied] at reflowed
      cases reflowed
      rw [applied]
      refine ⟨rfl, ids, rfl, by rw [← same, count], ?_, ?_⟩
      · rw [LayoutNode.relabel_shares relabelled, arranged.heights]
      · rw [LayoutNode.relabel_shares relabelled, arranged.widths]
  · right
    refine ⟨by rwa [count] at same, ?_⟩
    unfold reconfigureLayout
    rw [accepted]
    dsimp only
    rw [if_pos same]
    exact ⟨_, rfl⟩

/-- Specs are accepted exactly when they describe rows, and are laid out and reflowed as these rows. -/
theorem layoutSpec_builds (spec : String) :
    ((∃ layout : Layout ℚ, Layout.fromSpec spec.toList = .ok layout) ↔ ∃ rows, Layout.Describes (Text.trim spec.toList) rows) ∧
      (∀ (layout : Layout ℚ) (rows : List (List Nat)), Layout.fromSpec spec.toList = .ok layout →
        Layout.Describes (Text.trim spec.toList) rows → Layout.Arranged layout rows) ∧
      ∀ (layout : Layout ℚ) (fuel : Nat), 200 ≤ fuel → ∃ after, reflowLayout fuel layout spec = some after ∧
        (after.2.isOk = false → after.1 = layout) ∧
        (after.2.isOk = true → ∃ rows, Layout.Describes (Text.trim spec.toList) rows ∧ Reflowed layout after.1 rows) ∧
        (after.2.isOk = true ↔
          ∃ rows, Layout.Describes (Text.trim spec.toList) rows ∧ (rows.map List.length).sum = layout.paneIds.length) := by
  refine ⟨?_, fun layout rows accepted described => Layout.fromSpec_arranged accepted described, ?_⟩
  · constructor
    · rintro ⟨layout, accepted⟩
      obtain ⟨rows, described, _⟩ := Layout.fromSpec_iff.mp accepted
      exact ⟨rows, described⟩
    · rintro ⟨rows, described⟩
      exact ⟨_, Layout.fromSpec_iff.mpr ⟨rows, described, rfl⟩⟩
  · intro layout fuel enough
    have visits (candidate : Layout ℚ) (accepted : Layout.fromSpec spec.toList = .ok candidate) : candidate.root.visits < fuel :=
      lt_of_lt_of_le (fromSpec_visits accepted) enough
    refine ⟨reconfigureLayout layout spec, reflowLayout_eq visits, ?_⟩
    by_cases readable : ∃ rows, Layout.Describes (Text.trim spec.toList) rows
    · obtain ⟨rows, described⟩ := readable
      rcases reconfigureLayout_ok layout described with ⟨ok, reflowed⟩ | ⟨differs, message, failed⟩
      · rw [ok]
        exact ⟨nofun, fun _ => ⟨rows, described, reflowed⟩, fun _ => ⟨rows, described, reflowed.count.symm⟩, fun _ => rfl⟩
      · rw [failed]
        refine ⟨fun _ => rfl, nofun, nofun, ?_⟩
        rintro ⟨rows', described', same⟩
        rcases reconfigureLayout_ok layout described' with ⟨ok, _⟩ | ⟨differs', _⟩
        · rw [failed] at ok
          cases ok
        · exact absurd same differs'
    · have failed : ∃ message, reconfigureLayout layout spec = (layout, .error message) := by
        unfold reconfigureLayout
        split
        · exact ⟨_, rfl⟩
        · rename_i candidate accepted
          obtain ⟨rows, described, _⟩ := Layout.fromSpec_iff.mp accepted
          exact absurd ⟨rows, described⟩ readable
      obtain ⟨message, failed⟩ := failed
      rw [failed]
      exact ⟨fun _ => rfl, nofun, nofun, fun ⟨rows, described, _⟩ => absurd ⟨rows, described⟩ readable⟩

/-- Four panes in one column, with ids out of order. -/
def fourRows : Layout ℚ :=
  { root := .split .vertical (1 / 4) (.leaf 5) (.split .vertical (1 / 3) (.leaf 2)
      (.split .vertical (1 / 2) (.leaf 9) (.leaf 7)))
    nextId := 10 }

theorem fourRows_reflowed : ∃ after, reflowLayout 200 fourRows " ide " = some after ∧ after.1.paneIds = [5, 2, 9, 7] ∧
    after.1.root.shares .horizontal 1 = [7 / 10, 3 / 10, 1 / 2, 1 / 2] := by
  obtain ⟨accepted, arranged, reflows⟩ := layoutSpec_builds " ide "
  obtain ⟨after, ran, _, applied, ok⟩ := reflows fourRows 200 (Nat.le_refl _)
  have ide : Layout.Describes (Text.trim " ide ".toList) [[7, 3], [1, 1]] := by
    left
    decide
  have built := arranged _ _ (Layout.fromSpec_iff.mpr ⟨_, ide, rfl⟩) ide
  obtain ⟨rows, described, reflowed⟩ := applied (ok.mpr ⟨_, ide, rfl⟩)
  have widths := reflowed.widths
  have same := (arranged _ _ (Layout.fromSpec_iff.mpr ⟨_, ide, rfl⟩) described).widths
  rw [built.widths] at same
  refine ⟨after, ran, reflowed.ids, ?_⟩
  rw [widths, ← same]
  norm_num

end Ezpn
