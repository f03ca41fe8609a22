import Ezpn.BootstrapProperties

/-!
# Tabs

A tab has its own layout and panes. The state of the active tab is unpacked into
the server loop; the manager stores the others, in order, with a gap where the
active one belongs.
-/

set_option autoImplicit false

namespace Ezpn

structure Tab (R G : Type) where
  name : String
  layout : Layout R
  panes : PaneMap G
  activePane : Nat
  restartPolicies : IdMap RestartPolicy := ∅
  restartState : RestartState := ∅
  zoomedPane : Option Nat := none
  broadcast : Bool := false

structure TabManager (R G : Type) where
  /-- inactive tabs in logical order -/
  tabs : List (Tab R G) := []
  activeIdx : Nat := 0
  /-- number of tabs, with the active one -/
  count : Nat := 1
  /-- counter for naming new tabs; the first tab is "1" -/
  nextId : Nat := 2
  stored : tabs.length + 1 = count := by rfl
  inRange : activeIdx < count := by decide

namespace TabManager
variable {R G : Type}

/-- Take a tab out of an ordered list, as the active one. -/
def takeOut (tabs : List (Tab R G)) (idx nextId : Nat) (inRange : idx < tabs.length) :
    TabManager R G × Tab R G :=
  ({ tabs := tabs.eraseIdx idx
     activeIdx := idx
     count := tabs.length
     nextId
     stored := by rw [List.length_eraseIdx_of_lt inRange]; omega
     inRange },
    tabs[idx])

def fromTabs (tabs : List (Tab R G)) (activeIdx : Nat) (nonempty : 0 < tabs.length) : TabManager R G × Tab R G :=
  takeOut tabs (min activeIdx (tabs.length - 1)) (tabs.length + 1) (by omega)

/-- All tabs in logical order, once the active one is put back. -/
def withActive (mgr : TabManager R G) (current : Tab R G) : List (Tab R G) :=
  mgr.tabs.insertIdx (min mgr.activeIdx mgr.tabs.length) current

@[simp] theorem withActive_length (mgr : TabManager R G) (current : Tab R G) :
    (mgr.withActive current).length = mgr.count := by
  rw [withActive, List.length_insertIdx_of_le_length (Nat.min_le_right _ _), mgr.stored]

theorem activeIdx_le (mgr : TabManager R G) : mgr.activeIdx ≤ mgr.tabs.length := by
  have := mgr.stored
  have := mgr.inRange
  omega

theorem withActive_eq (mgr : TabManager R G) (current : Tab R G) :
    mgr.withActive current = mgr.tabs.insertIdx mgr.activeIdx current := by
  rw [withActive, Nat.min_eq_left mgr.activeIdx_le]

/-- Store the current tab and take out another; `none` for the active index or one out of range. -/
def switchTo (mgr : TabManager R G) (target : Nat) (current : Tab R G) : Option (TabManager R G × Tab R G) :=
  if valid : target = mgr.activeIdx ∨ target ≥ mgr.count then none
  else some (takeOut (mgr.withActive current) target mgr.nextId (by rw [withActive_length]; omega))

/-- Store the current tab and open a gap at the end for a new one, with its name. -/
def createTab (mgr : TabManager R G) (current : Tab R G) : TabManager R G × String :=
  ({ tabs := mgr.withActive current
     activeIdx := mgr.count
     count := mgr.count + 1
     nextId := mgr.nextId + 1
     stored := by rw [withActive_length]
     inRange := Nat.lt_succ_self _ },
    toString mgr.nextId)

/-- Drop the active tab for its right neighbour, or the new last tab; `none` for the only tab. -/
def closeActive (mgr : TabManager R G) : Option (TabManager R G × Tab R G) :=
  if several : mgr.count ≤ 1 then none
  else
    let count := mgr.count - 1
    let newActive := if mgr.activeIdx ≥ count then count - 1 else mgr.activeIdx
    have inRange : newActive < mgr.tabs.length := by
      have := mgr.stored
      simp only [newActive, count]
      split <;> omega
    some (takeOut mgr.tabs newActive mgr.nextId inRange)

/-- An inactive tab by logical index. -/
def getInactive (mgr : TabManager R G) (idx : Nat) : Option (Tab R G) :=
  if idx = mgr.activeIdx || idx ≥ mgr.count then none
  else mgr.tabs[if idx < mgr.activeIdx then idx else idx - 1]?

/-- Change every inactive tab in place. -/
def mapInactive (mgr : TabManager R G) (change : Tab R G → Tab R G) : TabManager R G :=
  { mgr with tabs := mgr.tabs.map change, stored := by rw [List.length_map]; exact mgr.stored }

/-- Put back as many stored tabs, changed in place. -/
def replaceStored (mgr : TabManager R G) (tabs : List (Tab R G)) : TabManager R G :=
  if same : tabs.length = mgr.tabs.length then { mgr with tabs, stored := by rw [same]; exact mgr.stored } else mgr

/-- Visit the logical indices from `i` on, taking stored tabs in turn everywhere but at the gap. -/
def tabNamesFrom (activeIdx : Nat) (activeTabName : String) :
    (visits i : Nat) → List (Tab R G) → List (Nat × String × Bool)
  | 0, _, _ => []
  | visits + 1, i, stored =>
      if i = activeIdx then (i, activeTabName, true) :: tabNamesFrom activeIdx activeTabName visits (i + 1) stored
      else match stored with
        | [] => tabNamesFrom activeIdx activeTabName visits (i + 1) []
        | tab :: stored => (i, tab.name, false) :: tabNamesFrom activeIdx activeTabName visits (i + 1) stored

/-- `(index, name, is_active)` of every tab in order. -/
def tabNames (mgr : TabManager R G) (activeTabName : String) : List (Nat × String × Bool) :=
  tabNamesFrom mgr.activeIdx activeTabName mgr.count 0 mgr.tabs

/-! ## Order -/

theorem getElem_withActive (mgr : TabManager R G) (current : Tab R G) :
    (mgr.withActive current)[mgr.activeIdx]? = some current := by
  rw [withActive_eq, List.getElem?_insertIdx_self, if_pos mgr.activeIdx_le]

/-- Everything but the active tab is stored. -/
theorem eraseIdx_withActive (mgr : TabManager R G) (current : Tab R G) :
    (mgr.withActive current).eraseIdx mgr.activeIdx = mgr.tabs := by
  rw [withActive_eq, List.eraseIdx_insertIdx_self]

/-- Storage holds the tab at a logical index on either side of the gap. -/
theorem getElem_withActive_of_ne (mgr : TabManager R G) (current : Tab R G) {idx : Nat}
    (inactive : idx ≠ mgr.activeIdx) :
    (mgr.withActive current)[idx]? = mgr.tabs[if idx < mgr.activeIdx then idx else idx - 1]? := by
  rw [withActive_eq]
  split
  · rename_i before
    rw [List.getElem?_insertIdx_of_lt before]
  · rw [List.getElem?_insertIdx_of_gt (by omega)]

theorem getInactive_eq (mgr : TabManager R G) (current : Tab R G) {idx : Nat} (inactive : idx ≠ mgr.activeIdx) :
    mgr.getInactive idx = (mgr.withActive current)[idx]? := by
  simp only [getInactive, mgr.getElem_withActive_of_ne current inactive, inactive, decide_false, Bool.false_or,
    decide_eq_true_eq]
  split
  · symm
    have := mgr.stored
    have := mgr.inRange
    rw [List.getElem?_eq_none_iff]
    split <;> omega
  · rfl

/-- Taking a tab out and putting it back leaves the order as it was. -/
@[simp] theorem takeOut_withActive (tabs : List (Tab R G)) (idx nextId : Nat) (inRange : idx < tabs.length) :
    (takeOut tabs idx nextId inRange).1.withActive (takeOut tabs idx nextId inRange).2 = tabs := by
  rw [withActive_eq]
  simp only [takeOut]
  rw [List.insertIdx_eraseIdx_self]
  · simp
  · omega

/-- Closing a tab just created takes out the last of the old ones. -/
theorem closeActive_createTab (mgr : TabManager R G) (current : Tab R G) :
    (mgr.createTab current).1.closeActive =
      some (takeOut (mgr.withActive current) (mgr.count - 1) (mgr.nextId + 1)
        (by rw [withActive_length]; have := mgr.inRange; omega)) := by
  have several : ¬mgr.count + 1 ≤ 1 := by
    have := mgr.inRange
    omega
  simp only [closeActive, createTab, several, dite_false, Nat.add_sub_cancel, ge_iff_le, Nat.le_refl, if_true]

private theorem filterMap_getElem {α β : Type} (g : Nat → α → β) (items : List α) :
    ((List.range items.length).filterMap fun i => (items[i]?).map (g i)) =
      items.zipIdx.map fun (item, i) => g i item := by
  induction items using List.reverseRecOn with
  | nil => rfl
  | append_singleton items last ih =>
      have before (i : Nat) (member : i ∈ List.range items.length) :
          ((items ++ [last])[i]?).map (g i) = (items[i]?).map (g i) := by
        rw [List.getElem?_append_left (List.mem_range.mp member)]
      simp [List.range_succ, List.filterMap_append, List.filterMap_congr before, ih, List.zipIdx_append]

/-- Visiting the logical indices visits all tabs in order. -/
theorem filterMap_tabs {β : Type} (mgr : TabManager R G) (current : Tab R G) (g : Nat → Tab R G → β) :
    ((List.range mgr.count).filterMap fun i =>
      if i = mgr.activeIdx then some (g i current) else (mgr.getInactive i).map (g i)) =
      (mgr.withActive current).zipIdx.map fun (tab, i) => g i tab := by
  have visited (i : Nat) (member : i ∈ List.range mgr.count) :
      (if i = mgr.activeIdx then some (g i current) else (mgr.getInactive i).map (g i)) =
        ((mgr.withActive current)[i]?).map (g i) := by
    split
    · rename_i same
      rw [same, getElem_withActive]
      rfl
    · rename_i other
      rw [mgr.getInactive_eq current other]
  rw [List.filterMap_congr visited, ← withActive_length mgr current]
  exact filterMap_getElem _ _

end TabManager

end Ezpn
